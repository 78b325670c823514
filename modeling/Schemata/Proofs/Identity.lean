import Schemata.Operation
import Schemata.Script

/-!
# The identity is the recorded name

What an operation writes to the host's resource while it has a session fits together: a
record with its name as the identity, a new name as identity and as recorded name, or
nothing at all.  Only creating and adopting give a schema's name to the resource before the
catalog was read, and leave what was recorded as it is.  So the identity is the recorded
name as long as neither is begun on a resource that records another schema, and a host that
does begin it can lose the agreement (`identity_is_recorded_name`).
-/

namespace Schemata

/-! ## What a procedure stores -/

namespace Procedure

/-- Every resource that the procedure stores has the property, whatever its calls are
answered. -/
def Stores (P : Resource → Prop) : Procedure → Prop
  | .done _ => True
  | .store resource next => P resource ∧ next.Stores P
  | .log _ next => next.Stores P
  | .call request next => ∀ reply : request.Reply, (next reply).Stores P

variable {P : Resource → Prop} {resource : Resource}

theorem Stores.run {σ : Type} {procedure : Procedure} (h : procedure.Stores P)
    (hresource : P resource) (server : Server σ) (state : σ) :
    P (procedure.run server resource state).resource := by
  induction procedure generalizing resource state with
  | done result => exact hresource
  | store stored next ih => exact ih h.2 h.1 state
  | log event next ih => exact ih h hresource state
  | call request next ih => exact ih _ (h _) hresource _

theorem stores_finish (result : Except Error Unit) : (finish result).Stores P :=
  fun _ => trivial

theorem stores_withSession {body : Procedure} (hbody : body.Stores P) :
    (withSession body).Stores P := by
  intro reply
  cases reply with
  | ok _ => exact hbody
  | error fault => trivial

theorem stores_execute {statement : Statement} {next : Procedure} (hnext : next.Stores P) :
    (execute statement next).Stores P := by
  intro reply
  cases reply with
  | ok _ => exact hnext
  | error fault => exact stores_finish _

/-- The property holds of whatever is written to a resource in the course of a session, apart
from the name of a schema that was just created. -/
structure IsWritten (P : Resource → Prop) : Prop where
  observe : ∀ (resource : Resource) (record : Record), P (resource.observe record)
  clear : ∀ resource : Resource, P (resource.setId none)
  rename : ∀ (resource : Resource) (target : String),
    P ((resource.set .name target).setId (some target))

section

variable (hwritten : IsWritten P)
include hwritten

theorem stores_readBack (resource : Resource) : (readBack resource).Stores P := by
  cases hid : resource.id with
  | none =>
    simp only [readBack, hid]
    exact stores_finish _
  | some name =>
    simp only [readBack, hid]
    intro reply
    rcases reply with fault | _ | record
    · exact stores_finish _
    · exact ⟨hwritten.clear resource, stores_finish _⟩
    · exact ⟨hwritten.observe resource record, stores_finish _⟩

theorem stores_read (resource : Resource) : (read resource).Stores P := by
  cases hid : resource.id with
  | none =>
    simp only [read, hid]
    trivial
  | some name =>
    simp only [read, hid]
    exact stores_withSession (stores_readBack hwritten resource)

theorem stores_makeChanges (changes : List Change) (resource : Resource) :
    (makeChanges changes resource).Stores P := by
  induction changes generalizing resource with
  | nil => exact stores_readBack hwritten resource
  | cons change rest ih =>
    cases change with
    | rename source target => exact stores_execute ⟨hwritten.rename resource target, ih _⟩
    | changeOwner schema target => exact stores_execute (ih resource)

theorem stores_update (resource : Resource) : (update resource).Stores P := by
  rw [update]
  cases resource.diff with
  | error error => trivial
  | ok changes => exact stores_withSession (stores_makeChanges hwritten changes resource)

theorem stores_delete (behavior : DropBehavior) (resource : Resource) :
    (delete behavior resource).Stores P := by
  rw [delete]
  cases resource.id <|> resource.get .name with
  | none => trivial
  | some name =>
    exact stores_withSession (stores_execute fun _ => ⟨hwritten.clear resource, trivial⟩)

end

end Procedure

namespace Operation

/-- The name that an operation gives to the resource before it reads the catalog. -/
def assumedName : Operation → Resource → Option String
  | .create, resource => (resource.get .name).filter (· ≠ "")
  | .adopt name, _ => some name
  | .read, _ | .update, _ | .delete _, _ => none

variable {operation : Operation} {resource : Resource}

theorem create_eq (resource : Resource) :
    Procedure.create resource =
      match create.assumedName resource with
      | none => .done (.error (.emptyValue .name))
      | some name =>
        .withSession <| .execute (.creating name (resource.get .owner)) <|
          .log (.schemaCreated name) <| .store (resource.setId (some name)) <|
            .readBack (resource.setId (some name)) := by
  rw [Procedure.create, assumedName]
  cases resource.get .name with
  | none => rfl
  | some name =>
    by_cases hname : name = ""
    · subst hname
      rfl
    · have hassumed : (some name).filter (· ≠ "") = some name := by simp [hname]
      rw [hassumed, Option.getD_some, if_neg hname]

theorem stores {P : Resource → Prop} (hwritten : Procedure.IsWritten P)
    (hassumed : ∀ name, operation.assumedName resource = some name →
      P (resource.setId (some name))) :
    (operation.procedure resource).Stores P := by
  cases operation with
  | create =>
    change (Procedure.create resource).Stores P
    rw [create_eq]
    cases hname : create.assumedName resource with
    | none => trivial
    | some name =>
      exact Procedure.stores_withSession (Procedure.stores_execute
        ⟨hassumed name hname, Procedure.stores_readBack hwritten _⟩)
  | read => exact Procedure.stores_read hwritten resource
  | update => exact Procedure.stores_update hwritten resource
  | delete behavior => exact Procedure.stores_delete hwritten behavior resource
  | adopt name => exact ⟨hassumed name rfl, Procedure.stores_read hwritten _⟩

end Operation

/-! ## Agreement of identity and record -/

namespace Resource

variable {resource : Resource} {record : Record}

theorem record_eq_some_iff :
    resource.record = some record ↔
      resource.id ≠ none ∧ resource.recorded = .ofRecord record := by
  obtain ⟨id, ⟨name, owner⟩, planned⟩ := resource
  obtain ⟨name', owner'⟩ := record
  cases id <;> cases name <;> cases owner <;> simp [Resource.record, Values.ofRecord]

/-- The identity is the name of the recorded schema, and without an identity nothing is
recorded. -/
structure IsFaithful (resource : Resource) : Prop where
  id_of_record : ∀ record, resource.record = some record → resource.id = some record.name
  forgotten : resource.id = none → resource.recorded = {}

theorem isWritten_isFaithful : Procedure.IsWritten IsFaithful where
  observe resource record := by
    refine ⟨fun other hother => ?_, nofun⟩
    obtain ⟨-, hrecorded⟩ := record_eq_some_iff.mp hother
    exact congrArg Values.name hrecorded
  clear resource := ⟨nofun, fun _ => rfl⟩
  rename resource target := by
    refine ⟨fun record hrecord => ?_, nofun⟩
    obtain ⟨-, hrecorded⟩ := record_eq_some_iff.mp hrecord
    exact congrArg Values.name hrecorded

/-- A resource that is given a name stays faithful unless it records a schema of another
name. -/
theorem IsFaithful.setId_iff (h : resource.IsFaithful) {name : String} :
    (resource.setId (some name)).IsFaithful ↔
      ∀ record, resource.record = some record → name = record.name := by
  constructor
  · intro hnamed record hrecord
    obtain ⟨-, hrecorded⟩ := record_eq_some_iff.mp hrecord
    have hid := hnamed.id_of_record record (record_eq_some_iff.mpr ⟨nofun, hrecorded⟩)
    exact Option.some.inj hid
  · intro hname
    refine ⟨fun record hrecord => ?_, nofun⟩
    obtain ⟨-, hrecorded⟩ := record_eq_some_iff.mp hrecord
    have hid : resource.id ≠ none := by
      intro hnone
      have := hrecorded.symm.trans (h.forgotten hnone)
      cases this
    exact congrArg some (hname record (record_eq_some_iff.mpr ⟨hid, hrecorded⟩))

/-- What a host can do with a resource: it comes by one, states what it wants, and carries out
operations against any server, each when the host may begin it. -/
inductive Reachable (mayBegin : Operation → Resource → Prop) : Resource → Prop
  | empty : Reachable mayBegin {}
  | ofPlan (name : String) (owner : Option String) : Reachable mayBegin (.ofPlan name owner)
  | ofRecord (record : Record) : Reachable mayBegin (.ofRecord record)
  | ofId (id : String) : Reachable mayBegin (.ofId id)
  | plan {resource : Resource} (hresource : Reachable mayBegin resource) (attr : Attr)
      (value : String) : Reachable mayBegin (resource.plan attr value)
  | run {resource : Resource} (hresource : Reachable mayBegin resource) {σ : Type}
      (operation : Operation) (server : Server σ) (state : σ)
      (hmay : mayBegin operation resource) :
      Reachable mayBegin (operation.run server resource state).resource

end Resource

namespace Operation

variable {operation : Operation} {resource : Resource}

/-- The operation does not give the resource another name than that of the schema which it
records. -/
def KeepsName (operation : Operation) (resource : Resource) : Prop :=
  ∀ record name, resource.record = some record → operation.assumedName resource = some name →
    name = record.name

theorem KeepsName.run {σ : Type} (hkeeps : operation.KeepsName resource)
    (h : resource.IsFaithful) (server : Server σ) (state : σ) :
    (operation.run server resource state).resource.IsFaithful := by
  apply Procedure.Stores.run _ h
  apply stores Resource.isWritten_isFaithful
  intro name hname
  exact h.setId_iff.mpr fun record hrecord => hkeeps record name hrecord hname

/-- When nothing fails before the lookup, and the lookup fails, then the resource has the
assumed name, and is otherwise as it was. -/
theorem run_of_failing_lookup {name : String} (hname : operation.assumedName resource = some name)
    (fault : Fault) :
    (operation.run scriptedServer resource { lookups := [.error fault] }).resource =
      resource.setId (some name) := by
  cases operation with
  | create =>
    change ((Procedure.create resource).run _ _ _).resource = _
    rw [create_eq, hname]
    rfl
  | adopt other =>
    cases hname
    rfl
  | read => cases hname
  | update => cases hname
  | delete behavior => cases hname

/-- An operation leaves every faithful resource faithful, whatever the server replies, exactly
when it keeps its name. -/
theorem keepsName_iff (h : resource.IsFaithful) :
    operation.KeepsName resource ↔
      ∀ (σ : Type) (server : Server σ) (state : σ),
        (operation.run server resource state).resource.IsFaithful := by
  constructor
  · intro hkeeps σ server state
    exact hkeeps.run h server state
  · -- A failing lookup is the one reply that leaves the old record beside the assumed name.
    intro hfaithful record name hrecord hname
    have hrun := hfaithful Script scriptedServer { lookups := [.error { message := "" }] }
    rw [run_of_failing_lookup hname] at hrun
    exact h.setId_iff.mp hrun record hrecord

end Operation

namespace Resource

variable {mayBegin : Operation → Resource → Prop} {resource : Resource}

/-- Without an identity nothing is recorded, whatever was done. -/
theorem Reachable.forgotten (h : Reachable mayBegin resource) :
    resource.id = none → resource.recorded = {} := by
  have hwritten : Procedure.IsWritten fun resource => resource.id = none → resource.recorded = {} :=
    ⟨fun _ _ => nofun, fun _ _ => rfl, fun _ _ => nofun⟩
  induction h with
  | empty => exact fun _ => rfl
  | ofPlan name owner => exact fun _ => rfl
  | ofRecord record => exact nofun
  | ofId id => exact nofun
  | plan _ attr value ih => exact ih
  | run _ operation server state _ ih =>
    exact (Operation.stores hwritten fun _ _ => nofun).run ih server state

/-- The identity stays the recorded name while operations keep their names. -/
theorem Reachable.isFaithful (h : Reachable mayBegin resource)
    (hkeeps : ∀ resource operation, Reachable mayBegin resource → mayBegin operation resource →
      operation.KeepsName resource) :
    resource.IsFaithful := by
  induction h with
  | empty => exact ⟨nofun, fun _ => rfl⟩
  | ofPlan name owner => exact ⟨nofun, fun _ => rfl⟩
  | ofRecord record =>
    refine ⟨fun other hother => ?_, nofun⟩
    exact congrArg (Option.map Record.name) hother
  | ofId id => exact ⟨nofun, nofun⟩
  | plan _ attr value ih => exact ⟨ih.id_of_record, ih.forgotten⟩
  | run hresource operation server state hmay ih =>
    exact (hkeeps _ operation hresource hmay).run ih server state

/-- Without an identity nothing is recorded.  The recorded name is the identity of whatever a
host can reach exactly when the host begins no operation that assumes another name than the
recorded one. -/
theorem identity_is_recorded_name (mayBegin : Operation → Resource → Prop) :
    (∀ resource, Reachable mayBegin resource → resource.id = none →
      resource.record = none ∧ resource.recorded = {}) ∧
    ((∀ resource, Reachable mayBegin resource →
        ∀ record, resource.record = some record → resource.id = some record.name) ↔
      ∀ resource operation, Reachable mayBegin resource → mayBegin operation resource →
        operation.KeepsName resource) := by
  constructor
  · intro resource hresource hid
    exact ⟨by simp [Resource.record, hid], hresource.forgotten hid⟩
  constructor
  · intro hidentity resource operation hresource hmay
    have hfaithful {resource : Resource} (hresource : Reachable mayBegin resource) :
        resource.IsFaithful := ⟨hidentity resource hresource, hresource.forgotten⟩
    rw [Operation.keepsName_iff (hfaithful hresource)]
    intro σ server state
    exact hfaithful (hresource.run operation server state hmay)
  · intro hkeeps resource hresource
    exact (hresource.isFaithful hkeeps).id_of_record

/-- A rename whose read-back fails has already changed the recorded name with the identity. -/
theorem identity_of_unread_rename :
    ∃ resource, Reachable (fun operation _ => operation = .update) resource ∧
      resource.record = some { name := "b", owner := "alice" } ∧ resource.id = some "b" := by
  have hstart : Reachable (fun operation _ => operation = .update)
      ((Resource.ofRecord { name := "a", owner := "alice" }).plan .name "b") :=
    .plan (.ofRecord _) .name "b"
  have hrenamed := hstart.run .update scriptedServer
    { lookups := [.error { message := "permission denied" }] } rfl
  have hkeeps (resource : Resource) (operation : Operation)
      (_ : Reachable (fun operation _ => operation = .update) resource)
      (hupdate : operation = .update) : operation.KeepsName resource := by
    subst hupdate
    exact fun _ _ _ => nofun
  exact ⟨_, hrenamed, rfl,
    (identity_is_recorded_name _).2.mpr hkeeps _ hrenamed { name := "b", owner := "alice" } rfl⟩

/-- An adoption that gets no session leaves the record of the schema that was there before. -/
theorem identity_of_refused_adoption :
    ∃ resource, Reachable (fun _ _ => True) resource ∧
      resource.record = some { name := "a", owner := "alice" } ∧ resource.id = some "b" := by
  have hstart : Reachable (fun _ _ => True) (.ofRecord { name := "a", owner := "alice" }) :=
    .ofRecord _
  exact ⟨_, hstart.run (.adopt "b") scriptedServer
    { connects := [.error { message := "connection refused" }] } trivial, rfl, rfl⟩

end Resource

end Schemata
