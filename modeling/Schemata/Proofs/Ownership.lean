import Schemata.Proofs.Catalog
import Schemata.Proofs.Diff
import Schemata.Proofs.Interleaving

/-!
# Exclusive ownership

Clients that plan, create, read, update and delete never get hold of each other's
schemas, nor of those that were there before them, in whatever order their calls
reach the server.

At each moment a client holds the schema that its identity names, or none between a
successful drop and the end of that delete.  `Procedure.Respects` says of the rest
of an operation that it addresses only what its client holds; it is proved once for
each building block of the operations.  `Custody` says of all clients together that
what they hold and what was there before make up the catalog, without overlap; any
step of a procedure that respects its client's holding preserves it.
-/

namespace Schemata

/-- The recorded name, where there is one, is the identity. -/
def Resource.IsCoherent (resource : Resource) : Prop :=
  resource.recorded.name = none ∨ resource.recorded.name = resource.id

namespace Statement

/-- The statement may come from a client that holds the given schema: it addresses that
schema, or creates one where none is held.  No schema has the empty name, so the server
refuses a change of its owner anyway. -/
def PermittedTo (held : Option String) : Statement → Prop
  | .create name _ => held = none ∧ name ≠ ""
  | .rename source target => held = some source ∧ target ≠ ""
  | .changeOwner name _ => held = some name ∨ name = ""
  | .drop name _ => held = some name

/-- What its client holds once the statement has succeeded. -/
def heldAfter (held : Option String) : Statement → Option String
  | .create name _ => some name
  | .rename _ target => some target
  | .changeOwner _ _ => held
  | .drop _ _ => none

end Statement

/-- What a client with the resource holds. -/
def Resource.held (resource : Resource) (isDropping : Bool) : Option String :=
  if isDropping then none else resource.id

def Client.held (client : Client) : Option String :=
  client.resource.held client.isDropping

namespace Procedure

/-- The procedure, run by a client that holds `held`, sends only statements and lookups
for what is held at that point, keeps the identity of the resource in step with it at
each call, and leaves a coherent resource.  Of a lookup it is enough to follow the
replies that a catalog can give which has the schema. -/
def Respects : Procedure → Bool → Option String → Resource → Prop
  | .done _, _, held, resource => resource.id = held ∧ resource.IsCoherent
  | .store resource next, isDropping, held, _ => Respects next isDropping held resource
  | .log _ next, isDropping, held, resource => Respects next isDropping held resource
  | .call .connect next, isDropping, held, resource =>
    held = resource.held isDropping ∧ ∀ reply, Respects (next reply) isDropping held resource
  | .call (.execute statement) next, isDropping, held, resource =>
    held = resource.held isDropping ∧ statement.PermittedTo held ∧
      (∀ fault, Respects (next (.error fault)) isDropping held resource) ∧
      Respects (next (.ok ())) (isDropping || statement.isDrop) (statement.heldAfter held)
        resource
  | .call (.lookup name) next, isDropping, held, resource =>
    held = resource.held isDropping ∧ held = some name ∧
      (∀ fault, Respects (next (.error fault)) isDropping held resource) ∧
      ∀ owner, Respects (next (.ok (some { name, owner }))) isDropping held resource
  | .call .close next, isDropping, held, resource =>
    held = resource.held isDropping ∧ Respects (next ()) isDropping held resource

variable {resource : Resource} {held : Option String} {isDropping : Bool}

theorem Respects.settle {procedure : Procedure}
    (h : procedure.Respects isDropping held resource) :
    (procedure.settle resource).1.Respects isDropping held (procedure.settle resource).2 := by
  induction procedure generalizing resource with
  | done result => exact h
  | store stored next ih => exact ih h
  | log event next ih => exact ih h
  | call request next => exact h

/-! ## The operations -/

theorem respects_finish (result : Except Error Unit) (hcoherent : resource.IsCoherent) :
    (finish result).Respects false resource.id resource :=
  ⟨rfl, rfl, hcoherent⟩

theorem respects_withSession {body : Procedure} (hcoherent : resource.IsCoherent)
    (hbody : body.Respects false resource.id resource) :
    (withSession body).Respects false resource.id resource := by
  constructor
  · rfl
  intro reply
  cases reply with
  | ok _ => exact hbody
  | error fault => exact ⟨rfl, hcoherent⟩

theorem respects_execute {statement : Statement} {next : Procedure}
    (hcoherent : resource.IsCoherent) (hpermitted : statement.PermittedTo resource.id)
    (hnext : next.Respects statement.isDrop (statement.heldAfter resource.id) resource) :
    (execute statement next).Respects false resource.id resource :=
  ⟨rfl, hpermitted, fun _ => respects_finish _ hcoherent, hnext⟩

theorem respects_readBack (hcoherent : resource.IsCoherent) :
    (readBack resource).Respects false resource.id resource := by
  cases hid : resource.id with
  | none =>
    rw [← hid]
    simpa only [readBack, hid] using respects_finish (.ok ()) hcoherent
  | some name =>
    simp only [readBack, hid]
    refine ⟨hid.symm, rfl, fun fault => ?_, fun owner => ?_⟩
    · rw [← hid]
      exact respects_finish _ hcoherent
    · have hcoherent' : (resource.observe { name, owner }).IsCoherent := .inr rfl
      exact respects_finish _ hcoherent'

theorem respects_create (hcoherent : resource.IsCoherent) (hid : resource.id = none) :
    (create resource).Respects false resource.id resource := by
  rw [create]
  split_ifs with hname
  · exact ⟨rfl, hcoherent⟩
  · have hcreated : (resource.setId (some ((resource.get .name).getD ""))).IsCoherent := by
      rcases hcoherent with hnone | hsame
      · exact .inl hnone
      · exact .inl (hsame.trans hid)
    apply respects_withSession hcoherent
    apply respects_execute hcoherent
    · exact ⟨hid, hname⟩
    · exact respects_readBack hcreated

/-- Each change addresses the schema by the name that it has at that point. -/
def Follow : Option String → List Change → Prop
  | _, [] => True
  | held, .rename source target :: rest =>
    held = some source ∧ target ≠ "" ∧ Follow (some target) rest
  | held, .changeOwner schema _ :: rest =>
    (held = some schema ∨ schema = "") ∧ Follow held rest

theorem respects_makeChanges {changes : List Change} (hcoherent : resource.IsCoherent)
    (hfollow : Follow resource.id changes) :
    (makeChanges changes resource).Respects false resource.id resource := by
  induction changes generalizing resource with
  | nil => exact respects_readBack hcoherent
  | cons change rest ih =>
    cases change with
    | rename source target =>
      obtain ⟨hsource, htarget, hrest⟩ := hfollow
      have hrenamed : ((resource.set .name target).setId (some target)).IsCoherent := .inr rfl
      apply respects_execute hcoherent
      · exact ⟨hsource, htarget⟩
      · exact ih hrenamed hrest
    | changeOwner schema target =>
      obtain ⟨hschema, hrest⟩ := hfollow
      exact respects_execute hcoherent hschema (ih hcoherent hrest)

/-- Without an identity there is no recorded name either, so a rename is refused and an
owner change addresses the empty name. -/
theorem renames_follow {renames : List Change} {schema : String}
    (hcoherent : resource.IsCoherent) (hrenames : resource.view.renames = .ok (renames, schema)) :
    (renames = [] ∧ (resource.id = some schema ∨ schema = "")) ∨
      ∃ source, resource.id = some source ∧ schema ≠ "" ∧ renames = [.rename source schema] := by
  have hrecorded (hid : resource.id = none) : resource.recorded.get .name = none := by
    rcases hcoherent with hnone | hsame
    · exact hnone
    · exact hsame.trans hid
  rcases ResourceView.renames_eq_ok_iff.mp hrenames with
    ⟨hchange, rfl, rfl⟩ | ⟨recorded, target, hchange, htarget, hsource, rfl, rfl⟩
  · left
    refine ⟨rfl, ?_⟩
    cases hid : resource.id with
    | some name => simp [Resource.view, hid]
    | none =>
      right
      have hplanned := Resource.change_eq_none_iff.mp hchange
      simp only [Resource.view, hid, Resource.get, hrecorded hid] at hplanned ⊢
      cases hname : resource.planned.get .name with
      | none => rfl
      | some planned => exact (hplanned planned hname).symm
  · cases hid : resource.id with
    | none =>
      obtain ⟨-, hempty, -⟩ := Resource.change_eq_some_iff.mp hchange
      rw [hrecorded hid] at hempty
      exact absurd hempty.symm (by simpa [Resource.view, hid] using hsource)
    | some name =>
      simp only [Resource.view, hid, Option.getD_some]
      by_cases hsame : name = schema
      · exact .inl ⟨if_pos hsame, .inl (congrArg some hsame)⟩
      · exact .inr ⟨name, rfl, htarget, if_neg hsame⟩

theorem follow_of_diff_eq_ok {changes : List Change} (hcoherent : resource.IsCoherent)
    (hdiff : resource.diff = .ok changes) : Follow resource.id changes := by
  obtain ⟨renames, schema, owners, hrenames, howners, rfl⟩ :=
    ResourceView.diff_eq_ok_iff.mp hdiff
  rcases ResourceView.ownerChanges_eq_ok_iff.mp howners with
    ⟨-, rfl⟩ | ⟨_, target, -, -, rfl⟩
  all_goals
    rcases renames_follow hcoherent hrenames with
      ⟨rfl, hschema⟩ | ⟨source, hid, hschema, rfl⟩
    · simp_all [Follow]
    · simp_all [Follow]

theorem respects_update (hcoherent : resource.IsCoherent) :
    (update resource).Respects false resource.id resource := by
  rw [update]
  cases hdiff : resource.diff with
  | error error => exact ⟨rfl, hcoherent⟩
  | ok changes =>
    exact respects_withSession hcoherent
      (respects_makeChanges hcoherent (follow_of_diff_eq_ok hcoherent hdiff))

theorem respects_read (hcoherent : resource.IsCoherent) :
    (read resource).Respects false resource.id resource := by
  cases hid : resource.id with
  | none =>
    simp only [read, hid]
    exact ⟨hid, hcoherent⟩
  | some name =>
    simp only [read, hid]
    rw [← hid]
    exact respects_withSession hcoherent (respects_readBack hcoherent)

/-- After the drop nothing is held, and only then is the identity cleared. -/
theorem respects_delete (behavior : DropBehavior) (hcoherent : resource.IsCoherent)
    (hid : resource.id ≠ none) :
    (delete behavior resource).Respects false resource.id resource := by
  obtain ⟨name, hname⟩ := Option.ne_none_iff_exists'.mp hid
  have hfound : (resource.id <|> resource.get .name) = some name := by
    rw [hname]
    rfl
  simp only [delete, hfound]
  have hpermitted : (Statement.drop name behavior).PermittedTo resource.id := hname
  exact respects_withSession hcoherent
    (respects_execute hcoherent hpermitted ⟨rfl, rfl, .inl rfl⟩)

end Procedure

/-- What a client may begin: it creates only while it has no identity, deletes only while
it has one, and adopts nothing. -/
def Operation.StaysOwn : Operation → Resource → Prop
  | .create, resource => resource.id = none
  | .delete _, resource => resource.id ≠ none
  | .adopt _, _ => False
  | .read, _ | .update, _ => True

theorem Operation.respects {operation : Operation} {resource : Resource}
    (hcoherent : resource.IsCoherent) (hmay : operation.StaysOwn resource) :
    (operation.procedure resource).Respects false resource.id resource := by
  cases operation with
  | create => exact Procedure.respects_create hcoherent hmay
  | read => exact Procedure.respects_read hcoherent
  | update => exact Procedure.respects_update hcoherent
  | delete behavior => exact Procedure.respects_delete behavior hcoherent hmay
  | adopt name => exact hmay.elim

/-! ## One call -/

/-- What a call of one client does to the schemas: those that the client holds neither
before nor after stay as they are, what it comes to hold was nobody's, and what it lets
go is gone. -/
structure Handover (before after : Std.TreeMap String String)
    (held held' : Option String) : Prop where
  others : ∀ name, held ≠ some name → held' ≠ some name → after[name]? = before[name]?
  gained : ∀ name, held' = some name →
    name ≠ "" ∧ name ∈ after ∧ (held = some name ∨ name ∉ before)
  released : ∀ name, held = some name → held' = some name ∨ name ∉ after

theorem Handover.mem_iff {before after : Std.TreeMap String String}
    {held held' : Option String} (h : Handover before after held held') {name : String}
    (hheld : held ≠ some name) (hheld' : held' ≠ some name) : name ∈ after ↔ name ∈ before := by
  rw [Std.TreeMap.mem_iff_isSome_getElem?, h.others name hheld hheld',
    ← Std.TreeMap.mem_iff_isSome_getElem?]

section

variable {catalog after : Catalog} {held : Option String}

theorem handover_refl
    (hheld : ∀ name, held = some name → name ≠ "" ∧ name ∈ catalog.schemas) :
    Handover catalog.schemas catalog.schemas held held where
  others _ _ _ := rfl
  gained name h := ⟨(hheld name h).1, (hheld name h).2, .inl h⟩
  released _ h := .inl h

theorem handover_execute {statement : Statement} (hempty : "" ∉ catalog.schemas)
    (hheld : ∀ name, held = some name → name ≠ "" ∧ name ∈ catalog.schemas)
    (hpermitted : statement.PermittedTo held)
    (hexecute : catalog.execute statement = .ok after) :
    Handover catalog.schemas after.schemas held (statement.heldAfter held) := by
  cases statement with
  | create name owner =>
    obtain ⟨rfl, hname⟩ := hpermitted
    obtain ⟨hfree, -, rfl⟩ := Catalog.execute_create_eq_ok_iff.mp hexecute
    constructor
    · intro other _ hother
      simp only [Statement.heldAfter, ne_eq, Option.some.injEq] at hother
      simp [Std.TreeMap.getElem?_insert, hother]
    · rintro _ ⟨rfl⟩
      exact ⟨hname, by simp, .inr hfree⟩
    · simp
  | rename source target =>
    obtain ⟨rfl, htarget⟩ := hpermitted
    obtain ⟨owner, hsource, hfree, rfl⟩ := Catalog.execute_rename_eq_ok_iff.mp hexecute
    constructor
    · intro other hother hother'
      simp only [Statement.heldAfter, ne_eq, Option.some.injEq] at hother hother'
      simp [Std.TreeMap.getElem?_insert, Std.TreeMap.getElem?_erase, hother, hother']
    · rintro _ ⟨rfl⟩
      exact ⟨htarget, by simp, .inr hfree⟩
    · rintro _ ⟨rfl⟩
      by_cases hsame : source = target
      · exact .inl (congrArg some hsame.symm)
      · exact .inr (by simp [Ne.symm hsame])
  | changeOwner name owner =>
    obtain ⟨hname, -, rfl⟩ := Catalog.execute_changeOwner_eq_ok_iff.mp hexecute
    have hown : held = some name := by
      rcases hpermitted with hown | rfl
      · exact hown
      · exact absurd hname hempty
    subst hown
    constructor
    · intro other hother _
      simp only [ne_eq, Option.some.injEq] at hother
      simp [Std.TreeMap.getElem?_insert, hother]
    · rintro _ ⟨rfl⟩
      exact ⟨(hheld name rfl).1, by simp, .inl rfl⟩
    · rintro _ ⟨rfl⟩
      exact .inl rfl
  | drop name behavior =>
    obtain rfl := hpermitted
    obtain ⟨-, -, rfl⟩ := Catalog.execute_drop_eq_ok_iff.mp hexecute
    constructor
    · intro other hother _
      simp only [ne_eq, Option.some.injEq] at hother
      simp [Std.TreeMap.getElem?_erase, hother]
    · rintro _ ⟨⟩
    · rintro _ ⟨rfl⟩
      exact .inr (by simp)

end

/-! ## One client -/

/-- What is left of the client's operation respects what the client holds. -/
def Client.Respects (client : Client) : Prop :=
  client.rest.Respects client.isDropping client.held client.resource

theorem Client.held_eq_some_iff {client : Client} {name : String} :
    client.held = some name ↔ client.isDropping = false ∧ client.resource.id = some name := by
  cases hdropping : client.isDropping <;> simp [Client.held, Resource.held, hdropping]

theorem Client.held_of_isIdle {client : Client} (hidle : client.isIdle) :
    client.held = client.resource.id := by
  simp [Client.held, Client.isDropping, Resource.held, hidle]

theorem Client.respects_iff_of_isIdle {client : Client} (hidle : client.isIdle) :
    client.Respects ↔ client.resource.IsCoherent := by
  have hheld := held_of_isIdle hidle
  unfold Client.Respects
  rw [hheld]
  cases hrest : client.rest <;> simp [Procedure.Respects, isIdle, hrest] at hidle ⊢

/-- Going on with a procedure keeps what it respects, whether it stops at a call or
returns. -/
theorem Client.proceed_respects {procedure : Procedure} {resource : Resource}
    {made : List Exchange} {held : Option String}
    (h : procedure.Respects ((statementsDone made).any Statement.isDrop) held resource) :
    (proceed procedure resource made).held = held ∧
      (proceed procedure resource made).Respects := by
  have hsettled := h.settle
  unfold Client.Respects
  rcases procedure.settle_cases resource with ⟨result, hsettle⟩ | ⟨request, next, hsettle⟩
  · have hrest : (proceed procedure resource made).rest = .done result := hsettle
    have hidle : (proceed procedure resource made).isDropping = false := by
      simp only [isDropping, isIdle, hrest, Bool.not_true, Bool.false_and]
    rw [hsettle] at hsettled
    have hheld : (proceed procedure resource made).held = held := by
      rw [Client.held, hidle]
      exact hsettled.1
    rw [hrest, hheld]
    exact ⟨rfl, hsettled⟩
  · have hrest : (proceed procedure resource made).rest = .call request next := hsettle
    have hbusy : (proceed procedure resource made).isDropping =
        (statementsDone made).any Statement.isDrop := by
      simp only [isDropping, isIdle, hrest, Bool.not_false, Bool.true_and]
      rfl
    rw [hsettle] at hsettled
    have hheld : (proceed procedure resource made).held = held := by
      rw [Client.held, hbusy]
      cases request <;> exact hsettled.1.symm
    rw [hrest, hheld, hbusy]
    exact ⟨rfl, hsettled⟩

/-- After the answer to a call the rest of the procedure respects what is held then. -/
theorem Procedure.Respects.answer {request : Call} {next : request.Reply → Procedure}
    {resource : Resource} {held : Option String} {isDropping : Bool} {server : CatalogServer}
    (h : (Procedure.call request next).Respects isDropping held resource)
    (hempty : "" ∉ server.catalog.schemas)
    (hheld : ∀ name, held = some name → name ≠ "" ∧ name ∈ server.catalog.schemas) :
    let answer := server.answer request
    ∃ held', (next answer.reply).Respects
        (isDropping || (statementsDone [⟨request, answer.reply⟩]).any Statement.isDrop) held'
        resource ∧
      Handover server.catalog.schemas answer.state.catalog.schemas held held' := by
  have hstays := handover_refl hheld
  cases request with
  | connect =>
    refine ⟨held, by simpa [statementsDone] using h.2 (server.answer .connect).reply, ?_⟩
    rw [CatalogServer.answer_connect_catalog]
    exact hstays
  | execute statement =>
    obtain ⟨-, hpermitted, hrefused, hdone⟩ := h
    rcases server.answer_execute_cases statement with
      ⟨after, hexecute, hanswer⟩ | ⟨fault, hanswer⟩
    · rw [hanswer]
      exact ⟨_, by simpa [statementsDone] using hdone,
        handover_execute hempty hheld hpermitted hexecute⟩
    · rw [hanswer]
      exact ⟨held, by simpa [statementsDone] using hrefused fault, hstays⟩
  | lookup name =>
    -- What is held is in the catalog, so no lookup of it comes back empty.
    obtain ⟨-, hown, hfailed, hfound⟩ := h
    rcases CatalogServer.answer_lookup_cases (hheld name hown).2 with
      ⟨owner, hanswer⟩ | ⟨fault, hanswer⟩
    · rw [hanswer]
      exact ⟨held, by simpa [statementsDone] using hfound owner, hstays⟩
    · rw [hanswer]
      exact ⟨held, by simpa [statementsDone] using hfailed fault, hstays⟩
  | close => exact ⟨held, by simpa [statementsDone] using h.2, hstays⟩

/-- One call of a client that respects what it holds. -/
theorem Client.call_respects {client : Client} {request : Call}
    {next : request.Reply → Procedure} {server : CatalogServer}
    (hrespects : client.Respects) (hnext : client.rest = .call request next)
    (hempty : "" ∉ server.catalog.schemas)
    (hheld : ∀ name, client.held = some name → name ≠ "" ∧ name ∈ server.catalog.schemas) :
    let answer := server.answer request
    let client' := proceed (next answer.reply) client.resource
      (client.made ++ [⟨request, answer.reply⟩])
    client'.Respects ∧ Handover server.catalog.schemas answer.state.catalog.schemas
      client.held client'.held := by
  have hmade : (statementsDone
      (client.made ++ [⟨request, (server.answer request).reply⟩])).any Statement.isDrop =
      (client.isDropping ||
        (statementsDone [⟨request, (server.answer request).reply⟩]).any Statement.isDrop) := by
    simp [isDropping, isIdle, hnext]
  unfold Client.Respects at hrespects
  rw [hnext] at hrespects
  obtain ⟨held', hrest, hhandover⟩ := hrespects.answer hempty hheld
  rw [← hmade] at hrest
  obtain ⟨hheld', hrespects'⟩ := proceed_respects hrest
  refine ⟨hrespects', ?_⟩
  rw [hheld']
  exact hhandover

/-! ## All clients -/

section

variable {ι : Type*}

/-- What the clients hold and the schemas that were there before them make up the
catalog, and no two of these parts overlap. -/
structure Custody (initial : Std.TreeMap String String) (configuration : Configuration ι) :
    Prop where
  respects : ∀ index, (configuration.clients index).Respects
  held_mem : ∀ index name, (configuration.clients index).held = some name →
    name ≠ "" ∧ name ∈ configuration.server.catalog.schemas ∧ name ∉ initial
  held_unique : ∀ left right name, (configuration.clients left).held = some name →
    (configuration.clients right).held = some name → left = right
  kept : ∀ name owner : String, initial[name]? = some owner →
    configuration.server.catalog.schemas[name]? = some owner
  accounted : ∀ name, name ∈ configuration.server.catalog.schemas → name ∉ initial →
    ∃ index, (configuration.clients index).held = some name

variable {initial : Std.TreeMap String String} {configuration : Configuration ι}

theorem Custody.notMem_empty (h : Custody initial configuration) (hinitial : "" ∉ initial) :
    "" ∉ configuration.server.catalog.schemas := by
  intro hmem
  obtain ⟨index, hheld⟩ := h.accounted "" hmem hinitial
  exact (h.held_mem index "" hheld).1 rfl

theorem Custody.initial_subset (h : Custody initial configuration) {name : String}
    (hname : name ∈ initial) : name ∈ configuration.server.catalog.schemas := by
  rw [Std.TreeMap.mem_iff_isSome_getElem?, Option.isSome_iff_exists] at hname
  obtain ⟨owner, howner⟩ := hname
  exact Catalog.mem_schemas_iff.mpr ⟨owner, h.kept name owner howner⟩

section

variable {index : ι} {client : Client} {server : CatalogServer}

/-- What one client comes to hold was not there before the clients. -/
theorem Custody.notMem_initial (h : Custody initial configuration)
    (hhandover : Handover configuration.server.catalog.schemas server.catalog.schemas
      (configuration.clients index).held client.held) {name : String}
    (hheld : client.held = some name) : name ∉ initial := by
  intro hname
  obtain ⟨-, -, hbefore⟩ := hhandover.gained name hheld
  rcases hbefore with hbefore | hfree
  · exact (h.held_mem index name hbefore).2.2 hname
  · exact hfree (h.initial_subset hname)

/-- What another client holds is none of this one's, before the handover and after it. -/
theorem Custody.apart (h : Custody initial configuration)
    (hhandover : Handover configuration.server.catalog.schemas server.catalog.schemas
      (configuration.clients index).held client.held) {other : ι} {name : String}
    (hne : other ≠ index) (hheld : (configuration.clients other).held = some name) :
    (configuration.clients index).held ≠ some name ∧ client.held ≠ some name := by
  have hbefore : (configuration.clients index).held ≠ some name := by
    intro hown
    exact hne (h.held_unique other index name hheld hown)
  constructor
  · exact hbefore
  intro hgained
  rcases (hhandover.gained name hgained).2.2 with hown | hfree
  · exact hbefore hown
  · exact hfree (h.held_mem other name hheld).2.1

/-- A handover by one client leaves what the others hold, and what was there before. -/
theorem Custody.handover [DecidableEq ι] (h : Custody initial configuration)
    (hrespects : client.Respects)
    (hhandover : Handover configuration.server.catalog.schemas server.catalog.schemas
      (configuration.clients index).held client.held) :
    Custody initial ((Configuration.mk server configuration.clients).setClient index client) where
  respects other := by
    by_cases hsame : other = index
    · subst other
      rw [Configuration.setClient_self]
      exact hrespects
    · rw [Configuration.setClient_of_ne _ _ hsame]
      exact h.respects other
  held_mem other name hheld := by
    by_cases hsame : other = index
    · subst other
      rw [Configuration.setClient_self] at hheld
      obtain ⟨hname, hmem, -⟩ := hhandover.gained name hheld
      exact ⟨hname, hmem, h.notMem_initial hhandover hheld⟩
    · rw [Configuration.setClient_of_ne _ _ hsame] at hheld
      obtain ⟨hname, hmem, hnew⟩ := h.held_mem other name hheld
      obtain ⟨hbefore, hafter⟩ := h.apart hhandover hsame hheld
      exact ⟨hname, (hhandover.mem_iff hbefore hafter).mpr hmem, hnew⟩
  held_unique left right name hleft hright := by
    by_cases hsameLeft : left = index <;> by_cases hsameRight : right = index
    · rw [hsameLeft, hsameRight]
    · subst left
      rw [Configuration.setClient_self] at hleft
      rw [Configuration.setClient_of_ne _ _ hsameRight] at hright
      exact absurd hleft (h.apart hhandover hsameRight hright).2
    · subst right
      rw [Configuration.setClient_self] at hright
      rw [Configuration.setClient_of_ne _ _ hsameLeft] at hleft
      exact absurd hright (h.apart hhandover hsameLeft hleft).2
    · rw [Configuration.setClient_of_ne _ _ hsameLeft] at hleft
      rw [Configuration.setClient_of_ne _ _ hsameRight] at hright
      exact h.held_unique left right name hleft hright
  kept name owner howner := by
    have hname : name ∈ initial := by
      rw [Std.TreeMap.mem_iff_isSome_getElem?, howner]
      rfl
    have hbefore : (configuration.clients index).held ≠ some name :=
      fun hheld => (h.held_mem index name hheld).2.2 hname
    have hafter : client.held ≠ some name := fun hheld => h.notMem_initial hhandover hheld hname
    rw [Configuration.setClient_server, hhandover.others name hbefore hafter]
    exact h.kept name owner howner
  accounted name hname hnew := by
    by_cases hgained : client.held = some name
    · exact ⟨index, by rw [Configuration.setClient_self]; exact hgained⟩
    have hbefore : (configuration.clients index).held ≠ some name := by
      intro hheld
      rcases hhandover.released name hheld with hkept | hgone
      · exact hgained hkept
      · exact hgone hname
    have hmem := (hhandover.mem_iff hbefore hgained).mp hname
    obtain ⟨other, hheld⟩ := h.accounted name hmem hnew
    have hne : other ≠ index := by
      rintro rfl
      exact hbefore hheld
    exact ⟨other, by rw [Configuration.setClient_of_ne _ _ hne]; exact hheld⟩

end

variable [DecidableEq ι]

/-- Every step preserves custody. -/
theorem Custody.step {after : Configuration ι} (h : Custody initial configuration)
    (hinitial : "" ∉ initial)
    (hstep : Configuration.Step Operation.StaysOwn configuration after) :
    Custody initial after := by
  have hheld (index : ι) (name : String) (hname : (configuration.clients index).held = some name) :
      name ≠ "" ∧ name ∈ configuration.server.catalog.schemas :=
    ⟨(h.held_mem index name hname).1, (h.held_mem index name hname).2.1⟩
  have hstays (index : ι) := handover_refl (hheld index)
  cases hstep with
  | plan index attr value hidle =>
    have hcoherent := (Client.respects_iff_of_isIdle hidle).mp (h.respects index)
    refine h.handover ((Client.respects_iff_of_isIdle ?_).mpr hcoherent) (hstays index)
    exact hidle
  | begin index operation hidle hmay =>
    have hcoherent := (Client.respects_iff_of_isIdle hidle).mp (h.respects index)
    obtain ⟨hheld', hrespects⟩ :=
      @Client.proceed_respects _ _ [] _ (Operation.respects hcoherent hmay)
    refine h.handover hrespects ?_
    rw [hheld', ← Client.held_of_isIdle hidle]
    exact hstays index
  | call index request next hnext =>
    obtain ⟨hrespects, hhandover⟩ := Client.call_respects (h.respects index) hnext
      (h.notMem_empty hinitial) (hheld index)
    exact h.handover hrespects hhandover
  | interfere server hschemas =>
    obtain ⟨hrespects, hmem, hunique, hkept, haccounted⟩ := h
    rw [← hschemas] at hmem hkept haccounted
    exact ⟨hrespects, hmem, hunique, hkept, haccounted⟩

/-- Clients that have begun nothing yet, each with the name and the owner that it wants. -/
def Configuration.ofPlans (server : CatalogServer) (wanted : ι → String × Option String) :
    Configuration ι where
  server
  clients index := { resource := .ofPlan (wanted index).1 (wanted index).2 }

omit [DecidableEq ι] in
theorem custody_ofPlans (server : CatalogServer) (wanted : ι → String × Option String) :
    Custody server.catalog.schemas (Configuration.ofPlans server wanted) where
  respects _ := ⟨rfl, .inl rfl⟩
  held_mem _ _ h := nomatch h
  held_unique _ _ _ h := nomatch h
  kept _ _ h := h
  accounted _ hname hnew := absurd hname hnew

/-- Every configuration that the clients can reach is in custody. -/
theorem custody_of_reachable {server : CatalogServer} {wanted : ι → String × Option String}
    (hempty : "" ∉ server.catalog.schemas)
    (hreachable : (Configuration.ofPlans server wanted).Reachable Operation.StaysOwn
      configuration) :
    Custody server.catalog.schemas configuration := by
  induction hreachable with
  | start => exact custody_ofPlans server wanted
  | step _ hstep ih => exact ih.step hempty hstep

/-- Each client outside its own drop owns the schema that its identity names, alone; the
schemas that were there before are untouched; and no other schema is without an owner
among the clients. -/
structure Configuration.IsExclusive (initial : Std.TreeMap String String)
    (configuration : Configuration ι) : Prop where
  owns : ∀ index name, (configuration.clients index).isDropping = false →
    (configuration.clients index).resource.id = some name →
    name ≠ "" ∧ name ∈ configuration.server.catalog.schemas
  alone : ∀ left right name, (configuration.clients left).isDropping = false →
    (configuration.clients right).isDropping = false →
    (configuration.clients left).resource.id = some name →
    (configuration.clients right).resource.id = some name → left = right
  untouched : ∀ name owner : String, initial[name]? = some owner →
    configuration.server.catalog.schemas[name]? = some owner
  owned : ∀ name, name ∈ configuration.server.catalog.schemas → name ∉ initial →
    ∃! index, (configuration.clients index).isDropping = false ∧
      (configuration.clients index).resource.id = some name

/-- Exclusive ownership under any interleaving of the calls of any number of clients. -/
theorem clients_own_exclusively {server : CatalogServer}
    {wanted : ι → String × Option String} (hempty : "" ∉ server.catalog.schemas)
    (hreachable : (Configuration.ofPlans server wanted).Reachable Operation.StaysOwn
      configuration) :
    configuration.IsExclusive server.catalog.schemas := by
  have h := custody_of_reachable hempty hreachable
  refine ⟨?_, ?_, h.kept, ?_⟩
  · intro index name hdropping hid
    have hheld := Client.held_eq_some_iff.mpr ⟨hdropping, hid⟩
    exact ⟨(h.held_mem index name hheld).1, (h.held_mem index name hheld).2.1⟩
  · intro left right name hleft hright hleftId hrightId
    exact h.held_unique left right name (Client.held_eq_some_iff.mpr ⟨hleft, hleftId⟩)
      (Client.held_eq_some_iff.mpr ⟨hright, hrightId⟩)
  · intro name hname hnew
    obtain ⟨index, hheld⟩ := h.accounted name hname hnew
    refine ⟨index, Client.held_eq_some_iff.mp hheld, fun other hother => ?_⟩
    exact h.held_unique other index name (Client.held_eq_some_iff.mpr hother) hheld

/-- Two clients race for one name, and the read-back of the one that wins fails: the
schema is still its own. -/
theorem clients_own_exclusively_after_race :
    let server : CatalogServer := { CatalogServer.fresh with failsLookups := true }
    ∃ configuration : Configuration Bool,
      (Configuration.ofPlans server fun _ => ("sales", none)).Reachable Operation.StaysOwn
        configuration ∧
      (configuration.clients true).resource.id = some "sales" ∧
      (configuration.clients false).resource.id = none ∧
      configuration.IsExclusive server.catalog.schemas := by
  intro server
  have hstart : (Configuration.ofPlans server fun _ : Bool => ("sales", none)).Reachable
      Operation.StaysOwn _ := .start
  have hbegun := (hstart.step (.begin true .create rfl rfl)).step (.begin false .create rfl rfl)
  have hconnected := (hbegun.step (.call true .connect _ rfl)).step (.call false .connect _ rfl)
  have hexecuted := (hconnected.step
    (.call true (.execute (.create "sales" none)) _ rfl)).step
    (.call false (.execute (.create "sales" none)) _ rfl)
  have hfailed := hexecuted.step (.call true (.lookup "sales") _ rfl)
  exact ⟨_, hfailed, rfl, rfl, clients_own_exclusively (by decide) hfailed⟩

end

end Schemata
