import Mathlib.Data.List.ReduceOption
import Mathlib.Data.Set.Basic
import Schemata.Proofs.Calls
import Schemata.Proofs.Diff

/-!
# The footprint of an operation

The names that an operation starts from are the identity, the recorded and the wanted name of
its resource, and the name to adopt; without any of them there is only the empty name.  All
statements and lookups of the operation are about schemas with these names, those after a rename
too (`Operation.calls_within_footprint`).
-/

namespace Schemata

/-- The names of the schemas that a call is about. -/
def Call.schemas : Call → List String
  | .connect | .close => []
  | .execute (.rename source target) => [source, target]
  | .execute statement => [statement.schema]
  | .lookup name => [name]

/-- The call is about schemas with the given names only. -/
def Call.Within (names : Set String) (call : Call) : Prop :=
  ∀ name ∈ call.schemas, name ∈ names

namespace Operation

/-- The name that an operation is given beside the resource. -/
def argument : Operation → Option String
  | .adopt name => some name
  | .create | .read | .update | .delete _ => none

/-- The names that an operation starts from; the empty name if there is none. -/
def footprint (operation : Operation) (resource : Resource) : List String :=
  let names := List.reduceOption
    [resource.id, resource.recorded.name, resource.planned.name, operation.argument]
  if names = [] then [""] else names

/-! ## What is in a footprint -/

section Membership

variable {operation : Operation} {resource : Resource} {name : String}

theorem mem_footprint_of_mem (hname : some name ∈
    [resource.id, resource.recorded.name, resource.planned.name, operation.argument]) :
    name ∈ operation.footprint resource := by
  have hmem := List.reduceOption_mem_iff.mpr hname
  rw [footprint, if_neg (List.ne_nil_of_mem hmem)]
  exact hmem

theorem mem_footprint_of_id (hid : resource.id = some name) :
    name ∈ operation.footprint resource :=
  mem_footprint_of_mem (by simp [hid])

theorem mem_footprint_of_recorded (hrecorded : resource.recorded.name = some name) :
    name ∈ operation.footprint resource :=
  mem_footprint_of_mem (by simp [hrecorded])

theorem mem_footprint_of_planned (hplanned : resource.planned.name = some name) :
    name ∈ operation.footprint resource :=
  mem_footprint_of_mem (by simp [hplanned])

theorem mem_footprint_of_get (hget : resource.get .name = some name) :
    name ∈ operation.footprint resource := by
  cases hplanned : resource.planned.name with
  | some planned =>
    obtain rfl : planned = name := by simpa [Resource.get, Values.get, hplanned] using hget
    exact mem_footprint_of_planned hplanned
  | none =>
    have hrecorded : resource.recorded.name = some name := by
      simpa [Resource.get, Values.get, hplanned] using hget
    exact mem_footprint_of_recorded hrecorded

theorem mem_footprint_of_current (hname : (resource.id <|> resource.get .name) = some name) :
    name ∈ operation.footprint resource := by
  cases hid : resource.id with
  | some id =>
    obtain rfl : id = name := by simpa [hid] using hname
    exact mem_footprint_of_id hid
  | none => exact mem_footprint_of_get (by simpa [hid] using hname)

/-- Where there is no name to address a schema by, the empty one is in the footprint. -/
theorem current_mem_footprint (hargument : operation.argument = none) :
    (resource.id <|> resource.get .name).getD "" ∈ operation.footprint resource := by
  cases hname : (resource.id <|> resource.get .name) with
  | some name => exact mem_footprint_of_current hname
  | none =>
    have hnone : resource.id = none ∧ resource.planned.name = none ∧
        resource.recorded.name = none := by
      simpa [Resource.get, Values.get] using hname
    simp [footprint, hnone, hargument]

end Membership

/-! ## The calls stay inside -/

section Calls

variable {operation : Operation} {resource : Resource}

/-- A rename starts and ends in the footprint, and so does the name that an owner change is
for. -/
theorem renames_within_footprint {renames : List Change} {schema : String}
    (hrenames : resource.view.renames = .ok (renames, schema)) :
    schema ∈ update.footprint resource ∧
      (renames = [] ∨ ∃ source ∈ update.footprint resource,
        renames = [.rename source schema]) := by
  rcases ResourceView.renames_eq_ok_iff.mp hrenames with
    ⟨-, rfl, rfl⟩ | ⟨recorded, target, hchange, -, hsource, rfl, rfl⟩
  · exact ⟨current_mem_footprint rfl, .inl rfl⟩
  · obtain ⟨hplanned, hrecorded, -⟩ := Resource.change_eq_some_iff.mp hchange
    refine ⟨mem_footprint_of_planned hplanned, ?_⟩
    by_cases hsame : resource.id.getD recorded = schema
    · exact .inl (if_pos hsame)
    · refine .inr ⟨resource.id.getD recorded, ?_, if_neg hsame⟩
      cases hid : resource.id with
      | some name => exact mem_footprint_of_id hid
      | none =>
        -- The rename starts at the recorded name then, and there is one.
        have hne : recorded ≠ "" := by simpa [Resource.view, hid] using hsource
        cases hname : resource.recorded.name with
        | some name =>
          obtain rfl : name = recorded := by simpa [Values.get, hname] using hrecorded
          exact mem_footprint_of_recorded hname
        | none => exact absurd hrecorded.symm (by simpa [Values.get, hname] using hne)

theorem update_within_footprint {changes : List Change} (hdiff : resource.diff = .ok changes) :
    (∀ change ∈ changes, Call.Within {name | name ∈ update.footprint resource}
      (.execute change.toStatement)) ∧
    ∀ name, (resource.afterStatements (changes.map Change.toStatement)).id = some name →
      name ∈ update.footprint resource := by
  obtain ⟨renames, schema, owners, hrenames, howners, rfl⟩ :=
    ResourceView.diff_eq_ok_iff.mp hdiff
  obtain ⟨hschema, hrename⟩ := renames_within_footprint hrenames
  have howner : owners = [] ∨ ∃ target, owners = [.changeOwner schema target] := by
    rcases ResourceView.ownerChanges_eq_ok_iff.mp howners with
      ⟨-, rfl⟩ | ⟨recorded, target, -, -, rfl⟩
    · exact .inl rfl
    · exact .inr ⟨target, rfl⟩
  constructor
  · have hrenameWithin : ∀ change ∈ renames,
        Call.Within {name | name ∈ update.footprint resource} (.execute change.toStatement) := by
      rcases hrename with rfl | ⟨source, hsource, rfl⟩
      · nofun
      · simpa [Call.Within, Call.schemas, Change.toStatement] using ⟨hsource, hschema⟩
    have hownerWithin : ∀ change ∈ owners,
        Call.Within {name | name ∈ update.footprint resource} (.execute change.toStatement) := by
      rcases howner with rfl | ⟨target, rfl⟩
      · nofun
      · simpa [Call.Within, Call.schemas, Change.toStatement, Statement.schema] using hschema
    exact List.forall_mem_append.mpr ⟨hrenameWithin, hownerWithin⟩
  · intro name hname
    -- An owner change leaves the identity alone; a rename sets it to the name that it leads to.
    have hid : resource.id = some name ∨ schema = name := by
      rcases hrename with rfl | ⟨source, -, rfl⟩ <;> rcases howner with rfl | ⟨target, rfl⟩
      · exact .inl hname
      · exact .inl hname
      · exact .inr (Option.some.inj hname)
      · exact .inr (Option.some.inj hname)
    rcases hid with hid | rfl
    · exact mem_footprint_of_id hid
    · exact hschema

/-- An operation sends statements and looks up names in its footprint only. -/
theorem agenda_within_footprint {statements : List Statement}
    (hagenda : operation.agenda resource = .send statements) :
    (∀ statement ∈ statements, Call.Within {name | name ∈ operation.footprint resource}
      (.execute statement)) ∧
    ∀ name, ((operation.begun resource).afterStatements statements).id = some name →
      name ∈ operation.footprint resource := by
  cases operation with
  | create =>
    obtain ⟨name, hget, -, rfl⟩ := agenda_create_eq_send_iff.mp hagenda
    have hname : name ∈ create.footprint resource := mem_footprint_of_get hget
    constructor
    · simpa [Call.Within, Call.schemas, Statement.creating, Statement.schema] using hname
    · intro created hcreated
      obtain rfl : name = created := Option.some.inj hcreated
      exact hname
  | read =>
    obtain ⟨-, rfl⟩ := agenda_read_eq_send_iff.mp hagenda
    exact ⟨nofun, fun name => mem_footprint_of_id⟩
  | update =>
    obtain ⟨changes, hdiff, rfl⟩ := agenda_update_eq_send_iff.mp hagenda
    exact (update_within_footprint hdiff).imp_left List.forall_mem_map.mpr
  | delete behavior =>
    obtain ⟨name, hname, rfl⟩ := agenda_delete_eq_send_iff.mp hagenda
    have hname : name ∈ (delete behavior).footprint resource := mem_footprint_of_current hname
    constructor
    · simpa [Call.Within, Call.schemas, Statement.schema] using hname
    · nofun
  | adopt name =>
    cases hagenda
    refine ⟨nofun, fun looked hlooked => ?_⟩
    obtain rfl : name = looked := Option.some.inj hlooked
    exact mem_footprint_of_mem (by simp [argument])

/-- Whatever its calls are answered, an operation makes none outside its footprint. -/
theorem calls_within_footprint (operation : Operation) (resource : Resource) :
    (operation.procedure resource).Calls
      (Call.Within {name | name ∈ operation.footprint resource}) := by
  refine Operation.calls ⟨nofun, nofun, ?_, ?_⟩
  · intro statements hagenda
    exact (agenda_within_footprint hagenda).1
  · intro statements hagenda name hname looked hlooked
    obtain rfl := List.mem_singleton.mp hlooked
    exact (agenda_within_footprint hagenda).2 looked hname

end Calls

end Operation

end Schemata
