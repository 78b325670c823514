import Schemata.Proofs.Changes
import Schemata.Proofs.Identity
import Schemata.Proofs.Refusal

/-!
# The schemas that an update addresses

A schema can be addressed by its identity, or else by its recorded name.  A rename without
either is refused, and what follows a rename addresses the new name.  An owner change
without a name change is not checked in this way: it is sent for the empty name, and that is
the only statement of an update with an empty name in it
(`update_addresses_schemas_iff`).
-/

namespace Schemata

/-- The names that a statement mentions. -/
def Statement.names : Statement → List String
  | .create name owner => name :: owner.toList
  | .rename source target => [source, target]
  | .changeOwner name owner => [name, owner]
  | .drop name _ => [name]

@[simp]
theorem Change.empty_mem_names_rename {source target : String} :
    "" ∈ (rename source target).toStatement.names ↔ source = "" ∨ target = "" := by
  simp only [toStatement, Statement.names, List.mem_cons, List.not_mem_nil, or_false,
    @eq_comm _ ""]

@[simp]
theorem Change.empty_mem_names_changeOwner {schema target : String} :
    "" ∈ (changeOwner schema target).toStatement.names ↔ schema = "" ∨ target = "" := by
  simp only [toStatement, Statement.names, List.mem_cons, List.not_mem_nil, or_false,
    @eq_comm _ ""]

namespace Resource

variable {resource : Resource} {changes renames : List Change} {schema : String}

/-- The name to address the schema by: its identity, or else its recorded name, and the empty
text if there is neither. -/
def currentName (resource : Resource) : String :=
  (resource.id <|> resource.recorded.name).getD ""

/-- An owner, and no other name, is wanted for a schema that cannot be addressed. -/
def GivesAwayNameless (resource : Resource) : Prop :=
  resource.currentName = "" ∧ resource.change .name = none ∧
    ∃ recorded target, resource.change .owner = some (recorded, target) ∧ target ≠ ""

/-- What is planned for the name makes no difference while it is no change. -/
theorem currentName_of_change_eq_none (hchange : resource.change .name = none) :
    (resource.id <|> resource.get .name).getD "" = resource.currentName := by
  unfold currentName
  cases resource.id with
  | some name => rfl
  | none =>
    cases hplanned : resource.planned.name with
    | none =>
      have hget : resource.get .name = resource.recorded.name := by
        simp only [get, Values.get, hplanned]
        rfl
      rw [hget]
    | some planned =>
      have hget : resource.get .name = some planned := by
        simp only [get, Values.get, hplanned]
        rfl
      rw [hget]
      exact (change_eq_none_iff.mp hchange planned hplanned).symm

theorem currentName_of_change_eq_some {recorded target : String}
    (hchange : resource.change .name = some (recorded, target)) :
    resource.id.getD recorded = resource.currentName := by
  obtain ⟨-, hrecorded, -⟩ := change_eq_some_iff.mp hchange
  unfold currentName
  cases resource.id with
  | some name => rfl
  | none => exact hrecorded.symm

/-- A rename names both ends.  The name that the schema has then is empty only if there was none
before and none is wanted. -/
theorem names_of_renames_eq_ok (hrenames : resource.view.renames = .ok (renames, schema)) :
    (∀ change ∈ renames, "" ∉ change.toStatement.names) ∧
      (schema = "" ↔ resource.currentName = "" ∧ resource.change .name = none) := by
  rcases ResourceView.renames_eq_ok_iff.mp hrenames with
    ⟨hchange, rfl, rfl⟩ | ⟨recorded, target, hchange, htarget, hsource, rfl, rfl⟩
  · have hname := currentName_of_change_eq_none hchange
    refine ⟨nofun, ?_⟩
    constructor
    · intro hempty
      exact ⟨hname.symm.trans hempty, hchange⟩
    · rintro ⟨hempty, -⟩
      exact hname.trans hempty
  · constructor
    · intro change hmem
      split at hmem
      · cases hmem
      · rw [List.mem_singleton] at hmem
        subst hmem
        rw [Change.empty_mem_names_rename, not_or]
        exact ⟨hsource, htarget⟩
    · refine iff_of_false htarget ?_
      rintro ⟨-, hnone⟩
      cases hchange.symm.trans hnone

/-- The owner change addresses the name that the rename leaves, so it lacks a name only if there
is none and none is wanted. -/
theorem names_of_diff_eq_ok (hdiff : resource.diff = .ok changes)
    (haway : ¬resource.GivesAwayNameless) :
    ∀ change ∈ changes, "" ∉ change.toStatement.names := by
  obtain ⟨renames, schema, owners, hrenames, howners, rfl⟩ :=
    ResourceView.diff_eq_ok_iff.mp hdiff
  obtain ⟨hnames, hschema⟩ := names_of_renames_eq_ok hrenames
  rcases ResourceView.ownerChanges_eq_ok_iff.mp howners with
    ⟨-, rfl⟩ | ⟨recorded, target, hchange, htarget, rfl⟩
  · rw [List.append_nil]
    exact hnames
  · have hne : schema ≠ "" := by
      intro hempty
      obtain ⟨hname, hnone⟩ := hschema.mp hempty
      exact haway ⟨hname, hnone, recorded, target, hchange, htarget⟩
    intro change hmem
    rcases List.mem_append.mp hmem with hmem | hmem
    · exact hnames change hmem
    · rw [List.mem_singleton] at hmem
      subst hmem
      rw [Change.empty_mem_names_changeOwner, not_or]
      exact ⟨hne, htarget⟩

/-- A wish for a schema that cannot be addressed is refused, unless it is for an owner alone. -/
theorem refusesUpdate_of_currentName_eq_empty (hname : resource.currentName = "")
    (hwish : ∃ attr, resource.change attr ≠ none) (haway : ¬resource.GivesAwayNameless) :
    ∃ error, (error = .noIdentity ∨ ∃ attr, error = .emptyValue attr) ∧
      resource.RefusesUpdate error := by
  simp only [refusesUpdate_iff, diff, ResourceView.diff_eq_error_iff]
  -- A name change has to start somewhere; without one, only an empty owner is an error.
  cases hchange : resource.change .name with
  | some change =>
    obtain ⟨recorded, target⟩ := change
    have hsource := (currentName_of_change_eq_some hchange).trans hname
    by_cases htarget : target = ""
    · refine ⟨.emptyValue .name, .inr ⟨.name, rfl⟩, .inl ?_⟩
      exact ResourceView.renames_eq_error_iff.mpr
        ⟨recorded, target, hchange, .inl ⟨htarget, rfl⟩⟩
    · refine ⟨.noIdentity, .inl rfl, .inl ?_⟩
      exact ResourceView.renames_eq_error_iff.mpr
        ⟨recorded, target, hchange, .inr ⟨htarget, hsource, rfl⟩⟩
  | none =>
    have hrenames : resource.view.renames =
        .ok ([], (resource.view.id <|> resource.view.name).getD "") :=
      ResourceView.renames_eq_ok_iff.mpr (.inl ⟨hchange, rfl, rfl⟩)
    obtain ⟨attr, hattr⟩ := hwish
    cases attr with
    | name => exact absurd hchange hattr
    | owner =>
      obtain ⟨⟨recorded, target⟩, howner⟩ := Option.ne_none_iff_exists'.mp hattr
      by_cases htarget : target = ""
      · subst htarget
        refine ⟨.emptyValue .owner, .inr ⟨.owner, rfl⟩, .inr ⟨_, _, hrenames, ?_⟩⟩
        exact ResourceView.ownerChanges_eq_error_iff.mpr ⟨recorded, howner, rfl⟩
      · exact absurd ⟨hname, hchange, recorded, target, howner, htarget⟩ haway

/-- Such a wish is no error: it is sent, for the empty name. -/
theorem diff_of_givesAwayNameless (haway : resource.GivesAwayNameless) :
    ∃ target, target ≠ "" ∧ resource.diff = .ok [.changeOwner "" target] := by
  obtain ⟨hname, hchange, recorded, target, howner, htarget⟩ := haway
  refine ⟨target, htarget, ResourceView.diff_eq_ok_iff.mpr ⟨[], "", [.changeOwner "" target],
    ?_, ?_, rfl⟩⟩
  · have hempty := (currentName_of_change_eq_none hchange).trans hname
    exact ResourceView.renames_eq_ok_iff.mpr (.inl ⟨hchange, rfl, hempty.symm⟩)
  · exact ResourceView.ownerChanges_eq_ok_iff.mpr (.inr ⟨recorded, target, howner, htarget, rfl⟩)

/-- The first change of a difference is sent once there is a session. -/
theorem mem_statementsSent_update {change : Change} {rest : List Change}
    (hdiff : resource.diff = .ok (change :: rest)) :
    change.toStatement ∈
      statementsSent (Operation.update.run scriptedServer resource {}).trace := by
  rw [run_update_of_diff_eq_ok hdiff]
  cases change <;> exact List.mem_cons_self

/-- An update sends statements without an empty name in them, and its difference has no others,
exactly when it does not give away a schema that cannot be addressed.  And exactly then a wish
for such a schema is refused before contact, whichever attribute it is about. -/
theorem update_addresses_schemas_iff (resource : Resource) :
    ((∀ (σ : Type) (server : Server σ) (state : σ), ∀ statement ∈
        statementsSent (Operation.update.run server resource state).trace,
          "" ∉ statement.names) ↔ ¬resource.GivesAwayNameless) ∧
    ((∀ changes, resource.diff = .ok changes →
        ∀ change ∈ changes, "" ∉ change.toStatement.names) ↔ ¬resource.GivesAwayNameless) ∧
    (resource.currentName = "" → (∃ attr, resource.change attr ≠ none) →
      ((∃ error, (error = .noIdentity ∨ ∃ attr, error = .emptyValue attr) ∧
        resource.RefusesUpdate error) ↔ ¬resource.GivesAwayNameless)) := by
  refine ⟨?_, ?_, ?_⟩
  · constructor
    · intro hsent haway
      obtain ⟨target, -, hdiff⟩ := diff_of_givesAwayNameless haway
      have hmem := mem_statementsSent_update hdiff
      exact hsent Script scriptedServer {} _ hmem
        (Change.empty_mem_names_changeOwner.mpr (.inl rfl))
    · intro haway σ server state statement hmem
      cases hdiff : resource.diff with
      | error error =>
        rw [run_update_of_diff_eq_error hdiff] at hmem
        cases hmem
      | ok changes =>
        obtain ⟨sent, hfirst, hsent⟩ := statementsSent_update hdiff server state
        rw [hsent] at hmem
        obtain ⟨change, hchange, rfl⟩ := List.mem_map.mp hmem
        exact names_of_diff_eq_ok hdiff haway change (hfirst.subset hchange)
  · constructor
    · intro hnames haway
      obtain ⟨target, -, hdiff⟩ := diff_of_givesAwayNameless haway
      exact hnames _ hdiff _ List.mem_cons_self
        (Change.empty_mem_names_changeOwner.mpr (.inl rfl))
    · intro haway changes hdiff
      exact names_of_diff_eq_ok hdiff haway
  · intro hname hwish
    constructor
    · rintro ⟨error, -, hrefuses⟩ haway
      obtain ⟨target, -, hdiff⟩ := diff_of_givesAwayNameless haway
      cases hdiff.symm.trans (refusesUpdate_iff.mp hrefuses)
    · exact refusesUpdate_of_currentName_eq_empty hname hwish

/-- A rename of a schema that was never created is refused. -/
theorem update_refuses_rename_of_uncreated :
    let resource := (Resource.mk none {} {}).plan .name "b"
    resource.currentName = "" ∧ resource.change .name ≠ none ∧
      ∃ error, (error = .noIdentity ∨ ∃ attr, error = .emptyValue attr) ∧
        resource.RefusesUpdate error := by
  intro resource
  have hchange : resource.change .name = some ("", "b") := rfl
  have haway : ¬resource.GivesAwayNameless := by
    rintro ⟨-, hnone, -⟩
    cases hchange.symm.trans hnone
  have hwish : resource.change .name ≠ none := by
    rw [hchange]
    nofun
  exact ⟨rfl, hwish, ((update_addresses_schemas_iff resource).2.2 rfl ⟨.name, hwish⟩).mpr haway⟩

/-- A host that never created its schema, and wants an owner for it, has the owner of a schema
with the empty name changed. -/
theorem update_addresses_empty_name :
    ∃ resource, Reachable (fun _ _ => True) resource ∧ resource.id = none ∧
      resource.recorded.name = none ∧
      statementsSent (Operation.update.run scriptedServer resource {}).trace =
        [.changeOwner "" "bob"] :=
  ⟨_, .plan .empty .owner "bob", rfl, rfl, rfl⟩

end Resource

end Schemata
