import Schemata.Proofs.Changes
import Schemata.Proofs.Diff
import Schemata.Script

/-!
# Updates that are refused before contact

An update whose difference cannot be made fails before it makes a call, so that nothing is
sent and nothing changes (`Resource.RefusesUpdate`).  A value that is wanted empty is refused
when the attribute was recorded with another value; an attribute that was never recorded
counts as empty already, and there the wish goes unnoticed (`update_refuses_empty_iff`).
-/

namespace Schemata

/-- The run of an operation that fails before it makes a call. -/
def Run.refused {σ : Type} (error : Error) (resource : Resource) (state : σ) : Run σ where
  state := state
  resource := resource
  result := .error error
  events := []
  trace := []

namespace Resource

variable {resource : Resource} {attr : Attr} {error : Error}

/-- An update fails with the error before it makes a call, whatever the server is. -/
def RefusesUpdate (resource : Resource) (error : Error) : Prop :=
  ∀ (σ : Type) (server : Server σ) (state : σ),
    Operation.update.run server resource state = .refused error resource state

theorem run_update_of_diff_eq_error {σ : Type} (hdiff : resource.diff = .error error)
    (server : Server σ) (state : σ) :
    Operation.update.run server resource state = .refused error resource state := by
  simp only [Operation.run, Operation.procedure, Procedure.update, hdiff]
  rfl

/-- An update that is not refused opens a session first. -/
theorem trace_update_of_diff_eq_ok {σ : Type} {changes : List Change}
    (hdiff : resource.diff = .ok changes) (server : Server σ) (state : σ) :
    ∃ reply rest, (Operation.update.run server resource state).trace =
      ⟨.connect, reply⟩ :: rest := by
  rw [run_update_of_diff_eq_ok hdiff]
  exact ⟨_, _, rfl⟩

theorem refusesUpdate_iff : resource.RefusesUpdate error ↔ resource.diff = .error error := by
  constructor
  · intro hrefuses
    have hrun := hrefuses Script scriptedServer {}
    cases hdiff : resource.diff with
    | error other =>
      rw [run_update_of_diff_eq_error hdiff] at hrun
      have hresult : (Except.error other : Except Error Unit) = .error error :=
        congrArg Run.result hrun
      cases hresult
      rfl
    | ok changes =>
      obtain ⟨reply, rest, htrace⟩ := trace_update_of_diff_eq_ok hdiff scriptedServer {}
      rw [hrun] at htrace
      cases htrace
  · intro hdiff σ server state
    exact run_update_of_diff_eq_error hdiff server state

/-- An attribute that was recorded with a value is wanted empty. -/
def Empties (resource : Resource) (attr : Attr) : Prop :=
  resource.planned.get attr = some "" ∧
    ∃ recorded, resource.recorded.get attr = some recorded ∧ recorded ≠ ""

theorem empties_iff :
    resource.Empties attr ↔ ∃ recorded, resource.change attr = some (recorded, "") := by
  simp only [change_eq_some_iff, Empties]
  constructor
  · rintro ⟨hplanned, recorded, hrecorded, hne⟩
    exact ⟨recorded, hplanned, by rw [hrecorded, Option.getD_some], hne⟩
  · rintro ⟨recorded, hplanned, hrecorded, hne⟩
    refine ⟨hplanned, recorded, ?_, hne⟩
    cases hget : resource.recorded.get attr with
    | none =>
      rw [hget] at hrecorded
      exact absurd hrecorded.symm hne
    | some value =>
      rw [hget] at hrecorded
      exact congrArg some hrecorded

section

variable {name : String} (hid : resource.id = some name) (hname : name ≠ "")
include hid hname

/-- A schema that has a name is never short of one to address it by, so all that can be wrong
with the wanted name is that it is empty. -/
theorem renames_eq_error_iff_of_id (error : Error) :
    resource.view.renames = .error error ↔
      error = .emptyValue .name ∧ resource.Empties .name := by
  rw [ResourceView.renames_eq_error_iff, empties_iff]
  constructor
  · rintro ⟨recorded, target, hchange, ⟨rfl, rfl⟩ | ⟨-, hempty, -⟩⟩
    · exact ⟨rfl, recorded, hchange⟩
    · simp only [view, hid, Option.getD_some] at hempty
      exact absurd hempty hname
  · rintro ⟨rfl, recorded, hchange⟩
    exact ⟨recorded, "", hchange, .inl ⟨rfl, rfl⟩⟩

theorem diff_eq_error_iff_of_id (error : Error) :
    resource.diff = .error error ↔
      error = .emptyValue .name ∧ resource.Empties .name ∨
        error = .emptyValue .owner ∧ ¬resource.Empties .name ∧ resource.Empties .owner := by
  have hrenames := renames_eq_error_iff_of_id hid hname
  have howner (schema : String) : resource.view.ownerChanges schema = .error error ↔
      error = .emptyValue .owner ∧ resource.Empties .owner := by
    rw [ResourceView.ownerChanges_eq_error_iff, empties_iff]
    exact exists_and_right.trans and_comm
  have hkept : (∃ renames schema, resource.view.renames = .ok (renames, schema)) ↔
      ¬resource.Empties .name := by
    constructor
    · rintro ⟨renames, schema, hok⟩ hempties
      cases hok.symm.trans ((hrenames _).mpr ⟨rfl, hempties⟩)
    · intro hkept
      cases hfound : resource.view.renames with
      | error other => exact absurd ((hrenames other).mp hfound).2 hkept
      | ok found => exact ⟨found.1, found.2, rfl⟩
  rw [diff, ResourceView.diff_eq_error_iff, hrenames error, ← hkept]
  apply or_congr_right
  simp only [howner]
  constructor
  · rintro ⟨renames, schema, hok, herror, hempties⟩
    exact ⟨herror, ⟨renames, schema, hok⟩, hempties⟩
  · rintro ⟨herror, ⟨renames, schema, hok⟩, hempties⟩
    exact ⟨renames, schema, hok, herror, hempties⟩

end

/-- Of a schema that has a name, an update is refused before contact exactly when it would empty
an attribute that was recorded with a value, and the name is reported before the owner.  Every
other update contacts the server. -/
theorem update_refuses_empty_iff {name : String} (hid : resource.id = some name)
    (hname : name ≠ "") :
    (∀ error, resource.RefusesUpdate error ↔
      error = .emptyValue .name ∧ resource.Empties .name ∨
        error = .emptyValue .owner ∧ ¬resource.Empties .name ∧ resource.Empties .owner) ∧
    (¬resource.Empties .name → ¬resource.Empties .owner →
      ∀ (σ : Type) (server : Server σ) (state : σ), ∃ reply rest,
        (Operation.update.run server resource state).trace = ⟨.connect, reply⟩ :: rest) := by
  constructor
  · intro error
    rw [refusesUpdate_iff, diff_eq_error_iff_of_id hid hname]
  · intro hnameKept hownerKept σ server state
    cases hdiff : resource.diff with
    | error error =>
      rcases (diff_eq_error_iff_of_id hid hname error).mp hdiff with ⟨-, hempties⟩ | ⟨-, -, hempties⟩
      · exact absurd hempties hnameKept
      · exact absurd hempties hownerKept
    | ok changes => exact trace_update_of_diff_eq_ok hdiff server state

/-- An empty owner is refused although the rename beside it could be made. -/
theorem update_refuses_empty_owner_beside_rename :
    let resource := ((Resource.ofRecord { name := "a", owner := "alice" }).plan .name "b").plan
      .owner ""
    resource.id = some "a" ∧ "a" ≠ "" ∧ resource.RefusesUpdate (.emptyValue .owner) := by
  intro resource
  have hkept : ¬resource.Empties .name := by
    rintro ⟨hplanned, -⟩
    exact absurd hplanned (by decide)
  have hempties : resource.Empties .owner := ⟨rfl, "alice", rfl, by decide⟩
  have hrefuses := (@update_refuses_empty_iff resource "a" rfl (by decide)).1 (.emptyValue .owner)
  exact ⟨rfl, by decide, hrefuses.mpr (.inr ⟨rfl, hkept, hempties⟩)⟩

/-- An empty name that is wanted of a schema which was not read yet goes unnoticed: the update
opens a session and succeeds. -/
theorem update_overlooks_empty_name_of_unread :
    let resource := (Resource.ofId "a").plan .name ""
    let found : Record := { name := "a", owner := "alice" }
    let run := Operation.update.run scriptedServer resource { lookups := [.ok (some found)] }
    resource.id = some "a" ∧ resource.planned.name = some "" ∧ resource.recorded.name = none ∧
      run.result = .ok () ∧ run.resource.record = some found ∧
      run.trace = [⟨.connect, .ok ()⟩, ⟨.lookup "a", .ok (some found)⟩, ⟨.close, ()⟩] :=
  ⟨rfl, rfl, rfl, rfl, rfl, rfl⟩

end Resource

end Schemata
