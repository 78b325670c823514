import Mathlib.Tactic.SplitIfs
import Schemata.Diff

/-!
# The shape of a difference

When a difference is found, and which changes it then has; and when it is refused, and why.
The rename comes from `ResourceView.renames`, the owner change from
`ResourceView.ownerChanges`, and a difference is the one followed by the other.
-/

namespace Schemata

namespace Resource

variable {resource : Resource} {attr : Attr} {recorded wanted : String}

theorem change_eq_some_iff :
    resource.change attr = some (recorded, wanted) ↔
      resource.planned.get attr = some wanted ∧
        (resource.recorded.get attr).getD "" = recorded ∧ recorded ≠ wanted := by
  unfold change
  cases resource.planned.get attr with
  | none => simp
  | some planned =>
    by_cases hsame : (resource.recorded.get attr).getD "" = planned
    · simp only [hsame, if_true]
      grind
    · simp only [hsame, if_false]
      grind

theorem change_eq_none_iff :
    resource.change attr = none ↔
      ∀ wanted, resource.planned.get attr = some wanted →
        (resource.recorded.get attr).getD "" = wanted := by
  unfold change
  cases resource.planned.get attr with
  | none => simp
  | some planned => simp

end Resource

namespace ResourceView

variable {view : ResourceView} {schema : String} {changes renames : List Change} {error : Error}

theorem renames_eq_ok_iff :
    view.renames = .ok (renames, schema) ↔
      (view.nameChange = none ∧ renames = [] ∧ schema = (view.id <|> view.name).getD "") ∨
      ∃ recorded target, view.nameChange = some (recorded, target) ∧ target ≠ "" ∧
        view.id.getD recorded ≠ "" ∧ schema = target ∧
        renames = if view.id.getD recorded = target then []
          else [.rename (view.id.getD recorded) target] := by
  unfold ResourceView.renames
  constructor
  · intro h
    cases hchange : view.nameChange with
    | none =>
      left
      simp only [hchange, Except.ok.injEq, Prod.mk.injEq] at h
      exact ⟨rfl, h.1.symm, h.2.symm⟩
    | some change =>
      right
      obtain ⟨recorded, target⟩ := change
      simp only [hchange] at h
      split_ifs at h with htarget hsource hsame
      all_goals
        simp only [Except.ok.injEq, Prod.mk.injEq] at h
        refine ⟨recorded, target, rfl, htarget, hsource, h.2.symm, ?_⟩
        rw [← h.1]
      · exact (if_pos hsame).symm
      · exact (if_neg hsame).symm
  · rintro (⟨hchange, rfl, rfl⟩ | ⟨recorded, target, hchange, htarget, hsource, rfl, rfl⟩)
    · simp only [hchange]
    · simp only [hchange, if_neg htarget, if_neg hsource]
      split_ifs <;> rfl

theorem renames_eq_error_iff :
    view.renames = .error error ↔
      ∃ recorded target, view.nameChange = some (recorded, target) ∧
        (target = "" ∧ error = .emptyValue .name ∨
          target ≠ "" ∧ view.id.getD recorded = "" ∧ error = .noIdentity) := by
  unfold ResourceView.renames
  constructor
  · intro h
    cases hchange : view.nameChange with
    | none => simp only [hchange, reduceCtorEq] at h
    | some change =>
      obtain ⟨recorded, target⟩ := change
      simp only [hchange] at h
      refine ⟨recorded, target, rfl, ?_⟩
      split_ifs at h with htarget hsource
      · cases h
        exact .inl ⟨htarget, rfl⟩
      · cases h
        exact .inr ⟨htarget, hsource, rfl⟩
  · rintro ⟨recorded, target, hchange, ⟨htarget, rfl⟩ | ⟨htarget, hsource, rfl⟩⟩
    · simp only [hchange, if_pos htarget]
    · simp only [hchange, if_neg htarget, if_pos hsource]

theorem ownerChanges_eq_ok_iff :
    view.ownerChanges schema = .ok changes ↔
      (view.ownerChange = none ∧ changes = []) ∨
      ∃ recorded target, view.ownerChange = some (recorded, target) ∧ target ≠ "" ∧
        changes = [.changeOwner schema target] := by
  unfold ResourceView.ownerChanges
  constructor
  · intro h
    cases hchange : view.ownerChange with
    | none =>
      simp only [hchange, Except.ok.injEq] at h
      exact .inl ⟨rfl, h.symm⟩
    | some change =>
      obtain ⟨recorded, target⟩ := change
      simp only [hchange] at h
      split_ifs at h with htarget
      cases h
      exact .inr ⟨recorded, target, rfl, htarget, rfl⟩
  · rintro (⟨hchange, rfl⟩ | ⟨recorded, target, hchange, htarget, rfl⟩)
    · simp only [hchange]
    · simp only [hchange, if_neg htarget]

theorem ownerChanges_eq_error_iff :
    view.ownerChanges schema = .error error ↔
      ∃ recorded, view.ownerChange = some (recorded, "") ∧ error = .emptyValue .owner := by
  unfold ResourceView.ownerChanges
  constructor
  · intro h
    cases hchange : view.ownerChange with
    | none => simp only [hchange, reduceCtorEq] at h
    | some change =>
      obtain ⟨recorded, target⟩ := change
      simp only [hchange] at h
      split_ifs at h with htarget
      cases h
      exact ⟨recorded, by rw [htarget], rfl⟩
  · rintro ⟨recorded, hchange, rfl⟩
    simp only [hchange, if_true]

theorem diff_eq_ok_iff :
    view.diff = .ok changes ↔
      ∃ renames schema owners, view.renames = .ok (renames, schema) ∧
        view.ownerChanges schema = .ok owners ∧ changes = renames ++ owners := by
  unfold ResourceView.diff
  constructor
  · intro h
    cases hrenames : view.renames with
    | error error => simp [hrenames, bind, Except.bind] at h
    | ok found =>
      obtain ⟨renames, schema⟩ := found
      cases howners : view.ownerChanges schema with
      | error error => simp [hrenames, howners, bind, Except.bind] at h
      | ok owners =>
        simp only [hrenames, howners, bind, Except.bind, pure, Except.pure,
          Except.ok.injEq] at h
        exact ⟨renames, schema, owners, rfl, howners, h.symm⟩
  · rintro ⟨renames, schema, owners, hrenames, howners, rfl⟩
    simp only [hrenames, howners, bind, Except.bind, pure, Except.pure]

/-- The owner is looked at only after the name, so of two errors the one about the name is
reported. -/
theorem diff_eq_error_iff :
    view.diff = .error error ↔
      view.renames = .error error ∨
        ∃ renames schema, view.renames = .ok (renames, schema) ∧
          view.ownerChanges schema = .error error := by
  unfold ResourceView.diff
  constructor
  · intro h
    cases hrenames : view.renames with
    | error other =>
      simp only [hrenames, bind, Except.bind] at h
      cases h
      exact .inl rfl
    | ok found =>
      obtain ⟨renames, schema⟩ := found
      cases howners : view.ownerChanges schema with
      | error other =>
        simp only [hrenames, howners, bind, Except.bind] at h
        exact .inr ⟨renames, schema, rfl, howners.trans h⟩
      | ok owners => simp [hrenames, howners, bind, Except.bind, pure, Except.pure] at h
  · rintro (hrenames | ⟨renames, schema, hrenames, howners⟩)
    · simp only [hrenames, bind, Except.bind]
    · simp only [hrenames, howners, bind, Except.bind]

end ResourceView

namespace Resource

variable {resource : Resource} {changes : List Change}

/-- A difference is a rename, which really gives another name, or none, and owner changes. -/
theorem changes_of_diff_eq_ok (hdiff : resource.diff = .ok changes) :
    ∃ renames owners, changes = renames ++ owners ∧
      (∀ change ∈ owners, ∃ schema target, change = .changeOwner schema target) ∧
      (renames = [] ∨ ∃ source target, renames = [.rename source target] ∧
        resource.id ≠ some target ∧ resource.recorded.name ≠ some target) := by
  obtain ⟨renames, schema, owners, hrenames, howners, rfl⟩ :=
    ResourceView.diff_eq_ok_iff.mp hdiff
  refine ⟨renames, owners, rfl, ?_, ?_⟩
  · rcases ResourceView.ownerChanges_eq_ok_iff.mp howners with
      ⟨-, rfl⟩ | ⟨recorded, target, -, -, rfl⟩
    · nofun
    · intro change hmem
      exact ⟨schema, target, List.mem_singleton.mp hmem⟩
  · rcases ResourceView.renames_eq_ok_iff.mp hrenames with
      ⟨-, rfl, -⟩ | ⟨recorded, target, hchange, -, -, -, rfl⟩
    · exact .inl rfl
    · by_cases hsame : resource.id.getD recorded = target
      · exact .inl (if_pos hsame)
      · obtain ⟨-, hrecorded, hother⟩ := change_eq_some_iff.mp hchange
        refine .inr ⟨_, target, if_neg hsame, ?_, ?_⟩
        · intro hid
          exact hsame (by rw [hid, Option.getD_some])
        · intro hname
          have hget : resource.recorded.get .name = some target := hname
          rw [hget] at hrecorded
          exact hother hrecorded.symm

end Resource

end Schemata
