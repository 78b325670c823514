import Schemata.Proofs.Diff

/-!
# Differences of any host

The answers that a difference is computed from need not agree with each other.  Whatever they
are, a difference is a rename, an owner change, the one followed by the other, or nothing, and
`ResourceView.IsChain` says which ends these have.  Where the answers give cause for errors, it is
the first of those instead (`diff_chains`).
-/

namespace Schemata.ResourceView

variable {view : ResourceView} {renames changes : List Change} {schema source target owner : String}
  {error : Error}

/-- The name of the schema once its name was changed, and the empty text if nothing tells it. -/
def nameAfterwards (view : ResourceView) : String :=
  (view.nameChange.map Prod.snd <|> view.id <|> view.name).getD ""

/-- The changes are such as the answers ask for: at most one to the name and one to the owner,
in this order, and the second to the schema that the first leaves. -/
structure IsChain (view : ResourceView) (changes : List Change) : Prop where
  shape : changes = [] ∨
    (∃ source target, changes = [.rename source target]) ∨
    (∃ schema owner, changes = [.changeOwner schema owner]) ∨
    ∃ source target owner, changes = [.rename source target, .changeOwner target owner]
  rename_iff : ∀ source target, .rename source target ∈ changes ↔
    source ≠ "" ∧ target ≠ "" ∧ source ≠ target ∧
      ∃ recorded, view.nameChange = some (recorded, target) ∧ source = view.id.getD recorded
  changeOwner_iff : ∀ schema owner, .changeOwner schema owner ∈ changes ↔
    owner ≠ "" ∧ schema = view.nameAfterwards ∧
      ∃ recorded, view.ownerChange = some (recorded, owner)

/-- The answers give cause for the error, perhaps next to others. -/
def GivesCauseFor (view : ResourceView) : Error → Prop
  | .emptyValue .name => ∃ recorded, view.nameChange = some (recorded, "")
  | .noIdentity =>
    ∃ recorded target, view.nameChange = some (recorded, target) ∧ view.id.getD recorded = ""
  | .emptyValue .owner => ∃ recorded, view.ownerChange = some (recorded, "")
  | .connection _ | .execution .. => False

/-- The errors of a difference, in the order in which they are looked for. -/
def precedence : List Error :=
  [.emptyValue .name, .noIdentity, .emptyValue .owner]

/-! ## Chains -/

theorem schema_of_renames_eq_ok (hrenames : view.renames = .ok (renames, schema)) :
    schema = view.nameAfterwards := by
  rcases renames_eq_ok_iff.mp hrenames with
    ⟨hchange, -, rfl⟩ | ⟨recorded, target, hchange, -, -, rfl, -⟩
  · rw [nameAfterwards, hchange]
    rfl
  · rw [nameAfterwards, hchange]
    rfl

theorem renames_shape (hrenames : view.renames = .ok (renames, schema)) :
    renames = [] ∨ ∃ source, renames = [.rename source schema] := by
  rcases renames_eq_ok_iff.mp hrenames with ⟨-, rfl, -⟩ | ⟨recorded, target, -, -, -, rfl, rfl⟩
  · exact .inl rfl
  · split_ifs
    · exact .inl rfl
    · exact .inr ⟨_, rfl⟩

theorem rename_mem_renames_iff (hrenames : view.renames = .ok (renames, schema)) :
    .rename source target ∈ renames ↔
      source ≠ "" ∧ target ≠ "" ∧ source ≠ target ∧
        ∃ recorded, view.nameChange = some (recorded, target) ∧
          source = view.id.getD recorded := by
  rcases renames_eq_ok_iff.mp hrenames with
    ⟨hchange, rfl, -⟩ | ⟨recorded, wanted, hchange, hwanted, hstart, -, rfl⟩
  · simp [hchange]
  · simp only [hchange, Option.some.injEq, Prod.mk.injEq]
    by_cases hsame : view.id.getD recorded = wanted
    · rw [if_pos hsame]
      apply iff_of_false
      · exact List.not_mem_nil
      · rintro ⟨-, -, hne, _, ⟨rfl, rfl⟩, rfl⟩
        exact hne hsame
    · rw [if_neg hsame, List.mem_singleton, Change.rename.injEq]
      constructor
      · rintro ⟨rfl, rfl⟩
        exact ⟨hstart, hwanted, hsame, recorded, ⟨rfl, rfl⟩, rfl⟩
      · rintro ⟨-, -, -, _, ⟨rfl, rfl⟩, rfl⟩
        exact ⟨rfl, rfl⟩

theorem changeOwner_notMem_renames (hrenames : view.renames = .ok (renames, schema))
    (name owner : String) : .changeOwner name owner ∉ renames := by
  rcases renames_shape hrenames with rfl | ⟨source, rfl⟩
  · exact List.not_mem_nil
  · simp

theorem isChain_of_diff_eq_ok (hdiff : view.diff = .ok changes) : view.IsChain changes := by
  obtain ⟨renames, schema, owners, hrenames, howners, rfl⟩ := diff_eq_ok_iff.mp hdiff
  have hshape := renames_shape hrenames
  have hnone := changeOwner_notMem_renames hrenames
  obtain rfl := schema_of_renames_eq_ok hrenames
  rcases ownerChanges_eq_ok_iff.mp howners with
    ⟨hchange, rfl⟩ | ⟨recorded, wanted, hchange, hwanted, rfl⟩
  · rw [List.append_nil]
    refine ⟨?_, fun _ _ => rename_mem_renames_iff hrenames, fun name owner => ?_⟩
    · rcases hshape with rfl | ⟨source, rfl⟩
      · exact .inl rfl
      · exact .inr (.inl ⟨source, _, rfl⟩)
    · simp [hnone, hchange]
  · refine ⟨?_, fun source target => ?_, fun name owner => ?_⟩
    · rcases hshape with rfl | ⟨source, rfl⟩
      · exact .inr (.inr (.inl ⟨_, wanted, rfl⟩))
      · exact .inr (.inr (.inr ⟨source, _, wanted, rfl⟩))
    · simp [rename_mem_renames_iff hrenames]
    · simp only [List.mem_append, hnone, List.mem_singleton, false_or, Change.changeOwner.injEq,
        hchange, Option.some.injEq, Prod.mk.injEq, exists_eq_left']
      constructor
      · rintro ⟨rfl, rfl⟩
        exact ⟨hwanted, rfl, rfl⟩
      · rintro ⟨-, rfl, rfl⟩
        exact ⟨rfl, rfl⟩

/-! ## Errors -/

theorem renames_eq_emptyName_iff :
    view.renames = .error (.emptyValue .name) ↔ view.GivesCauseFor (.emptyValue .name) := by
  simp [renames_eq_error_iff, GivesCauseFor]

theorem renames_eq_noIdentity_iff :
    view.renames = .error .noIdentity ↔
      view.GivesCauseFor .noIdentity ∧ ¬view.GivesCauseFor (.emptyValue .name) := by
  simp only [renames_eq_error_iff, GivesCauseFor, reduceCtorEq, and_false, false_or, and_true]
  constructor
  · rintro ⟨recorded, target, hchange, htarget, hstart⟩
    refine ⟨⟨recorded, target, hchange, hstart⟩, ?_⟩
    rintro ⟨other, hempty⟩
    cases hchange.symm.trans hempty
    exact htarget rfl
  · rintro ⟨⟨recorded, target, hchange, hstart⟩, hname⟩
    refine ⟨recorded, target, hchange, ?_, hstart⟩
    rintro rfl
    exact hname ⟨recorded, hchange⟩

theorem exists_renames_eq_ok_iff :
    (∃ found, view.renames = .ok found) ↔
      ¬view.GivesCauseFor (.emptyValue .name) ∧ ¬view.GivesCauseFor .noIdentity := by
  cases hrenames : view.renames with
  | ok found =>
    apply iff_of_true ⟨found, rfl⟩
    have hname := (not_congr renames_eq_emptyName_iff).mp (by rw [hrenames]; nofun)
    have hidentity := (not_congr renames_eq_noIdentity_iff).mp (by rw [hrenames]; nofun)
    exact ⟨hname, fun hcause => hidentity ⟨hcause, hname⟩⟩
  | error error =>
    apply iff_of_false nofun
    rintro ⟨hname, hidentity⟩
    obtain ⟨recorded, target, hchange, ⟨rfl, -⟩ | ⟨-, hstart, -⟩⟩ :=
      renames_eq_error_iff.mp hrenames
    · exact hname ⟨recorded, hchange⟩
    · exact hidentity ⟨recorded, target, hchange, hstart⟩

/-- The owner is looked at once there is nothing wrong with the name. -/
theorem diff_eq_error_iff_or :
    view.diff = .error error ↔
      view.renames = .error error ∨
        error = .emptyValue .owner ∧ view.GivesCauseFor (.emptyValue .owner) ∧
          ∃ found, view.renames = .ok found := by
  rw [diff_eq_error_iff]
  apply or_congr_right
  constructor
  · rintro ⟨renames, schema, hrenames, howners⟩
    obtain ⟨recorded, hchange, rfl⟩ := ownerChanges_eq_error_iff.mp howners
    exact ⟨rfl, ⟨recorded, hchange⟩, _, hrenames⟩
  · rintro ⟨rfl, ⟨recorded, hchange⟩, ⟨renames, schema⟩, hrenames⟩
    exact ⟨renames, schema, hrenames, ownerChanges_eq_error_iff.mpr ⟨recorded, hchange, rfl⟩⟩

/-- Of the errors that there is cause for, the first in the precedence is reported. -/
theorem diff_eq_error_iff_first :
    view.diff = .error error ↔
      view.GivesCauseFor error ∧
        ∀ earlier ∈ precedence.takeWhile (· ≠ error), ¬view.GivesCauseFor earlier := by
  rw [diff_eq_error_iff_or, exists_renames_eq_ok_iff]
  cases error with
  | emptyValue attr =>
    cases attr with
    | name => simp [renames_eq_emptyName_iff, precedence]
    | owner =>
      have howner : view.renames ≠ .error (.emptyValue .owner) := by
        intro hrenames
        obtain ⟨_, _, -, ⟨-, heq⟩ | ⟨-, -, heq⟩⟩ := renames_eq_error_iff.mp hrenames <;> cases heq
      simp [howner, precedence]
  | noIdentity => simp [renames_eq_noIdentity_iff, precedence]
  | connection fault => simp [renames_eq_error_iff, GivesCauseFor]
  | execution action schema fault => simp [renames_eq_error_iff, GivesCauseFor]

theorem mem_precedence (hcause : view.GivesCauseFor error) : error ∈ precedence := by
  cases error with
  | emptyValue attr => cases attr <;> decide
  | noIdentity => decide
  | connection fault => exact hcause.elim
  | execution action schema fault => exact hcause.elim

theorem exists_first {applies : Error → Prop} {errors : List Error}
    (h : ∃ error ∈ errors, applies error) :
    ∃ error, applies error ∧ ∀ earlier ∈ errors.takeWhile (· ≠ error), ¬applies earlier := by
  induction errors with
  | nil => simp at h
  | cons first rest ih =>
    by_cases hfirst : applies first
    · exact ⟨first, hfirst, by simp⟩
    · have hrest : ∃ error ∈ rest, applies error := by simpa [hfirst] using h
      obtain ⟨error, happlies, hearlier⟩ := ih hrest
      have hne : first ≠ error := fun heq => hfirst (heq ▸ happlies)
      refine ⟨error, happlies, ?_⟩
      rw [List.takeWhile_cons_of_pos (by simpa using hne)]
      exact List.forall_mem_cons.mpr ⟨hfirst, hearlier⟩

/-- Where there is cause for an error, one is reported. -/
theorem exists_diff_eq_error_iff :
    (∃ error, view.diff = .error error) ↔ ∃ error, view.GivesCauseFor error := by
  simp only [diff_eq_error_iff_first]
  constructor
  · rintro ⟨error, hcause, -⟩
    exact ⟨error, hcause⟩
  · rintro ⟨error, hcause⟩
    exact exists_first ⟨error, mem_precedence hcause, hcause⟩

/-- Whatever a host answers, a difference that is found is a chain of changes: a rename starts at
the identity, or else at the old name that is reported, and an owner change addresses the name
that the schema has then.  It is refused exactly if an empty value is wanted for an attribute or
a change of the name has nowhere to start, and of several such errors the one about the empty name
comes first, then the one about the start, then the one about the owner. -/
theorem diff_chains (view : ResourceView) :
    (∀ changes, view.diff = .ok changes → view.IsChain changes) ∧
    ((∃ error, view.diff = .error error) ↔ ∃ error, view.GivesCauseFor error) ∧
    ∀ error, view.diff = .error error ↔
      view.GivesCauseFor error ∧
        ∀ earlier ∈ precedence.takeWhile (· ≠ error), ¬view.GivesCauseFor earlier :=
  ⟨fun _ => isChain_of_diff_eq_ok, exists_diff_eq_error_iff, fun _ => diff_eq_error_iff_first⟩

/-- The old name is not the identity, which is where the rename starts; and an empty owner is not
reported while the new name is empty. -/
theorem diff_chains_against_identity :
    let view : ResourceView :=
      { id := some "a", name := some "c", nameChange := some ("z", "b"),
        ownerChange := some ("", "bob") }
    let spoilt : ResourceView :=
      { view with nameChange := some ("z", ""), ownerChange := some ("", "") }
    view.IsChain [.rename "a" "b", .changeOwner "b" "bob"] ∧
      spoilt.diff = .error (.emptyValue .name) ∧ spoilt.GivesCauseFor (.emptyValue .owner) := by
  intro view spoilt
  obtain ⟨hchain, -, -⟩ := diff_chains view
  obtain ⟨-, -, herror⟩ := diff_chains spoilt
  exact ⟨hchain _ rfl, (herror _).mpr ⟨⟨"z", rfl⟩, nofun⟩, ⟨"", rfl⟩⟩

end Schemata.ResourceView
