import Mathlib.Data.List.Basic
import Mathlib.Tactic.SplitIfs
import Schemata.Proofs.Quoting
import Schemata.Statement.Reader

/-!
# Statement texts are unambiguous

The text of a statement can be read back in full, and nothing else can be read
(`read?_eq_some_iff`).  So no two statements share a text.  The text outside quoted
identifiers, which alone has a meaning of its own, tells which clauses there are and
does not depend on the names (`outside_render`).
-/

namespace Schemata.Statement

open Ident

/-! ## Clauses -/

theorem clause?_eq_some_iff {words name : String} {text rest : List Char} :
    clause? words text = some (name, rest) ↔
      text = words.toList ++ (quoteChars name.toList ++ rest) ∧ rest.head? ≠ some '"' := by
  simp only [clause?, Option.bind_eq_bind, Option.bind_eq_some_iff]
  constructor
  · rintro ⟨quoted, hwords, ⟨chars, rest'⟩, hscan, heq⟩
    cases heq
    obtain ⟨rfl, hrest⟩ := scan_eq_some_iff.mp hscan
    rw [String.toList_ofList]
    exact ⟨(List.isPrefixOf?_eq_some_iff_append_eq.mp hwords).symm, hrest⟩
  · rintro ⟨htext, hrest⟩
    refine ⟨_, List.isPrefixOf?_eq_some_iff_append_eq.mpr htext.symm, _,
      scan_eq_some_iff.mpr ⟨rfl, hrest⟩, ?_⟩
    rw [String.ofList_toList]
    rfl

theorem lastClause?_eq_some_iff {words name : String} {text : List Char} :
    lastClause? words text = some name ↔ text = words.toList ++ quoteChars name.toList := by
  have hclause : lastClause? words text = some name ↔ clause? words text = some (name, []) := by
    unfold lastClause?
    split
    · next hread => simp [hread]
    · next hread => simpa using hread name
  rw [hclause, clause?_eq_some_iff, List.append_nil]
  simp

section

variable {first last name other : String} {text : List Char}

theorem clause?_alone_iff :
    clause? first text = some (name, []) ↔ text = (first ++ quote name).toList := by
  rw [clause?_eq_some_iff, List.append_nil, String.toList_append, toList_quote]
  simp

theorem clause?_before_iff (hlast : last.toList.head? ≠ some '"') :
    clause? first text = some (name, last.toList) ↔
      text = (first ++ quote name ++ last).toList := by
  rw [clause?_eq_some_iff, and_iff_left hlast, String.toList_append, String.toList_append,
    toList_quote, List.append_assoc]

/-- Two clauses are read one after the other if the words of the second begin with a blank, so
that the name of the first cannot go on. -/
theorem clause?_lastClause?_iff (hlast : last.toList.head? = some ' ') :
    (∃ rest, clause? first text = some (name, rest) ∧ lastClause? last rest = some other) ↔
      text = (first ++ quote name ++ last ++ quote other).toList := by
  simp only [clause?_eq_some_iff, lastClause?_eq_some_iff, String.toList_append, toList_quote,
    List.append_assoc]
  constructor
  · rintro ⟨rest, ⟨rfl, -⟩, rfl⟩
    rfl
  · rintro rfl
    exact ⟨_, ⟨rfl, by simp [List.head?_append, hlast]⟩, rfl⟩

end

/-! ## Outside the names -/

/-- The statement with every name left empty. -/
def blank : Statement → Statement
  | .create _ owner => .create "" (owner.map fun _ => "")
  | .rename _ _ => .rename "" ""
  | .changeOwner _ _ => .changeOwner "" ""
  | .drop _ behavior => .drop "" behavior

/-- What a statement can be with its names left empty. -/
def forms : List Statement :=
  [.create "" none, .create "" (some ""), .rename "" "", .changeOwner "" "",
    .drop "" .restrict, .drop "" .cascade]

/-- The words of the clauses, without the names. -/
def words : Statement → String
  | .create _ none => "CREATE SCHEMA "
  | .create _ (some _) => "CREATE SCHEMA " ++ " AUTHORIZATION "
  | .rename _ _ => "ALTER SCHEMA " ++ " RENAME TO "
  | .changeOwner _ _ => "ALTER SCHEMA " ++ " OWNER TO "
  | .drop _ .restrict => "DROP SCHEMA "
  | .drop _ .cascade => "DROP SCHEMA " ++ " CASCADE"

section

variable {first last : String} (hfirst : '"' ∉ first.toList) (hlast : '"' ∉ last.toList)
  (name other : String)

include hfirst

theorem outside_clause :
    outside false (first ++ quote name).toList = first.toList := by
  rw [String.toList_append, toList_quote, outside_append_of_notMem hfirst, outside_quoteChars,
    List.append_nil]

include hlast

theorem outside_clause_words :
    outside false (first ++ quote name ++ last).toList = (first ++ last).toList := by
  have hwords := outside_append_of_notMem hlast []
  rw [List.append_nil, outside, List.append_nil] at hwords
  simp only [String.toList_append, toList_quote, List.append_assoc,
    outside_append_of_notMem hfirst, outside_quoteChars_append, hwords]

theorem outside_clause_clause :
    outside false (first ++ quote name ++ last ++ quote other).toList =
      (first ++ last).toList := by
  simp only [String.toList_append, toList_quote, List.append_assoc,
    outside_append_of_notMem hfirst, outside_append_of_notMem hlast, outside_quoteChars_append,
    outside_quoteChars, List.append_nil]

end

theorem outside_render (statement : Statement) :
    outside false statement.render.toList = statement.words.toList := by
  cases statement with
  | create name owner =>
    cases owner with
    | none => exact outside_clause (by decide) name
    | some owner => exact outside_clause_clause (by decide) (by decide) name owner
  | rename source target => exact outside_clause_clause (by decide) (by decide) source target
  | changeOwner name owner => exact outside_clause_clause (by decide) (by decide) name owner
  | drop name behavior =>
    cases behavior with
    | restrict => exact outside_clause (by decide) name
    | cascade => exact outside_clause_words (by decide) (by decide) name

/-- A name that spells a clause adds none. -/
example : outside false (render (.drop "a\" CASCADE" .restrict)).toList =
    (words (.drop "b" .restrict)).toList := by
  decide

theorem words_blank (statement : Statement) : statement.blank.words = statement.words := by
  rcases statement with ⟨_, _ | _⟩ | ⟨_, _⟩ | ⟨_, _⟩ | ⟨_, _ | _⟩
  all_goals rfl

theorem blank_mem_forms (statement : Statement) : statement.blank ∈ forms := by
  rcases statement with ⟨_, _ | _⟩ | ⟨_, _⟩ | ⟨_, _⟩ | ⟨_, _ | _⟩
  all_goals simp [blank, forms]

theorem words_eq_iff {left right : Statement} :
    left.words = right.words ↔ left.blank = right.blank := by
  have hdistinct : ∀ left ∈ forms, ∀ right ∈ forms, left.words = right.words → left = right := by
    decide
  constructor
  · intro hwords
    apply hdistinct _ left.blank_mem_forms _ right.blank_mem_forms
    rw [words_blank, words_blank, hwords]
  · intro hblank
    rw [← words_blank left, hblank, words_blank]

theorem action_eq_of_render_eq {left right : Statement}
    (hrender : left.render.toList = right.render.toList) : left.action = right.action := by
  have hwords : left.words.toList = right.words.toList := by
    rw [← outside_render, ← outside_render, hrender]
  have hblank : left.blank = right.blank := words_eq_iff.mp (String.toList_inj.mp hwords)
  have haction (statement : Statement) : statement.blank.action = statement.action := by
    cases statement <;> rfl
  rw [← haction left, hblank, haction right]

/-! ## Reading back -/

section

variable {text : List Char} {statement : Statement}

theorem readCreate?_eq_some_iff :
    readCreate? text = some statement ↔
      statement.action = .create ∧ text = statement.render.toList := by
  constructor
  · intro hread
    simp only [readCreate?, Option.bind_eq_bind, Option.bind_eq_some_iff, Prod.exists] at hread
    obtain ⟨name, rest, hclause, hread⟩ := hread
    by_cases hrest : rest = []
    · subst hrest
      cases hread
      exact ⟨rfl, clause?_alone_iff.mp hclause⟩
    · rw [if_neg hrest, Option.bind_eq_some_iff] at hread
      obtain ⟨owner, howner, hread⟩ := hread
      cases hread
      exact ⟨rfl, (clause?_lastClause?_iff (by decide)).mp ⟨rest, hclause, howner⟩⟩
  · rintro ⟨haction, rfl⟩
    cases statement with
    | create name owner =>
      cases owner with
      | none =>
        have hclause : clause? "CREATE SCHEMA " (render (.create name none)).toList =
            some (name, []) := clause?_alone_iff.mpr rfl
        rw [readCreate?, hclause]
        rfl
      | some owner =>
        obtain ⟨rest, hclause, howner⟩ := (clause?_lastClause?_iff (by decide)).mpr
          (rfl : (render (.create name (some owner))).toList = _)
        have hrest : rest ≠ [] := by simp [lastClause?_eq_some_iff.mp howner]
        rw [readCreate?, hclause]
        simp [hrest, howner]
    | rename source target => cases haction
    | changeOwner name owner => cases haction
    | drop name behavior => cases haction

theorem readAlter?_eq_some_iff :
    readAlter? text = some statement ↔
      (statement.action = .rename ∨ statement.action = .changeOwner) ∧
        text = statement.render.toList := by
  constructor
  · intro hread
    simp only [readAlter?, Option.bind_eq_bind, Option.bind_eq_some_iff, Prod.exists,
      Option.orElse_eq_orElse, Option.orElse_eq_or, Option.or_eq_some_iff,
      Option.map_eq_some_iff] at hread
    obtain ⟨name, rest, hclause, ⟨target, hlast, rfl⟩ | ⟨-, owner, hlast, rfl⟩⟩ := hread
    · exact ⟨.inl rfl, (clause?_lastClause?_iff (by decide)).mp ⟨rest, hclause, hlast⟩⟩
    · exact ⟨.inr rfl, (clause?_lastClause?_iff (by decide)).mp ⟨rest, hclause, hlast⟩⟩
  · rintro ⟨haction, rfl⟩
    cases statement with
    | create name owner => simp [action] at haction
    | rename source target =>
      obtain ⟨rest, hclause, hlast⟩ := (clause?_lastClause?_iff (by decide)).mpr
        (rfl : (render (.rename source target)).toList = _)
      rw [readAlter?, hclause]
      simp [hlast]
    | changeOwner name owner =>
      obtain ⟨rest, hclause, hlast⟩ := (clause?_lastClause?_iff (by decide)).mpr
        (rfl : (render (.changeOwner name owner)).toList = _)
      have hother : lastClause? " RENAME TO " rest = none := by
        rw [Option.eq_none_iff_forall_ne_some]
        intro target htarget
        have htexts := (lastClause?_eq_some_iff.mp hlast).symm.trans
          (lastClause?_eq_some_iff.mp htarget)
        simp at htexts
      rw [readAlter?, hclause]
      simp [hlast, hother]
    | drop name behavior => simp [action] at haction

theorem readDrop?_eq_some_iff :
    readDrop? text = some statement ↔
      statement.action = .drop ∧ text = statement.render.toList := by
  constructor
  · intro hread
    simp only [readDrop?, Option.bind_eq_bind, Option.bind_eq_some_iff, Prod.exists] at hread
    obtain ⟨name, rest, hclause, hread⟩ := hread
    split_ifs at hread with hnone hcascade
    · cases hread
      subst hnone
      exact ⟨rfl, clause?_alone_iff.mp hclause⟩
    · cases hread
      subst hcascade
      exact ⟨rfl, (clause?_before_iff (by decide)).mp hclause⟩
  · rintro ⟨haction, rfl⟩
    cases statement with
    | create name owner => cases haction
    | rename source target => cases haction
    | changeOwner name owner => cases haction
    | drop name behavior =>
      cases behavior with
      | restrict =>
        have hclause : clause? "DROP SCHEMA " (render (.drop name .restrict)).toList =
            some (name, []) := clause?_alone_iff.mpr rfl
        rw [readDrop?, hclause]
        rfl
      | cascade =>
        have hclause : clause? "DROP SCHEMA " (render (.drop name .cascade)).toList =
            some (name, " CASCADE".toList) := (clause?_before_iff (by decide)).mpr rfl
        rw [readDrop?, hclause]
        rfl

/-- The reader accepts the texts of statements and no others. -/
theorem read?_eq_some_iff : read? text = some statement ↔ text = statement.render.toList := by
  simp only [read?, Option.orElse_eq_orElse, Option.orElse_eq_or, Option.or_eq_some_iff,
    readCreate?_eq_some_iff, readAlter?_eq_some_iff, readDrop?_eq_some_iff]
  constructor
  · rintro (⟨-, htext⟩ | ⟨-, ⟨-, htext⟩ | ⟨-, -, htext⟩⟩)
    all_goals exact htext
  · rintro rfl
    -- An earlier reader would have to accept the text of a statement of its own kind.
    have hcreate (haction : statement.action ≠ .create) :
        readCreate? statement.render.toList = none := by
      rw [Option.eq_none_iff_forall_ne_some]
      intro other hread
      obtain ⟨hother, htext⟩ := readCreate?_eq_some_iff.mp hread
      exact haction ((action_eq_of_render_eq htext).trans hother)
    have halter (haction : statement.action = .drop) :
        readAlter? statement.render.toList = none := by
      rw [Option.eq_none_iff_forall_ne_some]
      intro other hread
      obtain ⟨hother, htext⟩ := readAlter?_eq_some_iff.mp hread
      rw [← action_eq_of_render_eq htext, haction] at hother
      simp at hother
    cases statement with
    | create name owner => exact .inl ⟨rfl, rfl⟩
    | rename source target => exact .inr ⟨hcreate nofun, .inl ⟨.inl rfl, rfl⟩⟩
    | changeOwner name owner => exact .inr ⟨hcreate nofun, .inl ⟨.inr rfl, rfl⟩⟩
    | drop name behavior => exact .inr ⟨hcreate nofun, .inr ⟨halter rfl, rfl, rfl⟩⟩

end

/-- A text reads back as the statement that it was written from, whatever the names are; so
different statements have different texts.  What stands outside the names depends on
the clauses alone, and tells them apart. -/
theorem render_unambiguous :
    (∀ text statement, read? text = some statement ↔ text = statement.render.toList) ∧
    Function.Injective render ∧
    ∀ left right : Statement,
      outside false left.render.toList = outside false right.render.toList ↔
        left.blank = right.blank := by
  refine ⟨fun text statement => read?_eq_some_iff, ?_, ?_⟩
  · intro left right hrender
    have hleft : read? right.render.toList = some left :=
      read?_eq_some_iff.mpr (congrArg String.toList hrender.symm)
    have hright : read? right.render.toList = some right := read?_eq_some_iff.mpr rfl
    exact Option.some.inj (hleft.symm.trans hright)
  · intro left right
    rw [outside_render, outside_render, String.toList_inj, words_eq_iff]

end Schemata.Statement
