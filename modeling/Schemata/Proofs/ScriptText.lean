import Schemata.Diff
import Schemata.Proofs.StatementText

/-!
# Script texts are unambiguous

The text of a statement ends outside quoted identifiers and holds no semicolon outside
them, so a script is cut behind each of its statements and nowhere else, whatever the names
are (`cutScript_terminated`).  A cut loses nothing (`terminated_cutScript`), so the reader
accepts the scripts of statements and no other texts (`readScript?_eq_some_iff`).
-/

namespace Schemata

namespace Ident

/-- Whether a text ends inside a quoted identifier; `isQuoted` tells whether it starts inside
one. -/
def endsQuoted (isQuoted : Bool) (text : List Char) : Bool :=
  text.foldl (fun isQuoted c => if c = '"' then !isQuoted else isQuoted) isQuoted

theorem endsQuoted_append (isQuoted : Bool) (left right : List Char) :
    endsQuoted isQuoted (left ++ right) = endsQuoted (endsQuoted isQuoted left) right :=
  List.foldl_append

theorem endsQuoted_escape (isQuoted : Bool) (name : List Char) :
    endsQuoted isQuoted (escape name) = isQuoted := by
  induction name with
  | nil => rfl
  | cons c name ih =>
    by_cases hc : c = '"'
    · subst hc
      rw [escape_quote, endsQuoted, List.foldl_cons, List.foldl_cons, if_pos rfl, if_pos rfl,
        Bool.not_not]
      exact ih
    · rw [escape_of_ne hc, endsQuoted, List.foldl_cons, if_neg hc]
      exact ih

/-- The text starts and ends outside quoted identifiers. -/
def IsClosed (text : String) : Prop :=
  endsQuoted false text.toList = false

instance (text : String) : Decidable (IsClosed text) :=
  inferInstanceAs (Decidable (_ = false))

theorem IsClosed.append {left right : String} (hleft : IsClosed left) (hright : IsClosed right) :
    IsClosed (left ++ right) := by
  unfold IsClosed at *
  rw [String.toList_append, endsQuoted_append, hleft, hright]

theorem isClosed_quote (name : String) : IsClosed (quote name) := by
  unfold IsClosed
  rw [toList_quote, quoteChars, ← List.singleton_append, endsQuoted_append, endsQuoted_append,
    endsQuoted_escape]
  rfl

end Ident

namespace Statement

open Ident

/-! ## Where a statement ends -/

theorem isClosed_clause_clause {first last : String} (hfirst : IsClosed first)
    (hlast : IsClosed last) (name other : String) :
    IsClosed (first ++ quote name ++ last ++ quote other) :=
  ((hfirst.append (isClosed_quote name)).append hlast).append (isClosed_quote other)

theorem isClosed_render (statement : Statement) : IsClosed statement.render := by
  cases statement with
  | create name owner =>
    cases owner with
    | none => exact IsClosed.append (by decide) (isClosed_quote name)
    | some owner => exact isClosed_clause_clause (by decide) (by decide) name owner
  | rename source target => exact isClosed_clause_clause (by decide) (by decide) source target
  | changeOwner name owner => exact isClosed_clause_clause (by decide) (by decide) name owner
  | drop name behavior =>
    have hdrop : IsClosed ("DROP SCHEMA " ++ quote name) :=
      IsClosed.append (by decide) (isClosed_quote name)
    cases behavior with
    | restrict => exact hdrop
    | cascade => exact hdrop.append (by decide)

theorem semicolon_notMem_outside_render (statement : Statement) :
    ';' ∉ outside false statement.render.toList := by
  have hforms : ∀ form ∈ forms, ';' ∉ form.words.toList := by decide
  rw [outside_render, ← words_blank]
  exact hforms _ statement.blank_mem_forms

/-! ## Cutting -/

/-- Each text with a semicolon and a line break behind it. -/
def terminated (pieces : List (List Char)) : List Char :=
  pieces.flatMap fun piece => piece ++ [';', '\n']

theorem terminated_cons (piece : List Char) (pieces : List (List Char)) :
    terminated (piece :: pieces) = piece ++ ';' :: '\n' :: terminated pieces := by
  rw [terminated, List.flatMap_cons, List.append_assoc]
  rfl

theorem cutScript_cons {isQuoted : Bool} {c : Char} (hc : isQuoted = true ∨ c ≠ ';')
    (rest : List Char) :
    cutScript isQuoted (c :: rest) =
      match cutScript (if c = '"' then !isQuoted else isQuoted) rest with
      | (piece :: pieces, left) => ((c :: piece) :: pieces, left)
      | ([], left) => ([], c :: left) := by
  rewrite [cutScript]
  · rfl
  · intro _ hquoted hsemicolon _
    rcases hc with hc | hc
    · rw [hquoted] at hc
      cases hc
    · exact hc hsemicolon

/-- A text that ends outside quoted identifiers and holds no semicolon outside them is cut off
as one piece. -/
theorem cutScript_append_end {isQuoted : Bool} {piece : List Char}
    (hclosed : endsQuoted isQuoted piece = false) (hsemicolon : ';' ∉ outside isQuoted piece)
    (rest : List Char) :
    cutScript isQuoted (piece ++ ';' :: '\n' :: rest) =
      (piece :: (cutScript false rest).1, (cutScript false rest).2) := by
  induction piece generalizing isQuoted with
  | nil =>
    obtain rfl : isQuoted = false := hclosed
    rfl
  | cons c piece ih =>
    -- A semicolon where a cut could begin would lie outside quoted identifiers.
    have hc : isQuoted = true ∨ c ≠ ';' := by
      by_contra hcut
      rw [not_or, Bool.not_eq_true, not_not] at hcut
      obtain ⟨rfl, rfl⟩ := hcut
      exact hsemicolon List.mem_cons_self
    have hrest : ';' ∉ outside (if c = '"' then !isQuoted else isQuoted) piece := by
      intro hmem
      apply hsemicolon
      rw [outside]
      split_ifs at hmem ⊢ with hquote hquoted
      · exact hmem
      · exact hmem
      · exact List.mem_cons_of_mem c hmem
    rw [List.cons_append, cutScript_cons hc, ih hclosed hrest]

theorem cutScript_terminated {pieces : List (List Char)}
    (hpieces : ∀ piece ∈ pieces, endsQuoted false piece = false ∧ ';' ∉ outside false piece) :
    cutScript false (terminated pieces) = (pieces, []) := by
  induction pieces with
  | nil => rfl
  | cons piece pieces ih =>
    obtain ⟨hclosed, hsemicolon⟩ := hpieces piece List.mem_cons_self
    have hrest := ih fun other hother => hpieces other (List.mem_cons_of_mem piece hother)
    rw [terminated_cons, cutScript_append_end hclosed hsemicolon, hrest]

/-- The pieces and what is left over make up the whole text. -/
theorem terminated_cutScript (isQuoted : Bool) (text : List Char) :
    terminated (cutScript isQuoted text).1 ++ (cutScript isQuoted text).2 = text := by
  fun_induction cutScript isQuoted text with
  | case1 => rfl
  | case2 rest pieces left hcut ih =>
    rw [hcut] at ih
    rw [terminated_cons, List.nil_append, List.cons_append, List.cons_append, ih]
  | case3 isQuoted c rest _ piece pieces left hcut ih =>
    rw [hcut, terminated_cons, List.append_assoc] at ih
    rw [terminated_cons, List.cons_append, List.cons_append, List.append_assoc, ih]
  | case4 isQuoted c rest _ left hcut ih =>
    rw [hcut] at ih
    exact congrArg (c :: ·) ih

/-! ## Reading back -/

/-- The texts of statements, in order. -/
def texts (statements : List Statement) : List (List Char) :=
  statements.map fun statement => statement.render.toList

theorem cutScript_terminated_texts (statements : List Statement) :
    cutScript false (terminated (texts statements)) = (texts statements, []) := by
  apply cutScript_terminated
  intro piece hpiece
  obtain ⟨statement, -, rfl⟩ := List.mem_map.mp hpiece
  exact ⟨isClosed_render statement, semicolon_notMem_outside_render statement⟩

/-- A name that spells an end of its statement and another statement is cut nowhere. -/
example :
    cutScript false "DROP SCHEMA \"a\"\";\nDROP SCHEMA \"\"b\";\n".toList =
      (texts [.drop "a\";\nDROP SCHEMA \"b" .restrict], []) := by
  decide

theorem mapM_read?_eq_some_iff {pieces : List (List Char)} {statements : List Statement} :
    pieces.mapM read? = some statements ↔ pieces = texts statements := by
  induction pieces generalizing statements with
  | nil =>
    cases statements with
    | nil => exact iff_of_true rfl rfl
    | cons statement rest => exact iff_of_false nofun nofun
  | cons piece pieces ih =>
    simp only [List.mapM_cons, Option.bind_eq_bind, Option.bind_eq_some_iff, read?_eq_some_iff,
      ih, Option.pure_def, Option.some.injEq]
    constructor
    · rintro ⟨statement, rfl, rest, rfl, rfl⟩
      rfl
    · intro htexts
      cases statements with
      | nil => cases htexts
      | cons statement rest =>
        obtain ⟨hpiece, hpieces⟩ := List.cons.inj htexts
        exact ⟨statement, hpiece, rest, hpieces, rfl⟩

/-- The reader accepts the scripts of statements and no other texts. -/
theorem readScript?_eq_some_iff {script : String} {statements : List Statement} :
    readScript? script = some statements ↔ script.toList = terminated (texts statements) := by
  have hparts := terminated_cutScript false script.toList
  constructor
  · intro hread
    unfold readScript? at hread
    split at hread
    · next pieces hcut =>
      rw [hcut, mapM_read?_eq_some_iff.mp hread, List.append_nil] at hparts
      exact hparts.symm
    · cases hread
  · intro hscript
    rw [readScript?, hscript, cutScript_terminated_texts]
    exact mapM_read?_eq_some_iff.mpr rfl

end Statement

namespace Change

theorem toStatement_injective : Function.Injective toStatement := by
  intro left right hstatement
  cases left <;> cases right <;> simp_all [toStatement]

theorem toList_script (changes : List Change) :
    (script changes).toList = Statement.terminated (Statement.texts (changes.map toStatement)) := by
  induction changes with
  | nil => rfl
  | cons change rest ih =>
    rw [script, String.toList_append, String.toList_append, ih, List.append_assoc]
    exact (Statement.terminated_cons _ _).symm

/-- A script is cut into the texts of its statements, with nothing left over, and each of them
reads back as the statement; so different lists of changes have different scripts.  What can
be read at all is the script of what was read, and scripts are joined as lists are. -/
theorem script_unambiguous :
    (∀ changes : List Change, Statement.cutScript false (script changes).toList =
      (changes.map fun change => change.toStatement.render.toList, [])) ∧
    (∀ changes : List Change,
      Statement.readScript? (script changes) = some (changes.map toStatement)) ∧
    (∀ text statements, Statement.readScript? text = some statements ↔
      text.toList = statements.flatMap fun statement => statement.render.toList ++ [';', '\n']) ∧
    Function.Injective script ∧
    ∀ left right : List Change, script (left ++ right) = script left ++ script right := by
  have hread (changes : List Change) :
      Statement.readScript? (script changes) = some (changes.map toStatement) :=
    Statement.readScript?_eq_some_iff.mpr (toList_script changes)
  refine ⟨fun changes => ?_, hread, fun text statements => ?_, fun left right hscript => ?_,
    fun left right => ?_⟩
  · rw [toList_script, Statement.cutScript_terminated_texts, Statement.texts, List.map_map]
    rfl
  · rw [Statement.readScript?_eq_some_iff, Statement.terminated, Statement.texts,
      List.flatMap_map]
  · have hstatements : left.map toStatement = right.map toStatement := by
      apply Option.some.inj
      rw [← hread, ← hread, hscript]
    exact toStatement_injective.list_map hstatements
  · apply String.toList_inj.mp
    rw [String.toList_append, toList_script, toList_script, toList_script, List.map_append,
      Statement.texts, List.map_append, Statement.terminated, List.flatMap_append]
    rfl

end Change

end Schemata
