import Mathlib.Data.Set.Function
import Schemata.Ident

/-!
# Quoted identifiers delimit themselves

A scan reads a quoted identifier off the front of a text exactly when the text begins
with the identifier and no further quote follows it (`scan_eq_some_iff`).  So the name
and the end of the identifier can be recovered whatever the name holds, and what lies
outside quoted identifiers does not depend on any name (`outside_quoteChars_append`).
A text that is taken for one quoted identifier as a whole is the quoted form of the name
that it is taken for (`unquote?_eq_some_iff`), so names and quoted identifiers correspond
one to one (`quoting_is_exact`).
-/

namespace Schemata.Ident

@[simp]
theorem toList_quote (name : String) : (quote name).toList = quoteChars name.toList :=
  String.toList_ofList

theorem escape_quote (rest : List Char) : escape ('"' :: rest) = '"' :: '"' :: escape rest := by
  simp only [escape, if_true]

theorem escape_of_ne {c : Char} (hc : c ≠ '"') (rest : List Char) :
    escape (c :: rest) = c :: escape rest := by
  simp only [escape, if_neg hc]

theorem scanBody_of_ne {c : Char} (hc : c ≠ '"') (rest : List Char) :
    scanBody (c :: rest) = (scanBody rest).map fun (name, tail) => (c :: name, tail) := by
  rw [scanBody]
  · exact fun _ hquote _ => hc hquote
  · exact hc

/-! ## Scanning -/

theorem scanBody_close {rest : List Char} (hrest : rest.head? ≠ some '"') :
    scanBody ('"' :: rest) = some ([], rest) := by
  cases rest with
  | nil => rfl
  | cons c tail =>
    rw [scanBody]
    intro tail' htail
    apply hrest
    rw [htail, List.head?_cons]

/-- The first quote that is not doubled is the one that closes. -/
theorem scanBody_escape_append (name : List Char) {rest : List Char}
    (hrest : rest.head? ≠ some '"') :
    scanBody (escape name ++ '"' :: rest) = some (name, rest) := by
  induction name with
  | nil => exact scanBody_close hrest
  | cons c name ih =>
    by_cases hc : c = '"'
    · subst hc
      rw [escape_quote, List.cons_append, List.cons_append, scanBody, ih]
      rfl
    · rw [escape_of_ne hc, List.cons_append, scanBody_of_ne hc, ih]
      rfl

theorem eq_of_scanBody_eq_some {text name rest : List Char}
    (hscan : scanBody text = some (name, rest)) :
    text = escape name ++ '"' :: rest ∧ rest.head? ≠ some '"' := by
  fun_induction scanBody text generalizing name with
  | case1 => cases hscan
  | case2 text ih =>
    obtain ⟨⟨name', rest'⟩, htext, heq⟩ := Option.map_eq_some_iff.mp hscan
    cases heq
    obtain ⟨rfl, hrest⟩ := ih htext
    rw [escape_quote]
    exact ⟨rfl, hrest⟩
  | case3 text hsingle =>
    cases hscan
    refine ⟨rfl, fun hhead => ?_⟩
    obtain ⟨tail, rfl⟩ := List.head?_eq_some_iff.mp hhead
    exact hsingle tail rfl
  | case4 c text hpair hc ih =>
    obtain ⟨⟨name', rest'⟩, htext, heq⟩ := Option.map_eq_some_iff.mp hscan
    cases heq
    obtain ⟨rfl, hrest⟩ := ih htext
    rw [escape_of_ne hc]
    exact ⟨rfl, hrest⟩

/-- A scan undoes quoting, and reads nothing but what quoting writes. -/
theorem scan_eq_some_iff {text name rest : List Char} :
    scan text = some (name, rest) ↔
      text = quoteChars name ++ rest ∧ rest.head? ≠ some '"' := by
  have hquoted : quoteChars name ++ rest = '"' :: (escape name ++ '"' :: rest) := by
    simp only [quoteChars, List.cons_append, List.append_assoc, List.nil_append]
  rw [hquoted]
  constructor
  · intro hscan
    unfold scan at hscan
    split at hscan
    · obtain ⟨rfl, hrest⟩ := eq_of_scanBody_eq_some hscan
      exact ⟨rfl, hrest⟩
    · cases hscan
  · rintro ⟨rfl, hrest⟩
    exact scanBody_escape_append name hrest

/-! ## Undoing -/

theorem unescape?_of_ne {c : Char} (hc : c ≠ '"') (rest : List Char) :
    unescape? (c :: rest) = (unescape? rest).map (c :: ·) := by
  rw [unescape?, if_neg hc]
  exact fun _ hquote _ => hc hquote

theorem unescape?_escape (name : List Char) : unescape? (escape name) = some name := by
  induction name with
  | nil => rfl
  | cons c name ih =>
    by_cases hc : c = '"'
    · subst hc
      rw [escape_quote, unescape?, ih, Option.map_some]
    · rw [escape_of_ne hc, unescape?_of_ne hc, ih, Option.map_some]

theorem eq_escape_of_unescape?_eq_some {inside name : List Char}
    (hinside : unescape? inside = some name) : inside = escape name := by
  -- What is read at each step: a doubled quote, a quote that stands alone, another character.
  fun_induction unescape? inside generalizing name with
  | case1 =>
    cases hinside
    rfl
  | case2 inside ih =>
    obtain ⟨name', hname, rfl⟩ := Option.map_eq_some_iff.mp hinside
    rw [escape_quote, ih hname]
  | case3 => cases hinside
  | case4 c inside _ hc ih =>
    obtain ⟨name', hname, rfl⟩ := Option.map_eq_some_iff.mp hinside
    rw [escape_of_ne hc, ih hname]

/-- What is accepted as one quoted identifier is the quoted form of the name that is
answered, and every quoted form is accepted. -/
theorem unquote?_eq_some_iff {text name : String} :
    unquote? text = some name ↔ quote name = text := by
  constructor
  · intro hunquote
    unfold unquote? at hunquote
    split at hunquote
    · next rest htext =>
      split at hunquote
      · next hclose =>
        obtain ⟨inside, rfl⟩ := List.getLast?_eq_some_iff.mp hclose
        rw [List.dropLast_concat] at hunquote
        obtain ⟨chars, hinside, rfl⟩ := Option.map_eq_some_iff.mp hunquote
        apply String.toList_inj.mp
        rw [htext, toList_quote, String.toList_ofList, quoteChars,
          eq_escape_of_unescape?_eq_some hinside]
      · cases hunquote
    · cases hunquote
  · rintro rfl
    simp only [unquote?, toList_quote, quoteChars, List.getLast?_concat, if_true,
      List.dropLast_concat, unescape?_escape, Option.map_some, String.ofList_toList]

/-- The quote between the outer ones stands alone. -/
example : unquote? "\"a\"b\"" = none := by
  decide

theorem quote_injective : Function.Injective quote := by
  intro left right hquote
  have hleft : unquote? (quote right) = some left := unquote?_eq_some_iff.mpr hquote
  have hright : unquote? (quote right) = some right := unquote?_eq_some_iff.mpr rfl
  exact Option.some.inj (hleft.symm.trans hright)

/-- A scan ends where the quoted form of a name ends, if no further quote follows, and
yields the name; whatever the scan yields, the text begins with its quoted form.  Reading a
text as one quoted identifier succeeds on the quoted forms of names and on nothing else, and
yields the only name that has this form. -/
theorem quoting_is_exact :
    (∀ text name rest : String, scan text.toList = some (name.toList, rest.toList) ↔
      text = quote name ++ rest ∧ rest.toList.head? ≠ some '"') ∧
    (∀ text name : String, unquote? text = some name ↔ quote name = text) ∧
    Set.BijOn quote Set.univ {text | (unquote? text).isSome} := by
  refine ⟨fun text name rest => ?_, fun text name => unquote?_eq_some_iff, ?_, ?_, ?_⟩
  · rw [scan_eq_some_iff, ← toList_quote, ← String.toList_append, String.toList_inj]
  · intro name _
    exact Option.isSome_iff_exists.mpr ⟨name, unquote?_eq_some_iff.mpr rfl⟩
  · exact quote_injective.injOn
  · intro text haccepted
    obtain ⟨name, hname⟩ := Option.isSome_iff_exists.mp haccepted
    exact ⟨name, Set.mem_univ name, unquote?_eq_some_iff.mp hname⟩

/-! ## Outside -/

/-- What of a text lies outside quoted identifiers; `isQuoted` tells whether the text
starts inside one.  A doubled quote leaves an identifier and enters it again. -/
def outside : Bool → List Char → List Char
  | _, [] => []
  | isQuoted, c :: rest =>
    if c = '"' then outside (!isQuoted) rest
    else if isQuoted then outside isQuoted rest
    else c :: outside isQuoted rest

theorem outside_escape_append (name rest : List Char) :
    outside true (escape name ++ rest) = outside true rest := by
  induction name with
  | nil => rfl
  | cons c name ih =>
    by_cases hc : c = '"'
    · subst hc
      rw [escape_quote]
      exact ih
    · rw [escape_of_ne hc, List.cons_append, outside, if_neg hc, if_pos rfl, ih]

@[simp]
theorem outside_quoteChars_append (name rest : List Char) :
    outside false (quoteChars name ++ rest) = outside false rest := by
  rw [quoteChars, List.cons_append, List.append_assoc]
  exact outside_escape_append name ('"' :: rest)

@[simp]
theorem outside_quoteChars (name : List Char) : outside false (quoteChars name) = [] := by
  simpa only [List.append_nil, outside] using outside_quoteChars_append name []

theorem outside_append_of_notMem {words : List Char} (hwords : '"' ∉ words) (rest : List Char) :
    outside false (words ++ rest) = words ++ outside false rest := by
  induction words with
  | nil => rfl
  | cons c words ih =>
    rw [List.mem_cons, not_or] at hwords
    rw [List.cons_append, outside, if_neg (Ne.symm hwords.1), ih hwords.2]
    rfl

end Schemata.Ident
