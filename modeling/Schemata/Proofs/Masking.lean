import Mathlib.Data.List.Infix
import Schemata.Masking

/-!
# What masking hides

A URL is masked exactly if it can be taken apart at the first mark of a scheme, the first colon
after it and the last at sign (`maskChars_eq_some_iff`).  So a text that stands somewhere in a
URL is hidden if those marks stand around it, whatever the text is (`mask_of_hides`), and
otherwise a text without marks of its own is shown as it is (`mask_of_not_hides`).
-/

namespace Schemata.Masking

/-! ## Cuts -/

theorem cutAt_append {mark before after : List Char} (hmark : mark <+: after)
    (hfirst : ∀ front back, before = front ++ back → back ≠ [] → ¬mark <+: back ++ after) :
    cutAt mark (before ++ after) = some (before, after) := by
  induction before with
  | nil =>
    cases after with
    | nil => simp [cutAt, List.prefix_nil.mp hmark]
    | cons c rest => simp [cutAt, hmark]
  | cons c before ih =>
    have hhere : ¬mark <+: c :: (before ++ after) :=
      hfirst [] (c :: before) rfl (List.cons_ne_nil _ _)
    have hlater : cutAt mark (before ++ after) = some (before, after) := by
      apply ih
      intro front back hbefore
      exact hfirst (c :: front) back (congrArg (c :: ·) hbefore)
    simp [cutAt, hhere, hlater]

theorem of_cutAt_eq_some {mark text before after : List Char} (hne : mark ≠ [])
    (h : cutAt mark text = some (before, after)) :
    text = before ++ after ∧ mark <+: after ∧ ¬mark <:+: before := by
  induction text generalizing before with
  | nil =>
    rw [cutAt, if_neg hne] at h
    cases h
  | cons c rest ih =>
    rw [cutAt] at h
    split at h
    · rename_i hhere
      cases h
      exact ⟨rfl, List.isPrefixOf_iff_prefix.mp hhere, fun hinfix => hne (List.infix_nil.mp hinfix)⟩
    · rename_i hhere
      obtain ⟨⟨front, back⟩, hcut, hpair⟩ := Option.map_eq_some_iff.mp h
      cases hpair
      obtain ⟨rfl, hmark, hfirst⟩ := ih hcut
      refine ⟨rfl, hmark, ?_⟩
      intro hinfix
      rcases List.infix_cons_iff.mp hinfix with hprefix | hinfix
      · apply hhere
        rw [List.isPrefixOf_iff_prefix]
        exact hprefix.trans (List.prefix_append (c :: front) after)
      · exact hfirst hinfix

theorem cutAtLast_eq_none_iff {c : Char} {text : List Char} :
    cutAtLast c text = none ↔ c ∉ text := by
  induction text with
  | nil => simp [cutAtLast]
  | cons first rest ih =>
    rw [List.mem_cons, not_or, ← ih, cutAtLast]
    cases cutAtLast c rest with
    | some found => simp
    | none => simp [eq_comm]

theorem cutAtLast_append {c : Char} {after : List Char} (before : List Char) (h : c ∉ after) :
    cutAtLast c (before ++ c :: after) = some (before, c :: after) := by
  induction before with
  | nil => simp [cutAtLast, cutAtLast_eq_none_iff.mpr h]
  | cons first before ih => simp [cutAtLast, ih]

theorem of_cutAtLast_eq_some {c : Char} {text before rest : List Char}
    (h : cutAtLast c text = some (before, rest)) :
    ∃ after, rest = c :: after ∧ text = before ++ c :: after ∧ c ∉ after := by
  induction text generalizing before with
  | nil => cases h
  | cons first text ih =>
    rw [cutAtLast] at h
    split at h
    · rename_i front back hcut
      cases h
      obtain ⟨after, rfl, rfl, hlast⟩ := ih hcut
      exact ⟨after, rfl, rfl, hlast⟩
    · rename_i hcut
      split at h
      · rename_i hfirst
        cases h
        exact ⟨text, by rw [hfirst], by rw [hfirst, List.nil_append],
          cutAtLast_eq_none_iff.mp hcut⟩
      · cases h

/-! ## URLs taken apart -/

/-- What ends the scheme of a URL. -/
def schemeMark : List Char := [':', '/', '/']

/-- A URL taken apart at the first mark of a scheme, the first colon after it, and the last at
sign. -/
structure Parts where
  scheme : List Char
  user : List Char
  password : List Char
  tail : List Char
  isFirstMark : ¬schemeMark <:+: scheme
  isFirstColon : ':' ∉ user
  isLastAt : '@' ∉ tail

def Parts.text (parts : Parts) : List Char :=
  parts.scheme ++ schemeMark ++ parts.user ++ ':' :: parts.password ++ '@' :: parts.tail

/-- The text with asterisks for the password. -/
def Parts.masked (parts : Parts) : List Char :=
  parts.scheme ++ schemeMark ++ parts.user ++ ":***".toList ++ '@' :: parts.tail

/-- No mark of a scheme starts in front of another one and overlaps it. -/
theorem cutAt_schemeMark {scheme : List Char} (rest : List Char) (h : ¬schemeMark <:+: scheme) :
    cutAt schemeMark (scheme ++ (schemeMark ++ rest)) = some (scheme, schemeMark ++ rest) := by
  apply cutAt_append (List.prefix_append schemeMark rest)
  intro front back hscheme hne hprefix
  rcases back with _ | ⟨first, _ | ⟨second, _ | ⟨third, back⟩⟩⟩
  · exact hne rfl
  · simp [schemeMark] at hprefix
  · simp [schemeMark] at hprefix
  · apply h
    have hmark : schemeMark <+: first :: second :: third :: back := by
      simpa [schemeMark] using hprefix
    rw [hscheme]
    exact hmark.isInfix.trans (List.suffix_append front _).isInfix

theorem cutAt_colon {user : List Char} (rest : List Char) (h : ':' ∉ user) :
    cutAt [':'] (user ++ ':' :: rest) = some (user, ':' :: rest) := by
  apply cutAt_append (List.prefix_append [':'] rest)
  intro front back huser hne hprefix
  cases back with
  | nil => exact hne rfl
  | cons c back =>
    have hc : ':' = c := by simpa using hprefix
    apply h
    rw [huser, ← hc]
    exact List.mem_append_right front List.mem_cons_self

/-- A text has a mask exactly if it can be taken apart, and which parts do not matter, since there
is at most one way. -/
theorem maskChars_eq_some_iff {url masked : List Char} :
    maskChars url = some masked ↔ ∃ parts : Parts, url = parts.text ∧ masked = parts.masked := by
  constructor
  · intro h
    simp only [maskChars, Option.bind_eq_bind, Option.bind_eq_some_iff, Option.pure_def,
      Option.some.injEq] at h
    obtain ⟨⟨scheme, rest⟩, hscheme, ⟨userInfo, tail⟩, htail, ⟨user, behind⟩, huser, rfl⟩ := h
    obtain ⟨rfl, ⟨rest, rfl⟩, hfirstMark⟩ := of_cutAt_eq_some (by decide) hscheme
    obtain ⟨tail, rfl, hrest, hlastAt⟩ := of_cutAtLast_eq_some htail
    obtain ⟨rfl, ⟨password, rfl⟩, hfirstColon⟩ := of_cutAt_eq_some (by decide) huser
    have hcolon : ':' ∉ user := by
      intro hmem
      obtain ⟨front, back, rfl⟩ := List.append_of_mem hmem
      exact hfirstColon ⟨front, back, by simp⟩
    refine ⟨⟨scheme, user, password, tail, hfirstMark, hcolon, hlastAt⟩, ?_, rfl⟩
    have hrest : rest = user ++ ':' :: password ++ '@' :: tail := by simpa using hrest
    simp [Parts.text, schemeMark, hrest]
  · rintro ⟨⟨scheme, user, password, tail, hfirstMark, hfirstColon, hlastAt⟩, rfl, rfl⟩
    have hscheme := cutAt_schemeMark (user ++ ':' :: password ++ '@' :: tail) hfirstMark
    have htail := cutAtLast_append (user ++ ':' :: password) hlastAt
    have huser := cutAt_colon password hfirstColon
    have htext : Parts.text ⟨scheme, user, password, tail, hfirstMark, hfirstColon, hlastAt⟩ =
        scheme ++ (schemeMark ++ (user ++ ':' :: password ++ '@' :: tail)) := by
      simp [Parts.text]
    change (cutAt schemeMark _).bind _ = _
    rw [htext, hscheme]
    change (cutAtLast '@' (user ++ ':' :: password ++ '@' :: tail)).bind _ = _
    rw [htail]
    change (cutAt [':'] (user ++ ':' :: password)).bind _ = _
    rw [huser]
    rfl

theorem mask_parts (parts : Parts) :
    mask (String.ofList parts.text) = String.ofList parts.masked := by
  rw [mask, String.toList_ofList, maskChars_eq_some_iff.mpr ⟨parts, rfl, rfl⟩]

theorem mask_of_forall_ne {url : List Char} (h : ∀ parts : Parts, url ≠ parts.text) :
    mask (String.ofList url) = String.ofList url := by
  rw [mask, String.toList_ofList]
  cases hmasked : maskChars url with
  | none => rfl
  | some masked =>
    obtain ⟨parts, heq, -⟩ := maskChars_eq_some_iff.mp hmasked
    exact absurd heq (h parts)

/-! ## Texts within a URL -/

/-- What stands between the two texts in a URL is hidden: a colon stands between the mark of the
scheme and it, and an at sign after it. -/
def Hides (before after : List Char) : Prop :=
  (∃ scheme user rest, before = scheme ++ schemeMark ++ user ++ ':' :: rest) ∧ '@' ∈ after

/-- A text with none of the characters that masking looks for. -/
structure IsMarkFree (text : List Char) : Prop where
  nonempty : text ≠ []
  noColon : ':' ∉ text
  noSlash : '/' ∉ text
  noAt : '@' ∉ text

/-- Where there is a mark, there is a first one. -/
theorem exists_first_schemeMark (scheme rest : List Char) :
    ∃ first between, scheme ++ schemeMark ++ rest = first ++ schemeMark ++ (between ++ rest) ∧
      ¬schemeMark <:+: first := by
  induction hlength : scheme.length using Nat.strongRecOn generalizing scheme rest with
  | ind n ih =>
    by_cases hmark : schemeMark <:+: scheme
    · obtain ⟨front, back, rfl⟩ := hmark
      have hshorter : front.length < n := by simp [← hlength, schemeMark]
      obtain ⟨first, between, heq, hfirst⟩ :=
        ih front.length hshorter front (back ++ schemeMark ++ rest) rfl
      exact ⟨first, between ++ (back ++ schemeMark), by simpa using heq, hfirst⟩
    · exact ⟨scheme, [], by simp, hmark⟩

theorem exists_last {c : Char} {text : List Char} (h : c ∈ text) :
    ∃ front back, text = front ++ c :: back ∧ c ∉ back := by
  cases hcut : cutAtLast c text with
  | none => exact absurd h (cutAtLast_eq_none_iff.mp hcut)
  | some found =>
    obtain ⟨back, -, heq, hlast⟩ := of_cutAtLast_eq_some hcut
    exact ⟨found.1, back, heq, hlast⟩

/-- A text around which the marks stand is hidden: the mask is the same whatever it is. -/
theorem mask_of_hides {before after : List Char} (h : Hides before after) :
    ∃ masked, ∀ text, mask (String.ofList (before ++ text ++ after)) = masked := by
  obtain ⟨⟨scheme, user, rest, rfl⟩, hat⟩ := h
  obtain ⟨front, tail, rfl, hlastAt⟩ := exists_last hat
  obtain ⟨first, between, hscheme, hfirstMark⟩ :=
    exists_first_schemeMark scheme (user ++ ':' :: rest)
  obtain ⟨name, password, huser, hfirstColon⟩ :=
    List.eq_append_cons_of_mem (show ':' ∈ between ++ (user ++ ':' :: rest) by simp)
  let parts (text : List Char) : Parts :=
    { scheme := first
      user := name
      password := password ++ text ++ front
      tail
      isFirstMark := hfirstMark
      isFirstColon := hfirstColon
      isLastAt := hlastAt }
  refine ⟨String.ofList (parts []).masked, ?_⟩
  intro text
  have htext : scheme ++ schemeMark ++ user ++ ':' :: rest ++ text ++ (front ++ '@' :: tail) =
      (parts text).text := by
    have hbefore : scheme ++ schemeMark ++ user ++ ':' :: rest =
        first ++ schemeMark ++ (name ++ ':' :: password) := by
      rw [← huser, ← hscheme]
      simp
    rw [hbefore]
    simp [parts, Parts.text]
  rw [htext, mask_parts]
  rfl

/-- A character that is not in the middle of three texts is in the first or in the last. -/
theorem append_eq_append_cons {before text after left right : List Char} {c : Char}
    (hc : c ∉ text) (h : before ++ text ++ after = left ++ c :: right) :
    (∃ back, left = before ++ text ++ back ∧ after = back ++ c :: right) ∨
      ∃ front, before = left ++ c :: front ∧ right = front ++ text ++ after := by
  rcases List.append_eq_append_iff.mp h with ⟨back, hleft, hafter⟩ | ⟨middle, hfront, hright⟩
  · exact .inl ⟨back, hleft, hafter⟩
  · cases middle with
    | nil =>
      rw [List.append_nil] at hfront
      exact .inl ⟨[], by rw [hfront, List.append_nil], hright.symm⟩
    | cons first middle =>
      obtain ⟨rfl, rfl⟩ := List.cons.inj hright
      rcases List.append_eq_append_iff.mp hfront with
        ⟨beyond, -, htext⟩ | ⟨front, hbefore, hrest⟩
      · exact absurd (htext ▸ List.mem_append_right beyond List.mem_cons_self) hc
      · cases front with
        | nil =>
          have htext : c :: middle = text := hrest
          exact absurd (htext ▸ List.mem_cons_self) hc
        | cons c front =>
          obtain ⟨rfl, rfl⟩ := List.cons.inj hrest
          exact .inr ⟨front, hbefore, rfl⟩

section

variable {before text after : List Char}

theorem append_eq_slashes {rest : List Char} (htext : IsMarkFree text)
    (h : before ++ text ++ after = '/' :: '/' :: rest) :
    ∃ front, before = '/' :: '/' :: front ∧ rest = front ++ text ++ after := by
  have hfirst : before ++ text ++ after = [] ++ '/' :: ('/' :: rest) := h
  rcases append_eq_append_cons htext.noSlash hfirst with ⟨back, hnil, -⟩ | ⟨front, rfl, hrest⟩
  · simp [htext.nonempty] at hnil
  · have hsecond : front ++ text ++ after = [] ++ '/' :: rest := hrest.symm
    rcases append_eq_append_cons htext.noSlash hsecond with ⟨back, hnil, -⟩ | ⟨front, rfl, hrest⟩
    · simp [htext.nonempty] at hnil
    · exact ⟨front, rfl, (List.cons.inj hrest).2⟩

/-- A mark of a scheme does not reach into a text without marks. -/
theorem append_eq_append_schemeMark {left right : List Char} (htext : IsMarkFree text)
    (h : before ++ text ++ after = left ++ schemeMark ++ right) :
    (∃ back, left = before ++ text ++ back ∧ after = back ++ schemeMark ++ right) ∨
      ∃ front, before = left ++ schemeMark ++ front ∧ right = front ++ text ++ after := by
  have hcolon : before ++ text ++ after = left ++ ':' :: ('/' :: '/' :: right) := by
    rw [h]
    simp [schemeMark]
  rcases append_eq_append_cons htext.noColon hcolon with
    ⟨back, hleft, hafter⟩ | ⟨rest, hbefore, hright⟩
  · exact .inl ⟨back, hleft, by simpa [schemeMark] using hafter⟩
  · obtain ⟨front, rfl, hrest⟩ := append_eq_slashes htext hright.symm
    exact .inr ⟨front, by simpa [schemeMark] using hbefore, hrest⟩

/-- So no text without marks makes a mark of a scheme where another one does not. -/
theorem not_schemeMark_infix {other : List Char} (hother : IsMarkFree other)
    (h : ¬schemeMark <:+: before ++ text ++ after) :
    ¬schemeMark <:+: before ++ other ++ after := by
  rintro ⟨left, right, heq⟩
  apply h
  rcases append_eq_append_schemeMark hother heq.symm with ⟨back, -, rfl⟩ | ⟨front, rfl, -⟩
  · exact ⟨before ++ text ++ back, right, by simp⟩
  · exact ⟨left, front ++ text ++ after, by simp⟩

theorem notMem_replaced {other : List Char} {c : Char} (hother : c ∉ other)
    (h : c ∉ before ++ text ++ after) : c ∉ before ++ other ++ after := by
  simp only [List.mem_append, not_or] at h ⊢
  exact ⟨⟨h.1.1, hother⟩, h.2⟩

/-- In a URL that is masked, a text without marks is either where the password is or it is shown,
and so is every other text without marks in its place. -/
theorem exists_parts_of_not_hides (hshown : ¬Hides before after) (htext : IsMarkFree text)
    {parts : Parts} (h : before ++ text ++ after = parts.text) :
    ∃ front back, ∀ other, IsMarkFree other →
      ∃ parts : Parts, before ++ other ++ after = parts.text ∧
        parts.masked = front ++ other ++ back := by
  obtain ⟨scheme, user, password, tail, hfirstMark, hfirstColon, hlastAt⟩ := parts
  rcases append_eq_append_cons htext.noAt h with ⟨back, hleft, rfl⟩ | ⟨front, rfl, rfl⟩
  · rcases append_eq_append_cons htext.noColon hleft.symm with
      ⟨back, hfront, rfl⟩ | ⟨front, hbefore, -⟩
    · rcases append_eq_append_schemeMark htext hfront.symm with
        ⟨back, rfl, rfl⟩ | ⟨front, rfl, rfl⟩
      · -- in the scheme
        refine ⟨before, back ++ schemeMark ++ user ++ ":***".toList ++ '@' :: tail, ?_⟩
        intro other hother
        have hfirst := not_schemeMark_infix hother hfirstMark
        exact ⟨⟨_, user, password, tail, hfirst, hfirstColon, hlastAt⟩, by simp [Parts.text],
          by simp [Parts.masked]⟩
      · -- in the user
        refine ⟨scheme ++ schemeMark ++ front, back ++ ":***".toList ++ '@' :: tail, ?_⟩
        intro other hother
        have hcolon := notMem_replaced hother.noColon hfirstColon
        exact ⟨⟨scheme, _, password, tail, hfirstMark, hcolon, hlastAt⟩, by simp [Parts.text],
          by simp [Parts.masked]⟩
    · exact absurd ⟨⟨scheme, user, front, hbefore⟩, by simp⟩ hshown
  · -- in the tail
    refine ⟨scheme ++ schemeMark ++ user ++ ":***".toList ++ '@' :: front, after, ?_⟩
    intro other hother
    have hat := notMem_replaced hother.noAt hlastAt
    exact ⟨⟨scheme, user, password, _, hfirstMark, hfirstColon, hat⟩, by simp [Parts.text],
      by simp [Parts.masked]⟩

/-- A text without marks around which the marks do not stand is shown as it is. -/
theorem mask_of_not_hides (hshown : ¬Hides before after) :
    ∃ front back, ∀ text, IsMarkFree text →
      mask (String.ofList (before ++ text ++ after)) = String.ofList (front ++ text ++ back) := by
  by_cases hmasked : ∃ text parts, IsMarkFree text ∧ before ++ text ++ after = Parts.text parts
  · obtain ⟨text, parts, htext, heq⟩ := hmasked
    obtain ⟨front, back, hparts⟩ := exists_parts_of_not_hides hshown htext heq
    refine ⟨front, back, ?_⟩
    intro other hother
    obtain ⟨parts, hother, hmask⟩ := hparts other hother
    rw [hother, mask_parts, hmask]
  · refine ⟨before, after, ?_⟩
    intro text htext
    exact mask_of_forall_ne fun parts heq => hmasked ⟨text, parts, htext, heq⟩

end

end Schemata.Masking
