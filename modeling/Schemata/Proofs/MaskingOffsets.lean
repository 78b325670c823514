import Mathlib.Data.String.Basic
import Schemata.Proofs.Masking

/-!
# Masking by byte offsets

The offsets at which a URL is sliced are found by three searches, one of them within a slice.
Each of them is the size of a text that stands in front of what was found, so every slice can be
cut, whatever characters the URL is made of, and the slices give the mask
(`maskSlices?_eq_some_mask`).  What is masked stays as it is when it is masked again
(`masking_is_exact`).
-/

namespace Schemata.Masking

/-! ## Sizes -/

@[simp]
theorem byteSize_append (left right : List Char) :
    byteSize (left ++ right) = byteSize left + byteSize right := by
  simp only [byteSize, String.ofList_append, String.utf8ByteSize_append]

theorem byteSize_schemeMark : byteSize schemeMark = 3 := rfl

/-! ## Slices -/

/-- The end of a text that another one starts with is in front of a whole character. -/
theorem isValid_byteSize (before after : List Char) :
    String.Pos.Raw.IsValid (String.ofList (before ++ after)) ⟨byteSize before⟩ := by
  rw [String.Pos.Raw.isValid_iff_exists_append]
  exact ⟨String.ofList before, String.ofList after, String.ofList_append, rfl⟩

/-- A part of a text is cut out between its size and that of what is before it. -/
theorem slice?_append (before inside after : List Char) :
    slice? (String.ofList (before ++ inside ++ after)) (byteSize before)
        (byteSize before + byteSize inside) = some (String.ofList inside) := by
  have hfirst := isValid_byteSize before (inside ++ after)
  rw [← List.append_assoc] at hfirst
  have hlast := isValid_byteSize (before ++ inside) after
  rw [byteSize_append] at hlast
  have hextract := String.extract_of_valid before inside after
  simp only [← String.utf8ByteSize_ofList] at hextract
  rw [slice?, if_pos ⟨hfirst, hlast, Nat.le_add_right _ _⟩]
  exact congrArg some hextract

theorem slice?_prefix (before after : List Char) :
    slice? (String.ofList (before ++ after)) 0 (byteSize before) = some (String.ofList before) := by
  have h := slice?_append [] before after
  rwa [show byteSize [] = 0 from rfl, Nat.zero_add, List.nil_append] at h

theorem slice?_suffix (before after : List Char) :
    slice? (String.ofList (before ++ after)) (byteSize before)
        (String.ofList (before ++ after)).utf8ByteSize = some (String.ofList after) := by
  have h := slice?_append before after []
  rw [List.append_nil] at h
  change slice? _ _ (byteSize (before ++ after)) = _
  rw [byteSize_append]
  exact h

/-! ## Offsets -/

theorem offset?_ofList (mark text : List Char) :
    offset? mark (String.ofList text) = (cutAt mark text).map fun cut => byteSize cut.1 := by
  rw [offset?, String.toList_ofList]

theorem lastOffset?_ofList (c : Char) (text : List Char) :
    lastOffset? c (String.ofList text) =
      (cutAtLast c text).map fun cut => byteSize cut.1 := by
  rw [lastOffset?, String.toList_ofList]

theorem offset?_schemeMark {scheme : List Char} (rest : List Char) (h : ¬schemeMark <:+: scheme) :
    offset? schemeMark (String.ofList (scheme ++ schemeMark ++ rest)) = some (byteSize scheme) := by
  have hcut := cutAt_schemeMark rest h
  rw [← List.append_assoc] at hcut
  rw [offset?_ofList, hcut, Option.map_some]

theorem lastOffset?_append {c : Char} {after : List Char} (before : List Char) (h : c ∉ after) :
    lastOffset? c (String.ofList (before ++ c :: after)) = some (byteSize before) := by
  rw [lastOffset?_ofList, cutAtLast_append before h, Option.map_some]

/-! ## The slices of a URL -/

section

variable {scheme tail : List Char} (hfirstMark : ¬schemeMark <:+: scheme)
include hfirstMark

/-- With a scheme and an at sign after it, the slices are what stands between these. -/
theorem maskSlices?_of_marks (userInfo : List Char) (hlastAt : '@' ∉ tail) :
    maskSlices? (String.ofList (scheme ++ schemeMark ++ userInfo ++ '@' :: tail)) =
      match cutAt [':'] userInfo with
      | some (user, _) =>
        some (String.ofList (scheme ++ schemeMark ++ user ++ ":***".toList ++ '@' :: tail))
      | none => some (String.ofList (scheme ++ schemeMark ++ userInfo ++ '@' :: tail)) := by
  set url := String.ofList (scheme ++ schemeMark ++ userInfo ++ '@' :: tail) with hurl
  have hstart : offset? schemeMark url = some (byteSize scheme) := by
    rw [hurl, List.append_assoc (scheme ++ schemeMark)]
    exact offset?_schemeMark _ hfirstMark
  have hsign : lastOffset? '@' url = some (byteSize scheme + 3 + byteSize userInfo) := by
    rw [hurl, lastOffset?_append _ hlastAt]
    simp only [byteSize_append, byteSize_schemeMark]
  have hmark : byteSize (scheme ++ schemeMark) = byteSize scheme + 3 := by
    rw [byteSize_append, byteSize_schemeMark]
  have huserInfo : slice? url (byteSize scheme + 3) (byteSize scheme + 3 + byteSize userInfo) =
      some (String.ofList userInfo) := by
    rw [← hmark]
    exact slice?_append (scheme ++ schemeMark) userInfo ('@' :: tail)
  have hfront : slice? url 0 (byteSize scheme + 3) = some (String.ofList (scheme ++ schemeMark)) := by
    rw [← hmark, hurl, List.append_assoc (scheme ++ schemeMark)]
    exact slice?_prefix (scheme ++ schemeMark) (userInfo ++ '@' :: tail)
  have hback : slice? url (byteSize scheme + 3 + byteSize userInfo) url.utf8ByteSize =
      some (String.ofList ('@' :: tail)) := by
    rw [← hmark, ← byteSize_append]
    exact slice?_suffix (scheme ++ schemeMark ++ userInfo) ('@' :: tail)
  have hbehind : byteSize scheme + 3 + byteSize userInfo > byteSize scheme := by omega
  have hscheme : "://".toList = schemeMark := rfl
  have hcolon : ":".toList = [':'] := rfl
  rw [maskSlices?, hscheme, hstart, hsign]
  simp only [if_pos hbehind, huserInfo, Option.bind_eq_bind, Option.bind_some, hcolon]
  cases hcut : cutAt [':'] userInfo with
  | none =>
    rw [offset?_ofList, hcut]
    rfl
  | some found =>
    obtain ⟨user, behind⟩ := found
    obtain ⟨rfl, -, -⟩ := of_cutAt_eq_some (by decide) hcut
    have huser : slice? url (byteSize scheme + 3) (byteSize scheme + 3 + byteSize user) =
        some (String.ofList user) := by
      rw [← hmark, hurl, ← List.append_assoc, List.append_assoc _ behind]
      exact slice?_append (scheme ++ schemeMark) user (behind ++ '@' :: tail)
    have hparts : String.ofList (scheme ++ schemeMark) ++ String.ofList user ++ ":***" ++
        String.ofList ('@' :: tail) =
        String.ofList (scheme ++ schemeMark ++ user ++ ":***".toList ++ '@' :: tail) := by
      simp only [String.ofList_append, String.ofList_toList]
    rw [offset?_ofList, hcut]
    simp only [Option.map_some, huser, hfront, hback, Option.bind_some, Option.pure_def, hparts]

/-- Without an at sign behind the scheme there is nothing to slice. -/
theorem maskSlices?_of_notMem {rest : List Char} (hat : '@' ∉ rest) :
    maskSlices? (String.ofList (scheme ++ schemeMark ++ rest)) =
      some (String.ofList (scheme ++ schemeMark ++ rest)) := by
  have hscheme : "://".toList = schemeMark := rfl
  have hstart := offset?_schemeMark rest hfirstMark
  have hbehind : '@' ∉ schemeMark ++ rest := by simpa [schemeMark] using hat
  by_cases hbefore : '@' ∈ scheme
  · obtain ⟨front, back, rfl, hback⟩ := exists_last hbefore
    have hlast : '@' ∉ back ++ (schemeMark ++ rest) := by
      rw [List.mem_append, not_or]
      exact ⟨hback, hbehind⟩
    have hsign := lastOffset?_append front hlast
    rw [← List.cons_append, ← List.append_assoc, ← List.append_assoc] at hsign
    have hle : byteSize front ≤ byteSize (front ++ '@' :: back) := by
      rw [byteSize_append]
      exact Nat.le_add_right _ _
    rw [maskSlices?, hscheme, hstart, hsign]
    exact if_neg (Nat.not_lt.mpr hle)
  · have hnone : '@' ∉ scheme ++ schemeMark ++ rest := by
      rw [List.append_assoc, List.mem_append, not_or]
      exact ⟨hbefore, hbehind⟩
    have hsign : lastOffset? '@' (String.ofList (scheme ++ schemeMark ++ rest)) = none := by
      rw [lastOffset?_ofList, cutAtLast_eq_none_iff.mpr hnone, Option.map_none]
    rw [maskSlices?, hscheme, hstart, hsign]

/-- A colon in the user information would be the mark of a password. -/
theorem cutAt_colon_of_forall_ne {userInfo : List Char} (hlastAt : '@' ∉ tail)
    (h : ∀ parts : Parts, scheme ++ schemeMark ++ userInfo ++ '@' :: tail ≠ parts.text) :
    cutAt [':'] userInfo = none := by
  cases hcut : cutAt [':'] userInfo with
  | none => rfl
  | some found =>
    obtain ⟨user, behind⟩ := found
    obtain ⟨rfl, ⟨password, rfl⟩, hfirstColon⟩ := of_cutAt_eq_some (by decide) hcut
    rw [List.singleton_infix_iff] at hfirstColon
    refine absurd ?_ (h ⟨scheme, user, password, tail, hfirstMark, hfirstColon, hlastAt⟩)
    simp [Parts.text]

end

/-- What can be taken apart is masked by slices as its parts say. -/
theorem maskSlices?_parts (parts : Parts) :
    maskSlices? (String.ofList parts.text) = some (String.ofList parts.masked) := by
  have htext : parts.text = parts.scheme ++ schemeMark ++ (parts.user ++ ':' :: parts.password) ++
      '@' :: parts.tail := by
    simp [Parts.text]
  rw [htext, maskSlices?_of_marks parts.isFirstMark _ parts.isLastAt,
    cutAt_colon parts.password parts.isFirstColon]
  rfl

/-- What cannot be taken apart stays as it is. -/
theorem maskSlices?_of_forall_ne {url : List Char} (h : ∀ parts : Parts, url ≠ parts.text) :
    maskSlices? (String.ofList url) = some (String.ofList url) := by
  cases hscheme : cutAt schemeMark url with
  | none =>
    have hstart : offset? "://".toList (String.ofList url) = none := by
      rw [offset?_ofList, show "://".toList = schemeMark from rfl, hscheme, Option.map_none]
    rw [maskSlices?, hstart]
  | some found =>
    obtain ⟨scheme, rest⟩ := found
    obtain ⟨rfl, ⟨rest, rfl⟩, hfirstMark⟩ := of_cutAt_eq_some (by decide) hscheme
    rw [← List.append_assoc] at *
    by_cases hat : '@' ∈ rest
    · obtain ⟨userInfo, tail, rfl, hlastAt⟩ := exists_last hat
      rw [← List.append_assoc] at *
      rw [maskSlices?_of_marks hfirstMark userInfo hlastAt,
        cutAt_colon_of_forall_ne hfirstMark hlastAt h]
    · exact maskSlices?_of_notMem hfirstMark hat

/-- The slices can be cut, and give the mask. -/
theorem maskSlices?_eq_some_mask (url : String) : maskSlices? url = some (mask url) := by
  by_cases hparts : ∃ parts : Parts, url.toList = parts.text
  · obtain ⟨parts, htext⟩ := hparts
    have hurl : url = String.ofList parts.text := by rw [← htext, String.ofList_toList]
    rw [hurl, maskSlices?_parts, mask_parts]
  · have hne : ∀ parts : Parts, url.toList ≠ parts.text := fun parts htext => hparts ⟨parts, htext⟩
    have hslices := maskSlices?_of_forall_ne hne
    have hmask := mask_of_forall_ne hne
    rw [String.ofList_toList] at hslices hmask
    rw [hslices, hmask]

/-! ## What masking gives -/

/-- The parts that a mask shows, with asterisks where the password was. -/
def Parts.starred (parts : Parts) : Parts :=
  { parts with password := "***".toList }

theorem Parts.text_starred (parts : Parts) : parts.starred.text = parts.masked := by
  simp [Parts.starred, Parts.text, Parts.masked]

theorem Parts.masked_starred (parts : Parts) : parts.starred.masked = parts.masked := rfl

theorem mask_mask (url : String) : mask (mask url) = mask url := by
  by_cases hparts : ∃ parts : Parts, url.toList = parts.text
  · obtain ⟨parts, htext⟩ := hparts
    have hmask : mask url = String.ofList parts.masked := by
      rw [← String.ofList_toList (s := url), htext, mask_parts]
    calc
      mask (mask url) = mask (String.ofList parts.starred.text) := by
        rw [hmask, Parts.text_starred]
      _ = String.ofList parts.starred.masked := mask_parts parts.starred
      _ = mask url := by rw [Parts.masked_starred, hmask]
  · have hmask := mask_of_forall_ne fun parts htext => hparts ⟨parts, htext⟩
    rw [String.ofList_toList] at hmask
    rw [hmask, hmask]

section

variable {scheme user password tail : String}

theorem mask_of_password (hscheme : ¬"://".toList <:+: scheme.toList) (huser : ':' ∉ user.toList)
    (htail : '@' ∉ tail.toList) :
    mask (scheme ++ "://" ++ user ++ ":" ++ password ++ "@" ++ tail) =
      scheme ++ "://" ++ user ++ ":***@" ++ tail := by
  let parts : Parts := ⟨scheme.toList, user.toList, password.toList, tail.toList, hscheme, huser, htail⟩
  have hurl : scheme ++ "://" ++ user ++ ":" ++ password ++ "@" ++ tail =
      String.ofList parts.text := by
    apply String.toList_inj.mp
    simp [parts, Parts.text, schemeMark]
  rw [hurl, mask_parts]
  apply String.toList_inj.mp
  simp [parts, Parts.masked, schemeMark]

/-- Without a colon in the user information there is no password to be hidden. -/
theorem mask_of_no_password (hscheme : ¬"://".toList <:+: scheme.toList)
    (huser : ':' ∉ user.toList) (htail : '@' ∉ tail.toList) :
    mask (scheme ++ "://" ++ user ++ "@" ++ tail) = scheme ++ "://" ++ user ++ "@" ++ tail := by
  have hurl : scheme ++ "://" ++ user ++ "@" ++ tail =
      String.ofList (scheme.toList ++ (schemeMark ++ (user.toList ++ '@' :: tail.toList))) := by
    apply String.toList_inj.mp
    simp [schemeMark]
  rw [hurl]
  apply mask_of_forall_ne
  intro parts htext
  have hparts : parts.text = parts.scheme ++
      (schemeMark ++ (parts.user ++ ':' :: parts.password ++ '@' :: parts.tail)) := by
    simp [Parts.text]
  have hcut := cutAt_schemeMark (user.toList ++ '@' :: tail.toList) hscheme
  rw [htext, hparts, cutAt_schemeMark _ parts.isFirstMark] at hcut
  have hrest := List.append_cancel_left (Prod.mk.inj (Option.some.inj hcut)).2
  have hlast := cutAtLast_append user.toList htail
  rw [← hrest, cutAtLast_append _ parts.isLastAt] at hlast
  have hinfo : parts.user ++ ':' :: parts.password = user.toList :=
    (Prod.mk.inj (Option.some.inj hlast)).1
  apply huser
  rw [← hinfo]
  exact List.mem_append_right parts.user List.mem_cons_self

end

/-- Every slice of a URL can be cut, whatever its characters are, and a mask is its own mask.  A
URL with a password is shown with asterisks instead of it and otherwise as it is, whatever the
password is made of; one with a user alone is shown as it is. -/
theorem masking_is_exact :
    (∀ url, maskSlices? url = some (mask url)) ∧
    (∀ url, mask (mask url) = mask url) ∧
    (∀ scheme user password tail : String, ¬"://".toList <:+: scheme.toList →
      ':' ∉ user.toList → '@' ∉ tail.toList →
      mask (scheme ++ "://" ++ user ++ ":" ++ password ++ "@" ++ tail) =
        scheme ++ "://" ++ user ++ ":***@" ++ tail) ∧
    ∀ scheme user tail : String, ¬"://".toList <:+: scheme.toList →
      ':' ∉ user.toList → '@' ∉ tail.toList →
      mask (scheme ++ "://" ++ user ++ "@" ++ tail) = scheme ++ "://" ++ user ++ "@" ++ tail :=
  ⟨maskSlices?_eq_some_mask, mask_mask, fun _ _ _ _ => mask_of_password,
    fun _ _ _ => mask_of_no_password⟩

/-- A password with all the marks in it, and with characters of two bytes around. -/
theorem masking_is_exact_of_marks :
    mask "postgres://jürgen:é://a@b:c@db:5432/größe" = "postgres://jürgen:***@db:5432/größe" ∧
      mask "postgres://jürgen@db:5432/größe" = "postgres://jürgen@db:5432/größe" :=
  ⟨masking_is_exact.2.2.1 "postgres" "jürgen" "é://a@b:c" "db:5432/größe" (by decide) (by decide)
      (by decide),
    masking_is_exact.2.2.2 "postgres" "jürgen" "db:5432/größe" (by decide) (by decide)
      (by decide)⟩

end Schemata.Masking
