import Schemata.Proofs.ConnectionUrls

/-!
# Plain texts in connection strings

A text of ASCII letters and digits stands for itself in a connection string of either form.  So
an accepted string becomes one with that password in each of the three places for it: after the
user of a URL (`Url.parse_user_password`), in its query (`Url.parse_query_password`), or after the
other keys and values (`KeyValue.parse_last_password`).
-/

namespace Schemata.ConnInfo

/-! ## Plain texts -/

/-- A text of ASCII letters and digits, which stands for itself in either form. -/
structure IsPlain (text : List Char) : Prop where
  nonempty : text ≠ []
  isAlphanum : ∀ c ∈ text, c.isAlphanum

theorem toNat_of_isAlphanum {c : Char} (h : c.isAlphanum) :
    48 ≤ c.toNat ∧ c.toNat ≤ 57 ∨ 65 ≤ c.toNat ∧ c.toNat ≤ 90 ∨
      97 ≤ c.toNat ∧ c.toNat ≤ 122 := by
  have hcases : ((c.isUpper || c.isLower) || c.isDigit) = true := h
  rw [Bool.or_eq_true, Bool.or_eq_true] at hcases
  rcases hcases with (hupper | hlower) | hdigit
  · exact .inr (.inl (of_decide_eq_true hupper))
  · obtain ⟨hle, hge⟩ := Bool.and_eq_true_iff.mp hlower
    exact .inr (.inr ⟨of_decide_eq_true hle, of_decide_eq_true hge⟩)
  · obtain ⟨hle, hge⟩ := Bool.and_eq_true_iff.mp hdigit
    exact .inl ⟨of_decide_eq_true hle, of_decide_eq_true hge⟩

theorem utf8EncodeChar_of_ascii {c : Char} (h : c.toNat < 128) :
    String.utf8EncodeChar c = [UInt8.ofNat c.toNat] :=
  if_pos (Nat.le_of_lt_succ h)

theorem decodePercent_cons {c : Char} (rest : List Char) (h : c ≠ '%') :
    Text.Percent.decode (c :: rest) = String.utf8EncodeChar c ++ Text.Percent.decode rest := by
  rw [Text.Percent.decode]
  simp [h]

theorem pieces_cons_ascii {c : Char} (rest : List UInt8) (h : c.toNat < 128) :
    Text.Utf8.pieces (UInt8.ofNat c.toNat :: rest) = .char c :: Text.Utf8.pieces rest := by
  have hbyte : (UInt8.ofNat c.toNat).toNat = c.toNat := by
    rw [UInt8.toNat_ofNat']
    omega
  have hwidth : Text.Utf8.width (UInt8.ofNat c.toNat) = 1 := by
    apply if_pos
    rw [UInt8.le_iff_toNat_le, hbyte]
    exact Nat.le_of_lt_succ h
  rw [Text.Utf8.pieces]
  simp [hwidth, hbyte]

namespace IsPlain

theorem of_all {text : List Char} (hne : text ≠ []) (h : text.all Char.isAlphanum = true) :
    IsPlain text :=
  ⟨hne, List.all_eq_true.mp h⟩

variable {text : List Char} (h : IsPlain text)
include h

theorem notMem {c : Char} (hc : c.isAlphanum = false) : c ∉ text := by
  intro hmem
  cases hc.symm.trans (h.isAlphanum c hmem)

theorem isBlank {c : Char} (hmem : c ∈ text) : Text.isBlank c = false := by
  have hnat := toNat_of_isAlphanum (h.isAlphanum c hmem)
  simp [Text.isBlank, Text.blankRanges]
  omega

theorem decodePercent : Text.Percent.decode text = Text.Utf8.encode text := by
  have hpercent : '%' ∉ text := h.notMem rfl
  clear h
  induction text with
  | nil => rfl
  | cons c rest ih =>
    rw [List.mem_cons, not_or] at hpercent
    rw [decodePercent_cons rest (Ne.symm hpercent.1), ih hpercent.2]
    rfl

theorem decodeText : Text.Percent.decodeText text = .ok text := by
  have hascii : ∀ c ∈ text, c.toNat < 128 := by
    intro c hmem
    have hnat := toNat_of_isAlphanum (h.isAlphanum c hmem)
    omega
  have hstrict (index : Nat) :
      Text.Utf8.strict index (Text.Utf8.pieces (Text.Utf8.encode text)) = .ok text := by
    clear h
    induction text generalizing index with
    | nil => rfl
    | cons c rest ih =>
      have hc := hascii c List.mem_cons_self
      have hencode : Text.Utf8.encode (c :: rest) =
          UInt8.ofNat c.toNat :: Text.Utf8.encode rest := by
        simp [Text.Utf8.encode, utf8EncodeChar_of_ascii hc]
      rw [hencode, pieces_cons_ascii _ hc, Text.Utf8.strict,
        ih fun c hmem => hascii c (List.mem_cons_of_mem _ hmem)]
      rfl
  rw [Text.Percent.decodeText, h.decodePercent]
  exact hstrict 0

end IsPlain

/-! ## Plain passwords in a URL -/

theorem assign_password (info : ConnInfo) (password : List Char) :
    info.assign "password" password =
      .ok { info with password := some (Text.Utf8.encode password) } :=
  rfl

theorem Url.assignQuery_password {password : List Char} (h : IsPlain password) (fuel : Nat)
    (info : ConnInfo) :
    assignQuery (fuel + 1) ("password=".toList ++ password) info =
      .ok { info with password := some (Text.Utf8.encode password) } := by
  have hcut : cut '=' ("password=".toList ++ password) = ("password".toList, some password) :=
    @cut_append '=' "password".toList password (by decide)
  have hvalue : cut '&' password = (password, none) := cut_of_notMem (h.notMem rfl)
  have hdecode : decode password = .ok password := by
    rw [decode, h.decodeText]
    rfl
  have hassign : assignDecoded info "password".toList password =
      .ok { info with password := some (Text.Utf8.encode password) } := by
    change (decode password).bind (info.assign "password") = _
    rw [hdecode]
    exact assign_password info password
  rw [assignQuery_cons hcut, hvalue, hassign]
  exact assignQuery_nil fuel _

/-- A password for the user of a URL that has none. -/
theorem Url.parse_user_password {user rest password : List Char} {info : ConnInfo}
    (hcolon : ':' ∉ user) (hat : '@' ∉ user) (haccepted : parse (user ++ '@' :: rest) = .ok info)
    (hnone : info.password = none) (h : IsPlain password) :
    parse (user ++ ':' :: password ++ '@' :: rest) =
      .ok { info with password := some (Text.Utf8.encode password) } := by
  have hpart : '@' ∉ user ++ ':' :: password := by
    simp [hat, show '@' ∉ password from h.notMem rfl]
  rw [parse_credentials rest hat, cut_of_notMem hcolon] at haccepted
  obtain ⟨name, hname, hrest⟩ := bind_eq_ok_iff.mp haccepted
  obtain ⟨found, hfound, rfl⟩ := map_eq_ok_iff.mp hrest
  have hfree : found.password = none := by simpa [withCredentials] using hnone
  rw [parse_credentials rest hpart, cut_append password hcolon, hname, hfound, Option.map_some,
    h.decodePercent]
  simp [Except.bind, Except.map, withCredentials, hfree]

/-- A password in the query of a URL that has none. -/
theorem Url.parse_query_password {text password : List Char} {info : ConnInfo}
    (htext : '?' ∉ text) (haccepted : parse text = .ok info) (h : IsPlain password) :
    parse (text ++ '?' :: ("password=".toList ++ password)) =
      .ok { info with password := some (Text.Utf8.encode password) } := by
  have hquery : '@' ∉ "password=".toList ++ password := by
    simp [show '@' ∉ password from h.notMem rfl]
  rw [parse_query htext (.inr hquery), haccepted]
  exact assignQuery_password h _ info

/-! ## Keys and values of words -/

namespace KeyValue

/-- A text without the characters that end a key or a value, or mean something in it. -/
structure IsWord (text : List Char) : Prop where
  nonempty : text ≠ []
  noBlank : ∀ c ∈ text, Text.isBlank c = false
  noEquals : '=' ∉ text
  noQuote : '\'' ∉ text
  noBackslash : '\\' ∉ text

theorem IsWord.of_isPlain {text : List Char} (h : IsPlain text) : IsWord text where
  nonempty := h.nonempty
  noBlank _ hmem := h.isBlank hmem
  noEquals := h.notMem rfl
  noQuote := h.notMem rfl
  noBackslash := h.notMem rfl

/-- Parameters with a blank behind each. -/
def words (parameters : List (List Char × List Char)) : List Char :=
  parameters.flatMap fun (key, value) => key ++ '=' :: value ++ [' ']

theorem trimStart_append {text : List Char} (h : IsWord text) (rest : List Char) :
    Text.trimStart (text ++ rest) = text ++ rest := by
  cases text with
  | nil => exact absurd rfl h.nonempty
  | cons first text =>
    have hfirst := h.noBlank first List.mem_cons_self
    simp [Text.trimStart, hfirst]

theorem bareValue_cons {c : Char} (rest : List Char) (h : c ≠ '\\') :
    bareValue (c :: rest) =
      if Text.isBlank c then ([], c :: rest)
      else (c :: (bareValue rest).1, (bareValue rest).2) := by
  rw [bareValue]
  · exact fun hc => absurd hc h
  · exact fun _ _ hc => absurd hc h

section

variable {rest : List Char} (hrest : rest = [] ∨ ∃ c after, rest = c :: after ∧ Text.isBlank c)
include hrest

theorem bareValue_append {text : List Char} (hblank : ∀ c ∈ text, Text.isBlank c = false)
    (hbackslash : '\\' ∉ text) : bareValue (text ++ rest) = (text, rest) := by
  induction text with
  | nil =>
    rcases hrest with rfl | ⟨c, after, rfl, hc⟩
    · rfl
    · have hne : c ≠ '\\' := by
        rintro rfl
        cases hc
      rw [List.nil_append, bareValue_cons after hne, if_pos hc]
  | cons first text ih =>
    rw [List.mem_cons, not_or] at hbackslash
    have hfirst := hblank first List.mem_cons_self
    rw [List.cons_append, bareValue_cons _ (Ne.symm hbackslash.1), hfirst,
      ih (fun c hmem => hblank c (List.mem_cons_of_mem _ hmem)) hbackslash.2]
    rfl

theorem value_append {text : List Char} (h : IsWord text) :
    value (text ++ rest) = .ok (text, rest) := by
  have hbare := bareValue_append hrest h.noBlank h.noBackslash
  cases text with
  | nil => exact absurd rfl h.nonempty
  | cons first text =>
    have hfirst : first ≠ '\'' := fun heq => h.noQuote (heq ▸ List.mem_cons_self)
    rw [List.cons_append] at hbare
    rw [List.cons_append, value, hbare]
    · rfl
    · exact fun _ heq => hfirst (List.cons.inj heq).1

/-- A parameter of words ends at a blank or at the end of the text. -/
theorem parameter_append {key value : List Char} (hkey : IsWord key) (hvalue : IsWord value)
    (size : Nat) :
    parameter size (key ++ '=' :: (value ++ rest)) = .ok (some { key, value, rest }) := by
  let isKey : Char → Bool := fun c => !Text.isBlank c && c ≠ '='
  have hchars : ∀ c ∈ key, isKey c = true := by
    intro c hmem
    have hne : c ≠ '=' := fun heq => hkey.noEquals (heq ▸ hmem)
    simp [isKey, hkey.noBlank c hmem, hne]
  have htake : (key ++ '=' :: (value ++ rest)).takeWhile isKey = key := by
    rw [List.takeWhile_append_of_pos hchars]
    exact List.append_nil key
  have hdrop : (key ++ '=' :: (value ++ rest)).dropWhile isKey = '=' :: (value ++ rest) := by
    rw [List.dropWhile_append_of_pos hchars]
    rfl
  rw [parameter]
  dsimp only
  rw [trimStart_append hkey, htake, hdrop, if_neg hkey.nonempty]
  change (KeyValue.value (Text.trimStart (value ++ rest))).map _ = _
  rw [trimStart_append hvalue, value_append hrest hvalue]
  rfl

end

/-- Blanks in front of a parameter do not matter. -/
theorem assignAll_blank (size fuel : Nat) (text : List Char) (info : ConnInfo) :
    assignAll size fuel (' ' :: text) info = assignAll size fuel text info := by
  cases fuel <;> rfl

/-- Gives one parameter after the other its value. -/
def assignEach (parameters : List (List Char × List Char)) (info : ConnInfo) :
    Except Defect ConnInfo :=
  parameters.foldlM (fun info (parameter : List Char × List Char) =>
    info.assign (String.ofList parameter.1) parameter.2) info

theorem assignAll_words {parameters : List (List Char × List Char)}
    (h : ∀ parameter ∈ parameters, IsWord parameter.1 ∧ IsWord parameter.2) (size fuel : Nat)
    (text : List Char) (info : ConnInfo) :
    assignAll size (parameters.length + fuel) (words parameters ++ text) info =
      (assignEach parameters info).bind (assignAll size fuel text) := by
  induction parameters generalizing info with
  | nil =>
    rw [List.length_nil, Nat.zero_add]
    rfl
  | cons first parameters ih =>
    obtain ⟨⟨hkey, hvalue⟩, hlater⟩ := List.forall_mem_cons.mp h
    have htext : words (first :: parameters) ++ text =
        first.1 ++ '=' :: (first.2 ++ ' ' :: (words parameters ++ text)) := by
      simp [words]
    have hfuel : (first :: parameters).length + fuel = parameters.length + fuel + 1 := by
      rw [List.length_cons]
      omega
    have hparameter := parameter_append (.inr ⟨' ', words parameters ++ text, rfl, rfl⟩) hkey
      hvalue size
    rw [htext, hfuel, assignAll, hparameter]
    change (info.assign _ _).bind _ = ((info.assign _ _).bind (assignEach parameters)).bind _
    cases info.assign (String.ofList first.1) first.2 with
    | error defect => rfl
    | ok found =>
      change assignAll size _ (' ' :: _) found = _
      rw [assignAll_blank, ih hlater]
      rfl

/-- The last parameter of a string of words is read after all others. -/
theorem assignAll_last {key value : List Char} (hkey : IsWord key) (hvalue : IsWord value)
    (size fuel : Nat) (info : ConnInfo) :
    assignAll size (fuel + 1) (key ++ '=' :: value) info =
      info.assign (String.ofList key) value := by
  have hparameter := parameter_append (.inl rfl) hkey hvalue size
  rw [List.append_nil] at hparameter
  rw [assignAll, hparameter]
  change (info.assign (String.ofList key) value).bind (assignAll size fuel []) = _
  cases info.assign (String.ofList key) value with
  | error defect => rfl
  | ok found => cases fuel <;> rfl

theorem length_le_length_words (parameters : List (List Char × List Char)) :
    parameters.length ≤ (words parameters).length := by
  induction parameters with
  | nil => exact le_rfl
  | cons first parameters ih =>
    have hwords : words (first :: parameters) =
        first.1 ++ '=' :: first.2 ++ [' '] ++ words parameters := rfl
    rw [hwords]
    simp only [List.length_append, List.length_cons]
    omega

/-- A password after the other keys and values. -/
theorem parse_last_password {parameters : List (List Char × List Char)}
    {password : List Char} {info : ConnInfo}
    (hwords : ∀ parameter ∈ parameters, IsWord parameter.1 ∧ IsWord parameter.2)
    (haccepted : assignEach parameters {} = .ok info) (h : IsPlain password) :
    parse (words parameters ++ ("password".toList ++ '=' :: password)) =
      .ok { info with password := some (Text.Utf8.encode password) } := by
  have hkey : IsWord "password".toList :=
    .of_isPlain (.of_all (by decide) rfl)
  have hvalue := IsWord.of_isPlain h
  have hlength : ∃ fuel, (words parameters ++ ("password".toList ++ '=' :: password)).length =
      parameters.length + (fuel + 1) := by
    have hle := length_le_length_words parameters
    refine ⟨(words parameters).length - parameters.length + "password".toList.length +
      password.length, ?_⟩
    simp only [List.length_append, List.length_cons]
    omega
  obtain ⟨fuel, hfuel⟩ := hlength
  rw [parse, hfuel, assignAll_words hwords, haccepted]
  exact assignAll_last hkey hvalue _ fuel info

/-- Keys and values that are accepted one by one are read as such. -/
theorem parse_of_assignEach {parameters : List (List Char × List Char)}
    {info : ConnInfo} (h : assignEach parameters {} = .ok info) (rest : List Char) :
    ConnInfo.parse (String.ofList (words parameters ++ ("password".toList ++ '=' :: rest))) =
      parse (words parameters ++ ("password".toList ++ '=' :: rest)) := by
  have hafter :
      Url.afterScheme? (words parameters ++ ("password".toList ++ '=' :: rest)) = none := by
    cases parameters with
    | nil => rfl
    | cons first parameters =>
      obtain ⟨found, hassign, -⟩ := bind_eq_ok_iff.mp h
      have hkey : String.ofList first.1 ∈ keys := by
        by_contra hunknown
        change ({} : ConnInfo).assign (String.ofList first.1) first.2 = _ at hassign
        rw [assign, if_neg hunknown] at hassign
        cases hassign
      have htext : words (first :: parameters) ++ ("password".toList ++ '=' :: rest) =
          first.1 ++ '=' :: (first.2 ++ ' ' :: (words parameters ++
            ("password".toList ++ '=' :: rest))) := by
        simp [words]
      rw [htext, Url.afterScheme?_of_mem_keys hkey]
  rw [ConnInfo.parse, String.toList_ofList, hafter]

end KeyValue

end Schemata.ConnInfo
