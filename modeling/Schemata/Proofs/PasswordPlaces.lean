import Mathlib.Tactic.FinCases
import Schemata.Proofs.Masking
import Schemata.Proofs.PlainParameters
import Schemata.Proofs.UrlLog

/-!
# Passwords in the log

A place for a password is one in a connection string of any form that makes every plain text
there the password.  In the user information of a URL it stands between the marks that masking
looks for (`PasswordPlace.isHidden_of_inUserInfo`), and then no two passwords make a difference
to the log.  Any other place, in a query or among keys and values, is shown as it is unless such
marks stand around it by chance (`PasswordPlace.same_log_iff_isHidden`).
-/

namespace Schemata

namespace ConnInfo

theorem IsPlain.isMarkFree {text : List Char} (h : IsPlain text) : Masking.IsMarkFree text where
  nonempty := h.nonempty
  noColon := h.notMem rfl
  noSlash := h.notMem rfl
  noAt := h.notMem rfl

theorem Url.exists_eq_append_schemeMark {scheme : String} (h : scheme ∈ Url.schemes) :
    ∃ name, scheme.toList = name ++ Masking.schemeMark := by
  rw [Url.schemes, List.mem_pair] at h
  rcases h with rfl | rfl
  · exact ⟨"postgres".toList, rfl⟩
  · exact ⟨"postgresql".toList, rfl⟩

/-- The text can be read as a connection string, and this is the password in it. -/
def GivesPassword (text password : List Char) : Prop :=
  ∃ info, parse (String.ofList text) = .ok info ∧
    info.password = some (Text.Utf8.encode password)

end ConnInfo

/-- A place for a password in a connection string: whatever plain text stands there is the password
that the string gives. -/
structure PasswordPlace where
  before : List Char
  after : List Char
  gives : ∀ password, ConnInfo.IsPlain password →
    ConnInfo.GivesPassword (before ++ password ++ after) password

namespace PasswordPlace

/-- The connection string with a text in the place. -/
def fill (place : PasswordPlace) (text : List Char) : String :=
  String.ofList (place.before ++ text ++ place.after)

/-- The marks that masking looks for stand around the place. -/
def IsHidden (place : PasswordPlace) : Prop :=
  Masking.Hides place.before place.after

/-- The place is in a URL, before the first at sign that stands beside it. -/
def InUserInfo (place : PasswordPlace) : Prop :=
  (∃ scheme ∈ ConnInfo.Url.schemes, ∃ front,
    place.before = scheme.toList ++ front ∧ '@' ∉ front) ∧ '@' ∈ place.after

/-! ## Places of each form -/

section

open ConnInfo

/-- Behind the user of an accepted URL without a password. -/
def ofUserInfo {scheme : String} (hscheme : scheme ∈ Url.schemes) (user rest : List Char)
    (hcolon : ':' ∉ user) (hat : '@' ∉ user)
    (haccepted : ∃ info, Url.parse (user ++ '@' :: rest) = .ok info ∧ info.password = none) :
    PasswordPlace where
  before := scheme.toList ++ (user ++ [':'])
  after := '@' :: rest
  gives := by
    intro password hpassword
    obtain ⟨info, hinfo, hnone⟩ := haccepted
    have htext : scheme.toList ++ (user ++ [':']) ++ password ++ '@' :: rest =
        scheme.toList ++ (user ++ ':' :: password ++ '@' :: rest) := by simp
    rw [GivesPassword, htext, parse_of_mem_schemes hscheme,
      Url.parse_user_password hcolon hat hinfo hnone hpassword]
    exact ⟨_, rfl, rfl⟩

/-- At the end of an accepted URL without a query. -/
def ofQuery {scheme : String} (hscheme : scheme ∈ Url.schemes) (text : List Char)
    (hquery : '?' ∉ text) (haccepted : ∃ info, Url.parse text = .ok info) : PasswordPlace where
  before := scheme.toList ++ (text ++ "?password=".toList)
  after := []
  gives := by
    intro password hpassword
    obtain ⟨info, hinfo⟩ := haccepted
    have htext : scheme.toList ++ (text ++ "?password=".toList) ++ password ++ [] =
        scheme.toList ++ (text ++ '?' :: ("password=".toList ++ password)) := by simp
    rw [GivesPassword, htext, parse_of_mem_schemes hscheme,
      Url.parse_query_password hquery hinfo hpassword]
    exact ⟨_, rfl, rfl⟩

/-- Behind keys and values that are accepted. -/
def ofKeyValue (parameters : List (List Char × List Char))
    (hwords : ∀ parameter ∈ parameters,
      KeyValue.IsWord parameter.1 ∧ KeyValue.IsWord parameter.2)
    (haccepted : ∃ info, KeyValue.assignEach parameters {} = .ok info) : PasswordPlace where
  before := KeyValue.words parameters ++ "password=".toList
  after := []
  gives := by
    intro password hpassword
    obtain ⟨info, hinfo⟩ := haccepted
    have htext : KeyValue.words parameters ++ "password=".toList ++ password ++ [] =
        KeyValue.words parameters ++ ("password".toList ++ '=' :: password) := by simp
    rw [GivesPassword, htext, KeyValue.parse_of_assignEach hinfo,
      KeyValue.parse_last_password hwords hinfo hpassword]
    exact ⟨_, rfl, rfl⟩

end

/-! ## Where masking hides a password -/

variable {place : PasswordPlace}

theorem not_isHidden_of_notMem (h : '@' ∉ place.after) : ¬place.IsHidden :=
  fun hhidden => h hhidden.2

/-- In the user information a colon stands in front of a place, since without one what stands
there would be of the user. -/
theorem isHidden_of_inUserInfo (h : place.InUserInfo) : place.IsHidden := by
  obtain ⟨⟨scheme, hscheme, front, hbefore, hfront⟩, hat⟩ := h
  obtain ⟨last, rest, hafter, hlast⟩ := List.eq_append_cons_of_mem hat
  -- Without a colon two passwords would be read as the same.
  have hcolon : ':' ∈ front := by
    by_contra hcolon
    obtain ⟨found, hfound⟩ := ConnInfo.Url.exists_password hcolon hfront hlast rest
    have hpassword (password : List Char) (hplain : ConnInfo.IsPlain password) :
        some (Text.Utf8.encode password) = found := by
      obtain ⟨info, hinfo, hread⟩ := place.gives password hplain
      have htext : place.before ++ password ++ place.after =
          scheme.toList ++ (front ++ password ++ last ++ '@' :: rest) := by
        simp [hbefore, hafter]
      rw [htext, ConnInfo.parse_of_mem_schemes hscheme] at hinfo
      rw [← hread, hfound password (hplain.notMem rfl) (hplain.notMem rfl) info hinfo]
    have ha := hpassword ['a'] (.of_all (by decide) rfl)
    have hb := hpassword ['b'] (.of_all (by decide) rfl)
    cases ha.trans hb.symm
  obtain ⟨name, hname⟩ := ConnInfo.Url.exists_eq_append_schemeMark hscheme
  obtain ⟨user, password, rfl⟩ := List.append_of_mem hcolon
  exact ⟨⟨name, user, password, by simp [hbefore, hname]⟩, hat⟩

/-- A password that is not hidden is shown as it is. -/
theorem mask_fill_of_not_isHidden (h : ¬place.IsHidden) :
    ∃ front back, ∀ password, ConnInfo.IsPlain password →
      Masking.mask (place.fill password) = String.ofList (front ++ password ++ back) := by
  obtain ⟨front, back, hmask⟩ := Masking.mask_of_not_hides h
  exact ⟨front, back, fun password hpassword => hmask password hpassword.isMarkFree⟩

theorem isHidden_iff_mask_fill : place.IsHidden ↔
    ∀ first second, Masking.mask (place.fill first) = Masking.mask (place.fill second) := by
  constructor
  · intro hhidden first second
    obtain ⟨masked, hmask⟩ := Masking.mask_of_hides hhidden
    exact (hmask first).trans (hmask second).symm
  · intro hsame
    by_contra hshown
    obtain ⟨front, back, hmask⟩ := mask_fill_of_not_isHidden hshown
    have ha := hmask ['a'] (.of_all (by decide) rfl)
    have hb := hmask ['b'] (.of_all (by decide) rfl)
    have hchars := String.ofList_injective (ha.symm.trans ((hsame ['a'] ['b']).trans hb))
    simp at hchars

/-! ## What the log says -/

/-- The database URLs that the log of an invocation shows. -/
def shownUrls (around : Surroundings) (backend : Wire.Backend) (command : Command) (url : String) :
    List String :=
  (Program.run around backend { command, databaseUrl := some url }).events.filterMap Event.url?

/-- Whatever command is given with a connection string that holds a password in a place, the log
shows one database URL, the masked one.  It is the same for any two texts in the place, exactly
if the marks that masking looks for stand around the place; otherwise a plain password is shown
as it is.  The marks always stand around a place in the user information of a URL. -/
theorem same_log_iff_isHidden (place : PasswordPlace) {around : Surroundings} {file : Settings}
    {path : Option Path}
    (hfile : Settings.loadOrDefault around.tree around.directory = .ok (file, path))
    (backend : Wire.Backend) (command : Command) :
    let shown (text : List Char) := shownUrls around backend command (place.fill text)
    (∀ text, shown text = [Masking.mask (place.fill text)]) ∧
      (place.IsHidden ↔ ∀ first second, shown first = shown second) ∧
      (¬place.IsHidden → ∃ front back, ∀ password, ConnInfo.IsPlain password →
        shown password = [String.ofList (front ++ password ++ back)]) ∧
      (place.InUserInfo → place.IsHidden) := by
  intro shown
  have hshown (text : List Char) : shown text = [Masking.mask (place.fill text)] :=
    Program.urls_run hfile backend { command, databaseUrl := some (place.fill text) }
  refine ⟨hshown, ?_, ?_, isHidden_of_inUserInfo⟩
  · simp only [hshown, List.cons.injEq, and_true]
    exact isHidden_iff_mask_fill
  · intro hclear
    obtain ⟨front, back, hmask⟩ := mask_fill_of_not_isHidden hclear
    refine ⟨front, back, ?_⟩
    intro password hpassword
    rw [hshown, hmask password hpassword]

/-- Without a file of settings, a password behind the user of a URL makes no difference to the log,
and one in a query or behind a host in keys and values does. -/
theorem same_log_behind_user_only :
    let around : Surroundings :=
      { tree := { entry := fun _ => none }, directory := [], network := .isolated }
    let shown := shownUrls around {} (.read "s")
    Settings.loadOrDefault around.tree around.directory = .ok ({}, none) ∧
      (∃ place : PasswordPlace,
        place.before = "postgres://app:".toList ∧ place.after = "@db/main".toList ∧
        ∀ first second, shown (place.fill first) = shown (place.fill second)) ∧
      (∃ place : PasswordPlace,
        place.before = "postgres://app@db/main?password=".toList ∧ place.after = [] ∧
        ¬∀ first second, shown (place.fill first) = shown (place.fill second)) ∧
      ∃ place : PasswordPlace,
        place.before = "host=db password=".toList ∧ place.after = [] ∧
        ¬∀ first second, shown (place.fill first) = shown (place.fill second) := by
  intro around shown
  have hfile : Settings.loadOrDefault around.tree around.directory = .ok ({}, none) := rfl
  have hword (text : List Char) (hne : text ≠ []) (h : text.all Char.isAlphanum = true) :
      ConnInfo.KeyValue.IsWord text := .of_isPlain (.of_all hne h)
  let behindUser : PasswordPlace :=
    ofUserInfo List.mem_cons_self "app".toList "db/main".toList (by decide) (by decide)
      ⟨_, rfl, rfl⟩
  let inQuery : PasswordPlace :=
    ofQuery List.mem_cons_self "app@db/main".toList (by decide) ⟨_, rfl⟩
  let behindHost : PasswordPlace :=
    ofKeyValue [("host".toList, "db".toList)]
      (by simpa using ⟨hword _ (by decide) rfl, hword _ (by decide) rfl⟩)
      ⟨_, rfl⟩
  obtain ⟨-, huser, -, hmarks⟩ := same_log_iff_isHidden behindUser hfile {} (.read "s")
  obtain ⟨-, hquery, -, -⟩ := same_log_iff_isHidden inQuery hfile {} (.read "s")
  obtain ⟨-, hhost, -, -⟩ := same_log_iff_isHidden behindHost hfile {} (.read "s")
  have hinfo : behindUser.InUserInfo :=
    ⟨⟨"postgres://", List.mem_cons_self, "app:".toList, rfl, by decide⟩, List.mem_cons_self⟩
  have hclearQuery : ¬inQuery.IsHidden := not_isHidden_of_notMem List.not_mem_nil
  have hclearHost : ¬behindHost.IsHidden := not_isHidden_of_notMem List.not_mem_nil
  exact ⟨hfile, ⟨behindUser, rfl, rfl, huser.mp (hmarks hinfo)⟩,
    ⟨inQuery, rfl, rfl, mt hquery.mpr hclearQuery⟩,
    behindHost, rfl, rfl, mt hhost.mpr hclearHost⟩

/-- In keys and values and in a query, two passwords are masked to two texts. -/
theorem mask_shows_password_of_keys_and_query :
    let keys (password : String) := "host=db user=app password=" ++ password
    let query (password : String) := "postgres://app@db/main?password=" ++ password
    (∀ password ∈ ["hunter2", "swordfish"],
      ConnInfo.GivesPassword (keys password).toList password.toList ∧
        ConnInfo.GivesPassword (query password).toList password.toList) ∧
      Masking.mask (keys "hunter2") ≠ Masking.mask (keys "swordfish") ∧
      Masking.mask (query "hunter2") ≠ Masking.mask (query "swordfish") := by
  refine ⟨?_, by decide, by decide⟩
  intro password hmem
  fin_cases hmem <;> exact ⟨⟨_, rfl, rfl⟩, _, rfl, rfl⟩

end PasswordPlace

end Schemata
