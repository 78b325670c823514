import Mathlib.Data.List.TakeWhile
import Mathlib.Tactic.FinCases
import Schemata.ConnInfo.Parse

/-!
# Reading connection URLs, part by part

A connection string is a URL if it begins with a scheme (`parse_of_mem_schemes`) and not if it
begins with a key.  What the user information of a URL says counts only where the rest is silent,
and the rest is read without it (`Url.parse_credentials`).  A query is read after all that stands
before it (`Url.parse_query`).
-/

namespace Schemata.ConnInfo

/-! ## Readings that succeed -/

section

variable {ε α β : Type} {value : Except ε α} {found : β}

theorem bind_eq_ok_iff {next : α → Except ε β} :
    value.bind next = .ok found ↔ ∃ read, value = .ok read ∧ next read = .ok found := by
  cases value <;> simp [Except.bind]

theorem map_eq_ok_iff {next : α → β} :
    value.map next = .ok found ↔ ∃ read, value = .ok read ∧ next read = found := by
  cases value <;> simp [Except.map]

end

/-! ## Which strings are URLs -/

theorem parse_of_mem_schemes {scheme : String} (h : scheme ∈ Url.schemes) (text : List Char) :
    parse (String.ofList (scheme.toList ++ text)) = Url.parse text := by
  have hafter : Url.afterScheme? (scheme.toList ++ text) = some text := by
    rw [Url.schemes, List.mem_pair] at h
    rcases h with rfl | rfl <;> rfl
  rw [parse, String.toList_ofList, hafter]

/-- A string that begins with a key is not a URL. -/
theorem Url.afterScheme?_of_mem_keys {key : List Char} (h : String.ofList key ∈ keys)
    (rest : List Char) : Url.afterScheme? (key ++ '=' :: rest) = none := by
  have hkeys : ∀ name ∈ keys, Url.afterScheme? (name.toList ++ '=' :: rest) = none := by
    intro name hname
    rw [keys] at hname
    fin_cases hname <;> rfl
  simpa using hkeys _ h

/-! ## Credentials -/

/-- The parameters with a user and a password for where they name none. -/
def withCredentials (info : ConnInfo) (user : Option String) (password : Option (List UInt8)) :
    ConnInfo :=
  { info with user := info.user <|> user, password := info.password <|> password }

/-- A step of the reading that neither depends on the user and the password nor takes them away. -/
def KeepsCredentials (step : ConnInfo → Except Defect ConnInfo) : Prop :=
  ∀ info user password,
    step (info.withCredentials user password) =
      (step info).map (·.withCredentials user password)

namespace KeepsCredentials

variable {first second : ConnInfo → Except Defect ConnInfo}

theorem ok : KeepsCredentials .ok :=
  fun _ _ _ => rfl

theorem error (defect : Defect) : KeepsCredentials fun _ => .error defect :=
  fun _ _ _ => rfl

theorem bind (hfirst : KeepsCredentials first) (hsecond : KeepsCredentials second) :
    KeepsCredentials fun info => (first info).bind second := by
  intro info user password
  simp only [hfirst info user password]
  cases first info with
  | error defect => rfl
  | ok found => exact hsecond found user password

/-- A value that is read beside the parameters. -/
theorem read {α : Type} {step : α → ConnInfo → Except Defect ConnInfo}
    (value : Except Defect α) (h : ∀ value, KeepsCredentials (step value)) :
    KeepsCredentials fun info => value.bind fun value => step value info := by
  cases value with
  | error defect => exact error defect
  | ok value => exact h value

theorem foldlM {α : Type} {step : ConnInfo → α → Except Defect ConnInfo}
    (h : ∀ value, KeepsCredentials (step · value)) (values : List α) :
    KeepsCredentials fun info => values.foldlM step info := by
  induction values with
  | nil => exact ok
  | cons value values ih => exact (h value).bind ih

end KeepsCredentials

theorem update?_withCredentials (info : ConnInfo) (key : String) (value : List Char)
    (user : Option String) (password : Option (List UInt8)) :
    (info.withCredentials user password).update? key value =
      (info.update? key value).map (·.withCredentials user password) := by
  unfold update?
  split <;> simp [withCredentials, Function.comp_def]

theorem assign_keepsCredentials (key : String) (value : List Char) :
    KeepsCredentials (·.assign key value) := by
  intro info user password
  simp only [assign, update?_withCredentials]
  split
  · cases info.update? key value <;> rfl
  · rfl

namespace Url

theorem addHost_keepsCredentials (part : List Char) : KeepsCredentials (addHost · part) := by
  intro info user password
  unfold addHost
  dsimp only
  split
  · rfl
  · cases decode part <;> rfl

theorem addServer_keepsCredentials (part : List Char) : KeepsCredentials (addServer · part) := by
  apply KeepsCredentials.read (hostPort part)
  intro found
  apply (addHost_keepsCredentials found.1).bind
  apply KeepsCredentials.read (decode found.2)
  intro port
  exact assign_keepsCredentials "port" port

theorem addServers_keepsCredentials (part : List Char) : KeepsCredentials (addServers · part) := by
  unfold addServers
  split
  · exact .ok
  · exact .foldlM addServer_keepsCredentials _

theorem setDatabase_keepsCredentials (part : List Char) :
    KeepsCredentials (setDatabase · part) := by
  intro info user password
  unfold setDatabase
  split
  · rfl
  · cases decode part <;> rfl

theorem assignDecoded_keepsCredentials (key value : List Char) :
    KeepsCredentials (assignDecoded · key value) := by
  apply KeepsCredentials.read (decode key)
  intro found
  by_cases hkey : String.ofList found = "host"
  · simp only [hkey, if_true]
    exact addHost_keepsCredentials value
  · simp only [hkey, if_false]
    apply KeepsCredentials.read (decode value)
    intro text
    exact assign_keepsCredentials (String.ofList found) text

theorem assignQuery_keepsCredentials (fuel : Nat) (text : List Char) :
    KeepsCredentials (assignQuery fuel text ·) := by
  induction fuel generalizing text with
  | zero => exact .ok
  | succ fuel ih =>
    unfold assignQuery
    split
    · exact .ok
    · split
      · exact .error _
      · exact (assignDecoded_keepsCredentials _ _).bind (ih _)

theorem pathAndQuery_keepsCredentials (text : List Char) :
    KeepsCredentials (pathAndQuery · text) := by
  unfold pathAndQuery
  split
  · exact (setDatabase_keepsCredentials _).bind (assignQuery_keepsCredentials _ _)
  · exact assignQuery_keepsCredentials _ _
  · exact .ok

/-- Reads what follows the user information. -/
def afterCredentials (info : ConnInfo) (text : List Char) : Except Defect ConnInfo :=
  let inServers := fun c => c ≠ '/' && c ≠ '?'
  (addServers info (text.takeWhile inServers)).bind (pathAndQuery · (text.dropWhile inServers))

theorem afterCredentials_keepsCredentials (text : List Char) :
    KeepsCredentials (afterCredentials · text) :=
  (addServers_keepsCredentials _).bind (pathAndQuery_keepsCredentials _)

/-! ## Cuts -/

theorem forall_ne_of_notMem {c : Char} {text : List Char} (h : c ∉ text) :
    ∀ x ∈ text, decide (x ≠ c) = true := by
  intro x hmem
  rw [decide_eq_true_eq]
  rintro rfl
  exact h hmem

theorem cut_append {c : Char} {front : List Char} (back : List Char) (h : c ∉ front) :
    cut c (front ++ c :: back) = (front, some back) := by
  have hfront := forall_ne_of_notMem h
  rw [cut, List.takeWhile_append_of_pos hfront, List.dropWhile_append_of_pos hfront]
  simp

theorem cut_of_notMem {c : Char} {text : List Char} (h : c ∉ text) : cut c text = (text, none) := by
  have htext := forall_ne_of_notMem h
  rw [cut, List.takeWhile_eq_self_iff.mpr htext, List.dropWhile_eq_nil_iff.mpr htext]

/-- A text that is cut within its second half keeps the first. -/
theorem cut_append_of_notMem {c : Char} {front : List Char} (back : List Char) (h : c ∉ front) :
    cut c (front ++ back) = (front ++ (cut c back).1, (cut c back).2) := by
  have hfront := forall_ne_of_notMem h
  simp only [cut, List.takeWhile_append_of_pos hfront, List.dropWhile_append_of_pos hfront]
  cases back.dropWhile (· ≠ c) <;> rfl

theorem of_cut_eq_some {c : Char} {text front back : List Char}
    (h : cut c text = (front, some back)) : text = front ++ c :: back := by
  by_cases hmem : c ∈ text
  · obtain ⟨before, after, rfl, hbefore⟩ := List.eq_append_cons_of_mem hmem
    rw [cut_append after hbefore] at h
    cases h
    rfl
  · rw [cut_of_notMem hmem] at h
    cases h

theorem length_cut_le (c : Char) (text : List Char) :
    ((cut c text).2.getD []).length ≤ text.length := by
  cases hcut : cut c text with
  | mk front back =>
    cases back with
    | none => exact Nat.zero_le _
    | some back =>
      rw [of_cut_eq_some hcut, Option.getD_some, List.length_append, List.length_cons]
      omega

theorem assignQuery_nil (fuel : Nat) (info : ConnInfo) : assignQuery fuel [] info = .ok info := by
  cases fuel <;> rfl

theorem assignQuery_cons {text key rest : List Char} (hcut : cut '=' text = (key, some rest))
    (fuel : Nat) (info : ConnInfo) :
    assignQuery (fuel + 1) text info =
      (assignDecoded info key (cut '&' rest).1).bind
        (assignQuery fuel ((cut '&' rest).2.getD [])) := by
  have htext : text ≠ [] := by
    rintro rfl
    cases hcut
  rw [assignQuery, if_neg htext, hcut]

/-- Each parameter takes characters off a query, so any fuel that is enough gives the same. -/
theorem assignQuery_fuel {fuel other : Nat} {text : List Char} (hfuel : text.length ≤ fuel)
    (hother : text.length ≤ other) (info : ConnInfo) :
    assignQuery fuel text info = assignQuery other text info := by
  induction fuel generalizing other text info with
  | zero =>
    obtain rfl : text = [] := List.length_eq_zero_iff.mp (Nat.le_zero.mp hfuel)
    rw [assignQuery_nil, assignQuery_nil]
  | succ fuel ih =>
    cases other with
    | zero =>
      obtain rfl : text = [] := List.length_eq_zero_iff.mp (Nat.le_zero.mp hother)
      rw [assignQuery_nil, assignQuery_nil]
    | succ other =>
      cases hcut : cut '=' text with
      | mk key value =>
        cases value with
        | none => simp only [assignQuery, hcut]
        | some rest =>
          have hrest := length_cut_le '&' rest
          have htext : text.length = key.length + (rest.length + 1) := by
            rw [of_cut_eq_some hcut, List.length_append, List.length_cons]
          rw [assignQuery_cons hcut, assignQuery_cons hcut]
          congr 1
          funext found
          apply ih
          · omega
          · omega

/-! ## What a URL comes to -/

theorem credentials_append {part : List Char} (rest : List Char) (h : '@' ∉ part) :
    credentials {} (part ++ '@' :: rest) =
      (decode (cut ':' part).1).map fun user =>
        (({} : ConnInfo).withCredentials (some (String.ofList user))
          ((cut ':' part).2.map Text.Percent.decode), rest) := by
  rw [credentials, cut_append rest h]
  dsimp only
  cases cut ':' part with
  | mk user password =>
    dsimp only
    cases decode user with
    | error defect => rfl
    | ok text => cases password <;> rfl

theorem parse_eq (text : List Char) :
    parse text = (credentials {} text).bind fun found => afterCredentials found.1 found.2 :=
  rfl

/-- What follows the at sign is read by itself; its user and its password come first, and those
before the at sign are for where it has none. -/
theorem parse_credentials {part : List Char} (rest : List Char) (h : '@' ∉ part) :
    parse (part ++ '@' :: rest) =
      (decode (cut ':' part).1).bind fun user =>
        (afterCredentials {} rest).map
          (·.withCredentials (some (String.ofList user))
            ((cut ':' part).2.map Text.Percent.decode)) := by
  rw [parse_eq, credentials_append rest h]
  cases decode (cut ':' part).1 with
  | error defect => rfl
  | ok user => exact afterCredentials_keepsCredentials rest {} _ _

/-- A text before the at sign with no colon in front of it has no part in the password. -/
theorem exists_password {front last : List Char} (hcolon : ':' ∉ front) (hfront : '@' ∉ front)
    (hlast : '@' ∉ last) (rest : List Char) :
    ∃ password, ∀ text, ':' ∉ text → '@' ∉ text → ∀ info,
      parse (front ++ text ++ last ++ '@' :: rest) = .ok info → info.password = password := by
  refine ⟨(afterCredentials {} rest).toOption.bind (·.password) <|>
    (cut ':' last).2.map Text.Percent.decode, ?_⟩
  intro text htext hat info hinfo
  have hpart : '@' ∉ front ++ text ++ last := by simp [hfront, hat, hlast]
  have hname : ':' ∉ front ++ text := by simp [hcolon, htext]
  rw [parse_credentials rest hpart, cut_append_of_notMem last hname] at hinfo
  obtain ⟨user, -, hafter⟩ := bind_eq_ok_iff.mp hinfo
  obtain ⟨found, hfound, rfl⟩ := map_eq_ok_iff.mp hafter
  rw [hfound]
  rfl

theorem parse_of_notMem {text : List Char} (h : '@' ∉ text) :
    parse text = afterCredentials {} text := by
  rw [parse_eq, credentials, cut_of_notMem h]
  rfl

section

variable {p : Char → Bool} {c : Char} (hc : p c = false)
include hc

theorem takeWhile_append_stop (front back : List Char) :
    (front ++ c :: back).takeWhile p = front.takeWhile p := by
  induction front with
  | nil => simp [hc]
  | cons first front ih => simp [List.takeWhile_cons, ih]

theorem dropWhile_append_stop (front back : List Char) :
    (front ++ c :: back).dropWhile p = front.dropWhile p ++ c :: back := by
  induction front with
  | nil => simp [hc]
  | cons first front ih =>
    simp only [List.cons_append, List.dropWhile_cons, ih]
    split <;> rfl

end

/-- Where there is a query, it is read after the database. -/
theorem pathAndQuery_append {path : List Char} (query : List Char) (info : ConnInfo)
    (h : '?' ∉ path) (hpath : path = [] ∨ path.head? = some '/') :
    pathAndQuery info (path ++ '?' :: query) =
      (pathAndQuery info path).bind (assignQuery query.length query) := by
  cases path with
  | nil => rfl
  | cons first database =>
    obtain rfl : first = '/' := by simpa using hpath
    have hdatabase : '?' ∉ database := fun hmem => h (List.mem_cons_of_mem _ hmem)
    simp only [List.cons_append, pathAndQuery, cut_append query hdatabase,
      cut_of_notMem hdatabase]
    change (setDatabase info database).bind _ = ((setDatabase info database).bind _).bind _
    cases setDatabase info database with
    | error defect => rfl
    | ok found =>
      have hlength : query.length ≤ (database ++ '?' :: query).length := by simp; omega
      change assignQuery (database ++ '?' :: query).length query found =
        (assignQuery database.length [] found).bind _
      rw [assignQuery_nil]
      exact assignQuery_fuel hlength le_rfl found

theorem afterCredentials_append {text : List Char} (query : List Char) (info : ConnInfo)
    (h : '?' ∉ text) :
    afterCredentials info (text ++ '?' :: query) =
      (afterCredentials info text).bind (assignQuery query.length query) := by
  let inServers : Char → Bool := fun c => c ≠ '/' && c ≠ '?'
  have hstop : inServers '?' = false := rfl
  have hpath : text.dropWhile inServers = [] ∨ (text.dropWhile inServers).head? = some '/' := by
    cases hdrop : text.dropWhile inServers with
    | nil => exact .inl rfl
    | cons first path =>
      have hmem : first ∈ text := (List.dropWhile_sublist inServers).subset (by simp [hdrop])
      have hfirst : inServers first = false := by
        have hhead := List.head_dropWhile_not inServers (l := text) (by simp [hdrop])
        simpa [hdrop] using hhead
      have hne : first ≠ '?' := fun heq => h (heq ▸ hmem)
      right
      simpa [inServers, hne] using hfirst
  have hquery : '?' ∉ text.dropWhile inServers :=
    fun hmem => h ((List.dropWhile_sublist inServers).subset hmem)
  have hafter (text : List Char) : afterCredentials info text =
      (addServers info (text.takeWhile inServers)).bind
        (pathAndQuery · (text.dropWhile inServers)) := rfl
  rw [hafter, hafter, takeWhile_append_stop hstop, dropWhile_append_stop hstop]
  cases addServers info (text.takeWhile inServers) with
  | error defect => rfl
  | ok found => exact pathAndQuery_append query found hquery hpath

/-- A query is read after all that stands before it, provided that no at sign in it makes that
the user information. -/
theorem parse_query {text query : List Char} (h : '?' ∉ text) (hat : '@' ∈ text ∨ '@' ∉ query) :
    parse (text ++ '?' :: query) = (parse text).bind (assignQuery query.length query) := by
  by_cases hmem : '@' ∈ text
  · obtain ⟨part, rest, rfl, hpart⟩ := List.eq_append_cons_of_mem hmem
    have hrest : '?' ∉ rest := by simp_all
    have happend : part ++ '@' :: rest ++ '?' :: query = part ++ '@' :: (rest ++ '?' :: query) := by
      simp
    rw [happend, parse_credentials _ hpart, parse_credentials _ hpart,
      afterCredentials_append query {} hrest]
    cases decode (cut ':' part).1 with
    | error defect => rfl
    | ok user =>
      cases afterCredentials {} rest with
      | error defect => rfl
      | ok found => exact (assignQuery_keepsCredentials _ query found _ _).symm
  · have hquery : '@' ∉ text ++ '?' :: query := by
      simp [hmem, hat.resolve_left hmem]
    rw [parse_of_notMem hquery, parse_of_notMem hmem, afterCredentials_append query {} h]

end Url

end Schemata.ConnInfo
