import Schemata.CommandLine

/-!
# Spellings of a command

A command can be spelled in many ways: its options in any order, on either side of the name of the
schema, and the database URL before or after the subcommand.  A name that starts with a hyphen
would be taken for an option, so it comes last, after `--`.  `Spells` lists these ways, without
regard to how arguments are read, and all of them are read as the command that they spell
(`parse_spelling`).
-/

namespace Schemata

namespace CommandLine

/-- An option with its value, or the one option that has none. -/
inductive Flag where
  | valued (option : Opt) (value : String)
  | cascade
deriving DecidableEq, Repr

namespace Flag

def name : Flag → String
  | .valued option _ => option.name
  | .cascade => "cascade"

def value? : Flag → Option String
  | .valued _ value => some value
  | .cascade => none

/-- The argument that gives the option. -/
def text : Flag → String
  | .valued option value => "--" ++ option.name ++ "=" ++ value
  | .cascade => "--cascade"

/-- The option is known where it stands. -/
def IsKnownAt (position : Position) : Flag → Prop
  | .valued option _ => option ∈ position.options
  | .cascade => position = .inner .drop

end Flag

/-- The option with its value, if there is one. -/
def flagsFor (option : Opt) (value? : Option String) : List Flag :=
  (value?.map (.valued option)).toList

end CommandLine

open CommandLine

namespace Command

def subcommand : Command → Subcommand
  | .create .. => .create
  | .read _ => .read
  | .update .. => .update
  | .drop .. => .drop
  | .adopt _ => .adopt

/-- The name of the schema that a command is about. -/
def name : Command → String
  | .create name _ => name
  | .read name => name
  | .update name _ _ => name
  | .drop name _ => name
  | .adopt name => name

/-- The options that say what is wanted beside the name. -/
def flags : Command → List Flag
  | .create _ owner => flagsFor .owner owner
  | .read _ => []
  | .update _ renameTo owner => flagsFor .renameTo renameTo ++ flagsFor .owner owner
  | .drop _ .restrict => []
  | .drop _ .cascade => [.cascade]
  | .adopt _ => []

end Command

namespace CommandLine

/-- The arguments spell the command with the database URL. -/
inductive Spells (command : Command) (url : Option String) : List String → Prop
  /-- The options stand on either side of a name that cannot be taken for one. -/
  | around {outer inner before after : List Flag}
      (hurl : outer ++ inner = flagsFor .databaseUrl url)
      (hflags : (before ++ after).Perm (command.flags ++ inner))
      (hname : command.name.toList.head? ≠ some '-') :
    Spells command url (outer.map Flag.text ++ command.subcommand.name ::
      (before.map Flag.text ++ command.name :: after.map Flag.text))
  /-- The name comes after `--`, and all options before it. -/
  | escaped {outer inner flags : List Flag}
      (hurl : outer ++ inner = flagsFor .databaseUrl url)
      (hflags : flags.Perm (command.flags ++ inner)) :
    Spells command url (outer.map Flag.text ++ command.subcommand.name ::
      (flags.map Flag.text ++ ["--", command.name]))

/-! ## What arguments look like -/

theorem shape_long {name : String} (value : String) (hname : ∀ c ∈ name.toList, c ≠ '=') :
    shape ("--" ++ name ++ "=" ++ value) = .long name (some value) := by
  have htext : ("--" ++ name ++ "=" ++ value).toList =
      '-' :: '-' :: (name.toList ++ '=' :: value.toList) := by
    simp [String.toList_append]
  have htake : (name.toList ++ '=' :: value.toList).takeWhile (· ≠ '=') = name.toList := by
    rw [List.takeWhile_append_of_pos (by simpa using hname)]
    simp
  have hdrop : (name.toList ++ '=' :: value.toList).dropWhile (· ≠ '=') =
      '=' :: value.toList := by
    rw [List.dropWhile_append_of_pos (by simpa using hname)]
    simp
  rw [shape, htext]
  cases hchars : name.toList ++ '=' :: value.toList with
  | nil => simp at hchars
  | cons c rest =>
    rw [hchars] at htake hdrop
    simp only [htake, hdrop, String.ofList_toList]

theorem shape_text (flag : Flag) : shape flag.text = .long flag.name flag.value? := by
  cases flag with
  | valued option value =>
    apply shape_long
    cases option <;> simp [Opt.name]
  | cascade => rfl

theorem shape_of_head?_ne {argument : String} (h : argument.toList.head? ≠ some '-') :
    shape argument = .plain := by
  rw [shape]
  cases hchars : argument.toList with
  | nil => rfl
  | cons first rest =>
    have hfirst : first ≠ '-' := by
      intro heq
      exact h (by rw [hchars, heq, List.head?_cons])
    split <;> simp_all

theorem shape_subcommand (subcommand : Subcommand) : shape subcommand.name = .plain := by
  cases subcommand <;> rfl

theorem subcommand?_name (subcommand : Subcommand) :
    subcommand? subcommand.name = some subcommand := by
  cases subcommand <;> rfl

/-! ## Reading options -/

namespace Reading

variable {reading : Reading} {flags others : List Flag} {position : Position}

/-- The options that were read are the given ones, and all are settled. -/
structure Holds (reading : Reading) (flags : List Flag) : Prop where
  settled : reading.pending = none
  value?_iff : ∀ option value, reading.value? option = some value ↔ .valued option value ∈ flags
  cascade_iff : reading.cascade = true ↔ .cascade ∈ flags

theorem holds_empty : Holds {} [] where
  settled := rfl
  value?_iff _ _ := by simp [value?]
  cascade_iff := by simp

theorem Holds.congr (h : reading.Holds flags) (hsame : ∀ flag, flag ∈ others ↔ flag ∈ flags) :
    reading.Holds others where
  settled := h.settled
  value?_iff option value := by rw [h.value?_iff, hsame]
  cascade_iff := by rw [h.cascade_iff, hsame]

theorem Holds.named (h : reading.Holds flags) (name : String) :
    Holds { reading with name := some name } flags :=
  ⟨h.settled, h.value?_iff, h.cascade_iff⟩

theorem Holds.settle (h : reading.Holds flags) : reading.settle = .ok reading := by
  rw [Reading.settle, h.settled]

theorem Holds.awaited? (h : reading.Holds flags) : reading.awaited? = none := by
  rw [Reading.awaited?, h.settled]

theorem Holds.value?_eq {option : Opt} {value? : Option String} (h : reading.Holds flags)
    (hvalue : ∀ value, .valued option value ∈ flags ↔ value? = some value) :
    reading.value? option = value? := by
  ext value
  rw [h.value?_iff, hvalue]

/-- What was read, with one more option. -/
def add (reading : Reading) : Flag → Reading
  | .valued option value => { reading with given := (option, value) :: reading.given }
  | .cascade => { reading with cascade := true }

@[simp]
theorem add_name (reading : Reading) (flag : Flag) : (reading.add flag).name = reading.name := by
  cases flag <;> rfl

theorem value?_add_valued (reading : Reading) (option other : Opt) (value : String) :
    (reading.add (.valued option value)).value? other =
      if other = option then some value else reading.value? other := by
  simp only [add, value?, List.lookup_cons]
  by_cases hsame : other = option
  · simp [hsame]
  · simp [beq_eq_false_iff_ne.mpr hsame, hsame]

theorem Holds.add {flag : Flag} (h : reading.Holds flags)
    (hnew : flag.name ∉ flags.map Flag.name) : (reading.add flag).Holds (flag :: flags) := by
  cases flag with
  | valued option value =>
    have hnone (other : String) : .valued option other ∉ flags :=
      fun hmem => hnew (List.mem_map.mpr ⟨_, hmem, rfl⟩)
    refine ⟨h.settled, fun other wanted => ?_, ?_⟩
    · rw [value?_add_valued, List.mem_cons, Flag.valued.injEq]
      by_cases hsame : other = option
      · simp [hsame, hnone, eq_comm]
      · simp [hsame, h.value?_iff]
    · simpa [Reading.add] using h.cascade_iff
  | cascade =>
    refine ⟨h.settled, fun other wanted => ?_, ?_⟩
    · simpa [Reading.add, Reading.value?] using h.value?_iff other wanted
    · simp [Reading.add]

theorem option?_of_mem {option : Opt} (h : option ∈ position.options) :
    position.option? option.name = some option := by
  cases position with
  | outer => cases option <;> revert h <;> decide
  | inner subcommand => cases subcommand <;> cases option <;> revert h <;> decide

/-- An option that is known and new is taken. -/
theorem Holds.takeLong {flag : Flag} (h : reading.Holds flags) (hknown : flag.IsKnownAt position)
    (hnew : flag.name ∉ flags.map Flag.name) :
    reading.takeLong position flag.name flag.value? = .ok (reading.add flag) := by
  cases flag with
  | valued option value =>
    have hfree : reading.value? option = none := by
      rw [Option.eq_none_iff_forall_not_mem]
      intro other hother
      exact hnew (List.mem_map.mpr ⟨_, (h.value?_iff option other).mp hother, rfl⟩)
    simp only [Reading.takeLong, Flag.name, Flag.value?, option?_of_mem hknown, h.settle,
      Except.bind, give, hfree, Option.isSome_none]
    rfl
  | cascade =>
    obtain rfl : position = .inner .drop := hknown
    have hfree : reading.cascade = false := by
      rw [Bool.eq_false_iff]
      intro hcascade
      exact hnew (List.mem_map.mpr ⟨_, h.cascade_iff.mp hcascade, rfl⟩)
    have hoption : (Position.inner .drop).option? Flag.cascade.name = none := by decide
    simp only [Reading.takeLong, hoption, Flag.value?, h.settle, Except.bind, hfree]
    rfl

end Reading

variable {reading : Reading} {subcommand : Subcommand} {flags others seen : List Flag}
  {name : String}

/-- The subcommand can be given the options together: it knows each, and none comes twice. -/
structure Subcommand.Takes (subcommand : Subcommand) (flags : List Flag) : Prop where
  known : ∀ flag ∈ flags, flag.IsKnownAt (.inner subcommand)
  nodup : (flags.map Flag.name).Nodup

theorem Subcommand.Takes.perm (h : subcommand.Takes flags) (hperm : others.Perm flags) :
    subcommand.Takes others where
  known flag hmem := h.known flag (hperm.mem_iff.mp hmem)
  nodup := (hperm.map Flag.name).nodup_iff.mpr h.nodup

theorem Subcommand.Takes.of_append_left (h : subcommand.Takes (flags ++ others)) :
    subcommand.Takes flags where
  known flag hmem := h.known flag (List.mem_append_left others hmem)
  nodup := (List.nodup_append.mp (List.map_append ▸ h.nodup)).1

/-- Options that the subcommand can be given together are read one after the other. -/
theorem readInner_flags (htakes : subcommand.Takes (flags ++ seen)) (h : reading.Holds seen)
    (rest : List String) :
    ∃ next : Reading, next.name = reading.name ∧ next.Holds (flags ++ seen) ∧
      readInner subcommand false reading (flags.map Flag.text ++ rest) =
        readInner subcommand false next rest := by
  induction flags generalizing reading seen with
  | nil => exact ⟨reading, rfl, h, rfl⟩
  | cons flag flags ih =>
    have hmiddle : (flags ++ flag :: seen).Perm (flag :: flags ++ seen) := List.perm_middle
    have hknown : flag.IsKnownAt (.inner subcommand) := htakes.known flag List.mem_cons_self
    have hnew : flag.name ∉ seen.map Flag.name := by
      intro hmem
      have hnodup := htakes.nodup
      rw [List.cons_append, List.map_cons, List.nodup_cons, List.map_append] at hnodup
      exact hnodup.1 (List.mem_append_right _ hmem)
    obtain ⟨next, hname, hholds, hread⟩ := ih (htakes.perm hmiddle) (h.add hnew)
    refine ⟨next, hname.trans (reading.add_name flag), ?_, ?_⟩
    · exact hholds.congr fun other => hmiddle.mem_iff.symm
    · rw [List.map_cons, List.cons_append, readInner, shape_text]
      simp only [h.takeLong hknown hnew, Except.bind]
      exact hread

theorem readInner_name (h : reading.Holds seen) (hnone : reading.name = none)
    (hshape : shape name = .plain) (rest : List String) :
    readInner subcommand false reading (name :: rest) =
      readInner subcommand false { reading with name := some name } rest := by
  rw [readInner, hshape]
  simp only [Reading.takePlain, h.awaited?, Reading.takeName, hnone, h.settle]
  rfl

theorem readInner_escaped (h : reading.Holds seen) (hnone : reading.name = none) :
    readInner subcommand false reading ["--", name] =
      .ok { reading with name := some name } := by
  have hescape : shape "--" = .escape := rfl
  rw [readInner, hescape]
  simp only [readInner, Reading.takeName, hnone, h.settle]
  exact (h.named name).settle

/-! ## The command -/

section Flags

variable {command : Command} {option other : Opt} {value : String} {value? url : Option String}
  {flag : Flag}

@[simp]
theorem valued_mem_flagsFor :
    .valued other value ∈ flagsFor option value? ↔ other = option ∧ value? = some value := by
  cases value? <;> simp [flagsFor, eq_comm]

@[simp]
theorem cascade_notMem_flagsFor : .cascade ∉ flagsFor option value? := by
  simp [flagsFor]

theorem isKnownAt_of_mem_flagsFor {position : Position} (hknown : option ∈ position.options)
    (hmem : flag ∈ flagsFor option value?) : flag.IsKnownAt position := by
  cases flag with
  | valued other value => exact (valued_mem_flagsFor.mp hmem).1 ▸ hknown
  | cascade => exact absurd hmem cascade_notMem_flagsFor

theorem databaseUrl_mem_options (position : Position) : .databaseUrl ∈ position.options := by
  cases position with
  | outer => decide
  | inner subcommand => cases subcommand <;> decide

/-- The options of a command are known to its subcommand, and so is the database URL. -/
theorem isKnownAt_of_mem_flags (hmem : flag ∈ command.flags ++ flagsFor .databaseUrl url) :
    flag.IsKnownAt (.inner command.subcommand) := by
  rcases List.mem_append.mp hmem with hown | hurl
  · cases command with
    | create name owner =>
      have howner : .owner ∈ (Position.inner .create).options := by decide
      exact isKnownAt_of_mem_flagsFor howner hown
    | read name => exact absurd hown List.not_mem_nil
    | update name renameTo owner =>
      have hrenameTo : .renameTo ∈ (Position.inner .update).options := by decide
      have howner : .owner ∈ (Position.inner .update).options := by decide
      rcases List.mem_append.mp hown with hown | hown
      · exact isKnownAt_of_mem_flagsFor hrenameTo hown
      · exact isKnownAt_of_mem_flagsFor howner hown
    | drop name behavior =>
      cases behavior with
      | restrict => exact absurd hown List.not_mem_nil
      | cascade =>
        obtain rfl := List.mem_singleton.mp hown
        rfl
    | adopt name => exact absurd hown List.not_mem_nil
  · exact isKnownAt_of_mem_flagsFor (databaseUrl_mem_options _) hurl

theorem names_flagsFor_sublist (option : Opt) (value? : Option String) :
    ((flagsFor option value?).map Flag.name).Sublist [option.name] := by
  cases value? with
  | none => exact List.nil_sublist _
  | some value => exact List.Sublist.refl _

theorem names_flags_sublist (command : Command) :
    (command.flags.map Flag.name).Sublist ["rename-to", "owner", "cascade"] := by
  cases command with
  | create name owner =>
    exact (names_flagsFor_sublist .owner owner).trans (by decide)
  | read name => exact List.nil_sublist _
  | update name renameTo owner =>
    rw [Command.flags, List.map_append]
    exact ((names_flagsFor_sublist .renameTo renameTo).append
      (names_flagsFor_sublist .owner owner)).trans (by decide)
  | drop name behavior =>
    cases behavior with
    | restrict => exact List.nil_sublist _
    | cascade =>
      have hcascade : ["cascade"].Sublist ["rename-to", "owner", "cascade"] := by decide
      exact hcascade
  | adopt name => exact List.nil_sublist _

theorem takes_flags (command : Command) (url : Option String) :
    command.subcommand.Takes (command.flags ++ flagsFor .databaseUrl url) where
  known _ hmem := isKnownAt_of_mem_flags hmem
  nodup := by
    rw [List.map_append]
    exact ((names_flags_sublist command).append
      (names_flagsFor_sublist .databaseUrl url)).nodup (by decide)

theorem Reading.Holds.databaseUrl_eq
    (h : reading.Holds (command.flags ++ flagsFor .databaseUrl url)) :
    reading.value? .databaseUrl = url := by
  refine h.value?_eq fun value => ?_
  cases command with
  | drop name behavior => cases behavior <;> simp [Command.flags]
  | _ => simp [Command.flags]

theorem command_eq (hname : reading.name = some command.name)
    (h : reading.Holds (command.flags ++ flagsFor .databaseUrl url)) :
    CommandLine.command command.subcommand reading = .ok command := by
  rw [CommandLine.command, hname]
  cases command with
  | create name owner =>
    have howner : reading.value? .owner = owner := h.value?_eq (by simp [Command.flags])
    simp only [Command.subcommand, Command.name, howner]
  | read name => rfl
  | update name renameTo owner =>
    have hrename : reading.value? .renameTo = renameTo := h.value?_eq (by simp [Command.flags])
    have howner : reading.value? .owner = owner := h.value?_eq (by simp [Command.flags])
    simp only [Command.subcommand, Command.name, hrename, howner]
  | drop name behavior =>
    have hcascade := h.cascade_iff
    cases behavior <;> simp_all [Command.flags, Command.subcommand, Command.name]
  | adopt name => rfl

/-- The arguments of a subcommand, with the name among the options. -/
theorem readInner_around {before after : List Flag}
    (hflags : (before ++ after).Perm (command.flags ++ flagsFor .databaseUrl url))
    (hname : command.name.toList.head? ≠ some '-') :
    ∃ inner : Reading, inner.name = some command.name ∧
      inner.Holds (command.flags ++ flagsFor .databaseUrl url) ∧
      readInner command.subcommand false {}
        (before.map Flag.text ++ command.name :: after.map Flag.text) = .ok inner := by
  have hswapped : (after ++ before).Perm (command.flags ++ flagsFor .databaseUrl url) :=
    List.perm_append_comm.trans hflags
  have htakes := (takes_flags command url).perm hswapped
  have htakesBefore : command.subcommand.Takes (before ++ []) := by
    rw [List.append_nil]
    exact ((takes_flags command url).perm hflags).of_append_left
  obtain ⟨first, hfirstName, hfirst, hreadBefore⟩ :=
    readInner_flags htakesBefore Reading.holds_empty (command.name :: after.map Flag.text)
  rw [List.append_nil] at hfirst
  obtain ⟨last, hlastName, hlast, hreadAfter⟩ :=
    readInner_flags htakes (hfirst.named command.name) []
  refine ⟨last, hlastName, hlast.congr fun flag => hswapped.mem_iff.symm, ?_⟩
  rw [List.append_nil] at hreadAfter
  rw [hreadBefore, readInner_name hfirst hfirstName (shape_of_head?_ne hname), hreadAfter,
    readInner]
  exact hlast.settle

/-- The arguments of a subcommand, with the name after `--`. -/
theorem readInner_escaping
    (hflags : flags.Perm (command.flags ++ flagsFor .databaseUrl url)) :
    ∃ inner : Reading, inner.name = some command.name ∧
      inner.Holds (command.flags ++ flagsFor .databaseUrl url) ∧
      readInner command.subcommand false {} (flags.map Flag.text ++ ["--", command.name]) =
        .ok inner := by
  have htakes : command.subcommand.Takes (flags ++ []) := by
    rw [List.append_nil]
    exact (takes_flags command url).perm hflags
  obtain ⟨last, hname, hlast, hread⟩ :=
    readInner_flags htakes Reading.holds_empty ["--", command.name]
  rw [List.append_nil] at hlast
  refine ⟨{ last with name := some command.name }, rfl, ?_, ?_⟩
  · exact (hlast.congr fun flag => hflags.mem_iff.symm).named command.name
  · rw [hread, readInner_escaped hlast hname]

/-- The database URL stands on one side of the subcommand. -/
theorem exists_urls {outer inner : List Flag} (h : outer ++ inner = flagsFor .databaseUrl url) :
    ∃ outerUrl innerUrl : Option String, outer = flagsFor .databaseUrl outerUrl ∧
      inner = flagsFor .databaseUrl innerUrl ∧ (innerUrl <|> outerUrl) = url := by
  cases url with
  | none =>
    obtain ⟨houter, hinner⟩ := List.append_eq_nil_iff.mp h
    exact ⟨none, none, houter, hinner, rfl⟩
  | some text =>
    rcases List.append_eq_singleton_iff.mp h with ⟨houter, hinner⟩ | ⟨houter, hinner⟩
    · exact ⟨none, some text, houter, hinner, rfl⟩
    · exact ⟨some text, none, houter, hinner, rfl⟩

theorem readOuter_url (url : Option String) (rest : List String) :
    ∃ outer : Reading, outer.Holds (flagsFor .databaseUrl url) ∧
      readOuter {} ((flagsFor .databaseUrl url).map Flag.text ++ rest) = readOuter outer rest := by
  cases url with
  | none => exact ⟨{}, Reading.holds_empty, rfl⟩
  | some text =>
    have hnew : (Flag.valued .databaseUrl text).name ∉ ([] : List Flag).map Flag.name :=
      List.not_mem_nil
    have hknown : (Flag.valued .databaseUrl text).IsKnownAt .outer :=
      databaseUrl_mem_options .outer
    refine ⟨_, Reading.holds_empty.add hnew, ?_⟩
    change readOuter {} (Flag.text (.valued .databaseUrl text) :: rest) = _
    rw [readOuter.eq_def]
    simp only [shape_text, Reading.holds_empty.takeLong hknown hnew, Except.bind]

/-- A subcommand whose arguments are read as those of the command, after the database URL. -/
theorem parse_of_readInner {outerUrl innerUrl : Option String} {inner : Reading}
    {rest : List String} (hread : readInner command.subcommand false {} rest = .ok inner)
    (hname : inner.name = some command.name)
    (hinner : inner.Holds (command.flags ++ flagsFor .databaseUrl innerUrl))
    (environmentUrl : Option String) :
    parse environmentUrl
        ((flagsFor .databaseUrl outerUrl).map Flag.text ++ command.subcommand.name :: rest) =
      .ok { command, databaseUrl := (innerUrl <|> outerUrl) <|> environmentUrl } := by
  obtain ⟨outer, houter, hreadOuter⟩ :=
    readOuter_url outerUrl (command.subcommand.name :: rest)
  have houterUrl : outer.value? .databaseUrl = outerUrl := houter.value?_eq (by simp)
  have hline : readOuter outer (command.subcommand.name :: rest) =
      .ok { outer, inner := some (command, inner) } := by
    rw [readOuter.eq_def]
    simp only [shape_subcommand, subcommand?_name, houter.awaited?, hread, houter.settle, bind,
      Except.bind, command_eq hname hinner]
    rfl
  have hassoc : ((innerUrl <|> outerUrl) <|> environmentUrl) =
      (innerUrl <|> outerUrl <|> environmentUrl) := by
    cases innerUrl <;> rfl
  rw [parse, hreadOuter, hline, hassoc]
  simp only [bind, Except.bind, houterUrl, hinner.databaseUrl_eq]
  rfl

/-- Every command has a spelling, whatever its texts are. -/
theorem exists_spells (command : Command) (url : Option String) :
    ∃ arguments, Spells command url arguments :=
  ⟨_, .escaped (List.append_nil _) (List.Perm.of_eq (List.append_nil _).symm)⟩

/-- All that spells a command with its database URL is read as that command.  The URL is the one
of the environment if the arguments give none. -/
theorem parse_spelling {arguments : List String} (h : Spells command url arguments)
    (environmentUrl : Option String) :
    parse environmentUrl arguments =
      .ok { command, databaseUrl := url <|> environmentUrl } := by
  cases h with
  | around hurl hflags hname =>
    obtain ⟨outerUrl, innerUrl, rfl, rfl, rfl⟩ := exists_urls hurl
    obtain ⟨inner, hinnerName, hinner, hread⟩ := readInner_around hflags hname
    exact parse_of_readInner hread hinnerName hinner environmentUrl
  | escaped hurl hflags =>
    obtain ⟨outerUrl, innerUrl, rfl, rfl, rfl⟩ := exists_urls hurl
    obtain ⟨inner, hinnerName, hinner, hread⟩ := readInner_escaping hflags
    exact parse_of_readInner hread hinnerName hinner environmentUrl

theorem parse_spelling_of_misleading_texts :
    Spells (.update "help" (some "--owner=x") (some "")) (some "a=b")
      ["update", "--owner=", "help", "--database-url=a=b", "--rename-to=--owner=x"] ∧
    parse (some "c")
      ["update", "--owner=", "help", "--database-url=a=b", "--rename-to=--owner=x"] =
      .ok
        { command := .update "help" (some "--owner=x") (some "")
          databaseUrl := some "a=b" } := by
  have hurl : [] ++ flagsFor .databaseUrl (some "a=b") = flagsFor .databaseUrl (some "a=b") := rfl
  have hflags : ([.valued .owner ""] ++
      [.valued .databaseUrl "a=b", .valued .renameTo "--owner=x"] : List Flag).Perm
      ((Command.update "help" (some "--owner=x") (some "")).flags ++
        flagsFor .databaseUrl (some "a=b")) := by decide
  have hname : (Command.update "help" (some "--owner=x") (some "")).name.toList.head? ≠
      some '-' := by decide
  have hspells := Spells.around hurl hflags hname
  exact ⟨hspells, parse_spelling hspells (some "c")⟩

end Flags

end CommandLine

end Schemata
