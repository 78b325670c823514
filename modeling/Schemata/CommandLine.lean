import Schemata.Command

/-!
# Command lines

How arguments spell a command.  Options stand before or after the name of the schema,
their value in the next argument or after an equals sign; after `--` every argument is
taken literally.  The database URL may also stand before the command.  Arguments are
read from left to right, and the first thing wrong decides.
-/

namespace Schemata

/-- A command, and the database URL that it was given with. -/
structure Invocation where
  command : Command
  databaseUrl : Option String
deriving DecidableEq, Repr

namespace CommandLine

inductive Subcommand where
  | create
  | read
  | update
  | drop
  | adopt
deriving DecidableEq, Repr

def Subcommand.name : Subcommand → String
  | .create => "create"
  | .read => "read"
  | .update => "update"
  | .drop => "drop"
  | .adopt => "import"

def subcommands : List Subcommand := [.create, .read, .update, .drop, .adopt]

def subcommand? (name : String) : Option Subcommand :=
  subcommands.find? (·.name = name)

/-- The name of the subcommand that shows help. -/
def helpName : String := "help"

/-- The options that take a value. -/
inductive Opt where
  | databaseUrl
  | owner
  | renameTo
deriving DecidableEq, Repr

def Opt.name : Opt → String
  | .databaseUrl => "database-url"
  | .owner => "owner"
  | .renameTo => "rename-to"

/-- Where an argument stands: before the subcommand, or among its arguments. -/
inductive Position where
  | outer
  | inner (subcommand : Subcommand)
deriving DecidableEq, Repr

namespace Position

/-- The options with a value that a position knows. -/
def options : Position → List Opt
  | .outer => [.databaseUrl]
  | .inner .create => [.databaseUrl, .owner]
  | .inner .update => [.databaseUrl, .renameTo, .owner]
  | .inner _ => [.databaseUrl]

def option? (position : Position) (name : String) : Option Opt :=
  position.options.find? (·.name = name)

end Position

/-- What help can be shown about. -/
inductive Topic where
  | program
  | command (subcommand : Subcommand)
  | help
deriving DecidableEq, Repr

def Position.topic : Position → Topic
  | .outer => .program
  | .inner subcommand => .command subcommand

/-- Why arguments give no invocation. -/
inductive Stop where
  | showHelp (topic : Topic)
  | showVersion
  | nothingGiven
  | noSubcommand
  | unknownSubcommand
  | unknownArgument
  | missingValue
  | repeatedArgument
  | surplusValue
  | missingName
deriving DecidableEq, Repr

/-- Help and version that were asked for are no failure. -/
def Stop.exitCode : Stop → Nat
  | .showHelp _ => 0
  | .showVersion => 0
  | _ => 2

/-- What an argument looks like, taken by itself. -/
inductive Shape where
  /-- The argument `--`, after which all are literal. -/
  | escape
  /-- A name after two hyphens, perhaps with a value after an equals sign. -/
  | long (name : String) (value : Option String)
  /-- A letter after one hyphen; what follows it does not matter. -/
  | short (letter : Char)
  | plain
deriving DecidableEq, Repr

def shape (argument : String) : Shape :=
  match argument.toList with
  | ['-', '-'] => .escape
  | '-' :: '-' :: text =>
    let name := String.ofList (text.takeWhile (· ≠ '='))
    match text.dropWhile (· ≠ '=') with
    | [] => .long name none
    | _ :: value => .long name (some (String.ofList value))
  | '-' :: letter :: _ => .short letter
  | _ => .plain

/-- What was read at one position so far. -/
structure Reading where
  given : List (Opt × String) := []
  cascade : Bool := false
  name : Option String := none
  /-- The last option, until it is settled: its value is not there yet, or was not
  checked against an earlier one. -/
  pending : Option (Opt × Option String) := none
deriving DecidableEq, Repr

namespace Reading

def value? (reading : Reading) (option : Opt) : Option String :=
  reading.given.lookup option

/-- Gives an option its value, which it may have only once. -/
def give (reading : Reading) (option : Opt) (value : String) : Except Stop Reading :=
  if (reading.value? option).isSome then .error .repeatedArgument
  else .ok { reading with given := (option, value) :: reading.given }

/-- Settles the last option. -/
def settle (reading : Reading) : Except Stop Reading :=
  match reading.pending with
  | none => .ok reading
  | some (_, none) => .error .missingValue
  | some (option, some value) => give { reading with pending := none } option value

/-- Asks for help or the version, once all before it is settled. -/
def stop (reading : Reading) (stop : Stop) : Except Stop Reading :=
  reading.settle.bind fun _ => .error stop

/-- Takes an argument of the form `--name` or `--name=value`. -/
def takeLong (reading : Reading) (position : Position) (name : String) (value : Option String) :
    Except Stop Reading :=
  match position.option? name, value with
  | some option, some value => reading.settle.bind (·.give option value)
  | some option, none =>
    reading.settle.map fun reading => { reading with pending := some (option, none) }
  | none, _ =>
    if name = "help" then
      if value.isSome then .error .surplusValue else reading.stop (.showHelp position.topic)
    else if name = "version" ∧ position = .outer then
      if value.isSome then .error .surplusValue else reading.stop .showVersion
    else if name = "cascade" ∧ position = .inner .drop then
      if value.isSome then .error .surplusValue
      else
        reading.settle.bind fun reading =>
          if reading.cascade then .error .repeatedArgument
          else .ok { reading with cascade := true }
    else .error .unknownArgument

/-- Takes an argument of one hyphen and letters. -/
def takeShort (reading : Reading) (position : Position) (letter : Char) : Except Stop Reading :=
  if letter = 'h' then reading.stop (.showHelp position.topic)
  else if letter = 'V' ∧ position = .outer then reading.stop .showVersion
  else .error .unknownArgument

/-- Takes the name of the schema; there is only one. -/
def takeName (reading : Reading) (name : String) : Except Stop Reading :=
  if reading.name.isSome then .error .unknownArgument
  else reading.settle.map fun reading => { reading with name := some name }

/-- The option whose value the next plain argument is. -/
def awaited? (reading : Reading) : Option Opt :=
  match reading.pending with
  | some (option, none) => some option
  | _ => none

/-- Takes an argument that is no option. -/
def takePlain (reading : Reading) (argument : String) : Except Stop Reading :=
  match reading.awaited? with
  | some option => .ok { reading with pending := some (option, some argument) }
  | none => reading.takeName argument

end Reading

/-- Reads the arguments of a subcommand.  All are literal if `literal` is true. -/
def readInner (subcommand : Subcommand) : Bool → Reading → List String → Except Stop Reading
  | _, reading, [] => reading.settle
  | true, reading, argument :: rest =>
    (reading.takeName argument).bind fun reading => readInner subcommand true reading rest
  | false, reading, argument :: rest =>
    match shape argument with
    | .escape => readInner subcommand true reading rest
    | .long name value =>
      (reading.takeLong (.inner subcommand) name value).bind fun reading =>
        readInner subcommand false reading rest
    | .short letter =>
      (reading.takeShort (.inner subcommand) letter).bind fun reading =>
        readInner subcommand false reading rest
    | .plain =>
      (reading.takePlain argument).bind fun reading => readInner subcommand false reading rest

/-- The command that a subcommand and its arguments come to. -/
def command (subcommand : Subcommand) (reading : Reading) : Except Stop Command :=
  match reading.name with
  | none => .error .missingName
  | some name => .ok <| match subcommand with
    | .create => .create name (reading.value? .owner)
    | .read => .read name
    | .update => .update name (reading.value? .renameTo) (reading.value? .owner)
    | .drop => .drop name (if reading.cascade then .cascade else .restrict)
    | .adopt => .adopt name

/-- What `help` shows with the given arguments. -/
def helpTopic : List String → Stop
  | [] => .showHelp .program
  | [name] =>
    if name = helpName then .showHelp .help
    else match subcommand? name with
      | some subcommand => .showHelp (.command subcommand)
      | none => .unknownSubcommand
  | _ => .unknownSubcommand

/-- What was read before the subcommand, and the subcommand with its own reading. -/
structure Line where
  outer : Reading
  inner : Option (Command × Reading)

/-- Reads the arguments from the start.  After `--` no subcommand can follow. -/
def readOuter (reading : Reading) : List String → Except Stop Line
  | [] => reading.settle.map fun outer => { outer, inner := none }
  | argument :: rest =>
    match shape argument with
    | .escape =>
      match rest with
      | [] => reading.settle.map fun outer => { outer, inner := none }
      | literal :: _ =>
        if literal = helpName ∨ (subcommand? literal).isSome then .error .unknownArgument
        else .error .unknownSubcommand
    | .long name value =>
      (reading.takeLong .outer name value).bind fun reading => readOuter reading rest
    | .short letter =>
      (reading.takeShort .outer letter).bind fun reading => readOuter reading rest
    | .plain =>
      match reading.awaited?, subcommand? argument with
      | some option, _ => readOuter { reading with pending := some (option, some argument) } rest
      | none, some subcommand => do
        let inner ← readInner subcommand false {} rest
        let command ← command subcommand inner
        let outer ← reading.settle
        return { outer, inner := some (command, inner) }
      | none, none =>
        .error (if argument = helpName then helpTopic rest else .unknownSubcommand)

/-- Reads a command line.  The database URL next to the subcommand wins over the one
before it, and both over the environment. -/
def parse (environmentUrl : Option String) (arguments : List String) :
    Except Stop Invocation := do
  let line ← readOuter {} arguments
  let outerUrl := line.outer.value? .databaseUrl
  match line.inner with
  | some (command, inner) =>
    return { command, databaseUrl := inner.value? .databaseUrl <|> outerUrl <|> environmentUrl }
  | none => .error (if outerUrl = none ∧ environmentUrl = none then .nothingGiven else .noSubcommand)

end CommandLine

end Schemata
