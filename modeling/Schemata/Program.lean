import Schemata.CommandLine.Help
import Schemata.EnvFile
import Schemata.Log
import Schemata.Masking
import Schemata.Settings.Load
import Schemata.Wire.Client

/-!
# The program

From arguments to exit code: the environment is completed from the nearest `.env`
file, the arguments are read, settings are loaded, and the command is carried out
over a connection.
-/

namespace Schemata

/-- Where the program runs. -/
structure Surroundings where
  tree : FileTree
  /-- The working directory. -/
  directory : Path
  environment : Environment := []
  network : Network

namespace Program

open Text.Terminal (bold dimmed)

/-- Why an invocation fails. -/
inductive Failure where
  | settings (error : SettingsError)
  | command (error : CommandError)
deriving DecidableEq, Repr

def Failure.message : Failure → String
  | .settings error => error.message
  | .command error => error.message

/-- What came of an invocation. -/
structure Outcome where
  result : Except Failure Resource
  events : List Event
  backend : Wire.Backend

/-- The settings that hold for an invocation, with what is logged about them.  A database
URL that was given replaces the one in the file. -/
def settings (place : Surroundings) (databaseUrl : Option String) :
    Except SettingsError (Settings × List Event) :=
  (Settings.loadOrDefault place.tree place.directory).map fun (settings, path) =>
    let loaded := path.map fun path => Event.settingsLoaded (place.tree.pathText path)
    let used := databaseUrl.map fun url => Event.databaseUrlUsed (Masking.mask url)
    ({ settings with url := databaseUrl <|> settings.url }, loaded.toList ++ used.toList)

/-- Carries an invocation out.  A server, where the network has one, answers as
`backend` says. -/
def run (place : Surroundings) (backend : Wire.Backend) (invocation : Invocation) : Outcome :=
  match settings place invocation.databaseUrl with
  | .error error => { result := .error (.settings error), events := [], backend }
  | .ok (settings, events) =>
    match settings.connInfo with
    | .error error => { result := .error (.settings error), events, backend }
    | .ok info =>
      let client : Wire.Client := { info, network := place.network }
      let run := invocation.command.run client.server { backend }
      { result := run.result.mapError Failure.command
        events := events ++ run.events
        backend := run.state.backend }

/-! ## Output -/

/-- What is printed about a resource. -/
def display (resource : Resource) : List String :=
  match resource.record with
  | some record => [bold "name" ++ ": " ++ record.name, bold "owner" ++ ": " ++ record.owner]
  | none => [dimmed "absent"]

/-- What is printed about an outcome. -/
def Outcome.display (outcome : Outcome) : List String :=
  match outcome.result with
  | .ok resource => Program.display resource
  | .error _ => []

/-! ## The whole program -/

/-- What is seen of the program from outside.  The wording of a usage error is left to
the outer layer. -/
structure Execution where
  exitCode : Nat
  /-- The text on the standard output. -/
  output : String
  /-- The lines on the standard error. -/
  messages : List String
  backend : Wire.Backend

/-- The file that completes the environment. -/
def environmentFile : Path := [".env"]

/-- The environment, completed from the nearest file if it can be read. -/
def environment (place : Surroundings) : Environment :=
  match place.tree.nearest? environmentFile place.directory with
  | some { content := .ok bytes, .. } => EnvFile.apply place.environment bytes
  | _ => place.environment

/-- What is said about an outcome: its log, and its failure last. -/
def Outcome.messages (filter : Log.Filter) (outcome : Outcome) : List String :=
  let failure := match outcome.result with
    | .ok _ => []
    | .error failure => ["error: " ++ failure.message]
  Log.lines filter outcome.events ++ failure

def Outcome.exitCode (outcome : Outcome) : Nat :=
  match outcome.result with
  | .ok _ => 0
  | .error _ => 1

/-- Runs the program with the given arguments. -/
def execute (place : Surroundings) (backend : Wire.Backend) (arguments : List String) :
    Execution :=
  let environment := environment place
  let url := environment.lookup "DATABASE_URL"
  match CommandLine.parse url arguments with
  | .error stop =>
    { exitCode := stop.exitCode, output := stop.output url, messages := [], backend }
  | .ok invocation =>
    let outcome := run place backend invocation
    let filter := Log.Filter.ofSetting (environment.lookup "RUST_LOG")
    { exitCode := outcome.exitCode
      output := String.join (outcome.display.map (· ++ "\n"))
      messages := (outcome.messages filter).flatMap (·.splitOn "\n")
      backend := outcome.backend }

end Program

end Schemata
