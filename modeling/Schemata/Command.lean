import Schemata.Operation
import Schemata.Text.Quoted

/-!
# Commands

What an operator asks for, and how it is carried out: each command is one operation
on a fresh resource, except that an update reads the schema first, so that only what
differs from the catalog is changed.
-/

namespace Schemata

inductive Command where
  | create (name : String) (owner : Option String)
  | read (name : String)
  | update (name : String) (renameTo owner : Option String)
  | drop (name : String) (behavior : DropBehavior)
  | adopt (name : String)
deriving DecidableEq, Repr

/-- Why a command fails once its settings are known. -/
inductive CommandError where
  | operation (error : Error)
  /-- The schema to update does not exist. -/
  | noSchema (name : String)
deriving DecidableEq, Repr

def CommandError.message : CommandError → String
  | .operation error => error.message
  | .noSchema name => "schema " ++ Text.Quoted.quote name ++ " does not exist"

/-- What came of a command: the final state of the server, the resource or the
failure, all events and all calls in order. -/
structure CommandRun (σ : Type) where
  state : σ
  result : Except CommandError Resource
  events : List Event
  trace : List Exchange

namespace CommandRun

def ofRun {σ : Type} (run : Run σ) : CommandRun σ where
  state := run.state
  result := match run.result with
    | .ok () => .ok run.resource
    | .error error => .error (.operation error)
  events := run.events
  trace := run.trace

/-- Goes on with the resource of a run that succeeded. -/
def andThen {σ : Type} (first : CommandRun σ) (next : Resource → σ → CommandRun σ) :
    CommandRun σ :=
  match first.result with
  | .error _ => first
  | .ok resource =>
    let second := next resource first.state
    { second with
      events := first.events ++ second.events
      trace := first.trace ++ second.trace }

end CommandRun

namespace Command

/-- The second half of an update, on a resource that was just read. -/
def change {σ : Type} (server : Server σ) (name : String) (renameTo owner : Option String)
    (resource : Resource) (state : σ) : CommandRun σ :=
  if resource.id = none then
    { state, result := .error (.noSchema name), events := [], trace := [] }
  else
    let renamed := match renameTo with
      | some target => resource.plan .name target
      | none => resource
    let planned := match owner with
      | some owner => renamed.plan .owner owner
      | none => renamed
    .ofRun (Operation.update.run server planned state)

/-- Carries a command out against a server. -/
def run {σ : Type} (server : Server σ) (state : σ) : Command → CommandRun σ
  | .create name owner => .ofRun (Operation.create.run server (.ofPlan name owner) state)
  | .read name => .ofRun (Operation.read.run server (.ofId name) state)
  | .update name renameTo owner =>
    (CommandRun.ofRun (Operation.read.run server (.ofId name) state)).andThen
      (change server name renameTo owner)
  | .drop name behavior =>
    .ofRun ((Operation.delete behavior).run server (.ofId name) state)
  | .adopt name => .ofRun ((Operation.adopt name).run server {} state)

end Command

end Schemata
