import Schemata.Statement

/-!
# Events

What an operation logs.  An event says what happened; `Event.level` and
`Event.entry` give its place in the log and its wording.
-/

namespace Schemata

inductive Level where
  | debug
  | info
  | warn
  | error
deriving DecidableEq, Repr

namespace Level

def name : Level → String
  | .debug => "DEBUG"
  | .info => "INFO"
  | .warn => "WARN"
  | .error => "ERROR"

/-- How grave a level is; a filter lets through what is grave enough. -/
def rank : Level → Nat
  | .debug => 1
  | .info => 2
  | .warn => 3
  | .error => 4

end Level

inductive Event where
  | schemaCreated (schema : String)
  | schemaRenamed (source target : String)
  | ownerChanged (schema owner : String)
  | schemaDropped (schema : String)
  /-- A lookup found no such schema, so the resource is cleared. -/
  | schemaMissing (schema : String)
  | sessionOpened
  /-- A statement was run; the number of affected rows is known if it succeeded. -/
  | statementRun (statement : Statement) (affected : Option Nat)
  /-- A schema was looked up; the number of rows is known if the query succeeded. -/
  | lookupRun (schema : String) (rows : Option Nat)
  | connectionLost (reason : String)
  | settingsLoaded (path : String)
  /-- The database URL was given by the caller; the text hides its password. -/
  | databaseUrlUsed (masked : String)
deriving DecidableEq, Repr

/-- The value of a field in a log entry. -/
inductive FieldValue where
  | text (value : String)
  | count (value : Nat)
deriving DecidableEq, Repr

/-- An entry of the log: a message, or a span that stands for a piece of work, each
with named fields. -/
structure LogEntry where
  title : String
  isSpan : Bool := false
  fields : List (String × FieldValue) := []
deriving DecidableEq, Repr

namespace Event

def level : Event → Level
  | .schemaCreated _ => .info
  | .schemaRenamed .. => .info
  | .ownerChanged .. => .info
  | .schemaDropped _ => .info
  | .schemaMissing _ => .warn
  | .sessionOpened => .debug
  | .statementRun .. => .debug
  | .lookupRun .. => .debug
  | .connectionLost _ => .error
  | .settingsLoaded _ => .debug
  | .databaseUrlUsed _ => .debug

/-- A field that is left out while its number is not known. -/
def countField (name : String) (count : Option Nat) : List (String × FieldValue) :=
  (count.map fun n => (name, .count n)).toList

def entry : Event → LogEntry
  | .schemaCreated schema =>
    { title := "created schema", fields := [("schema", .text schema)] }
  | .schemaRenamed source target =>
    { title := "renamed schema", fields := [("from", .text source), ("to", .text target)] }
  | .ownerChanged schema owner =>
    { title := "changed schema owner"
      fields := [("schema", .text schema), ("owner", .text owner)] }
  | .schemaDropped schema =>
    { title := "dropped schema", fields := [("schema", .text schema)] }
  | .schemaMissing schema =>
    { title := "schema not found, clearing state", fields := [("schema", .text schema)] }
  | .sessionOpened =>
    { title := "opened postgres session" }
  | .statementRun statement affected =>
    { title := "db.execute"
      isSpan := true
      fields :=
        [("action", .text statement.action.text), ("sql", .text statement.render)] ++
          countField "affected" affected }
  | .lookupRun schema rows =>
    { title := "db.query"
      isSpan := true
      fields :=
        [("sql", .text lookupQuery), ("schema", .text schema)] ++ countField "rows" rows }
  | .connectionLost reason =>
    { title := "postgres connection error", fields := [("error", .text reason)] }
  | .settingsLoaded path =>
    { title := "loaded config", fields := [("path", .text path)] }
  | .databaseUrlUsed masked =>
    { title := "using database url", fields := [("database", .text masked)] }

end Event

end Schemata
