import Schemata.Ident

/-!
# Schema statements

The four statements that create, alter or drop a schema, the SQL text of each, and
the catalog query that looks a schema up.  Every name is written as a quoted
identifier, so no name can change what a statement does.
-/

namespace Schemata

/-- What dropping a schema does about the objects that still live in it. -/
inductive DropBehavior where
  /-- The server refuses to drop a schema that still holds objects. -/
  | restrict
  /-- The objects go with the schema. -/
  | cascade
deriving DecidableEq, Repr, Inhabited

/-- What is being done to a schema, as logs and errors name it. -/
inductive Action where
  | create
  | rename
  | changeOwner
  | drop
  | read
deriving DecidableEq, Repr

def Action.text : Action → String
  | .create => "create schema"
  | .rename => "rename schema"
  | .changeOwner => "change schema owner"
  | .drop => "drop schema"
  | .read => "read schema"

/-- A statement that creates, alters or drops a schema. -/
inductive Statement where
  | create (name : String) (owner : Option String)
  | rename (source target : String)
  | changeOwner (name owner : String)
  | drop (name : String) (behavior : DropBehavior)
deriving DecidableEq, Repr

namespace Statement

open Ident (quote)

/-- Creates a schema.  An empty owner counts as none, which leaves the choice to
the server. -/
def creating (name : String) (owner : Option String) : Statement :=
  .create name (owner.filter (· ≠ ""))

/-- The schema that the statement addresses, by its name before the statement runs. -/
def schema : Statement → String
  | .create name _ => name
  | .rename source _ => source
  | .changeOwner name _ => name
  | .drop name _ => name

def action : Statement → Action
  | .create .. => .create
  | .rename .. => .rename
  | .changeOwner .. => .changeOwner
  | .drop .. => .drop

/-- The SQL text. -/
def render : Statement → String
  | .create name none => "CREATE SCHEMA " ++ quote name
  | .create name (some owner) =>
    "CREATE SCHEMA " ++ quote name ++ " AUTHORIZATION " ++ quote owner
  | .rename source target =>
    "ALTER SCHEMA " ++ quote source ++ " RENAME TO " ++ quote target
  | .changeOwner name owner =>
    "ALTER SCHEMA " ++ quote name ++ " OWNER TO " ++ quote owner
  | .drop name .restrict => "DROP SCHEMA " ++ quote name
  | .drop name .cascade => "DROP SCHEMA " ++ quote name ++ " CASCADE"

end Statement

/-- Looks a schema up by the name given as its only parameter: one row of name and
owner, or no row. -/
def lookupQuery : String :=
  "SELECT nspname, pg_catalog.pg_get_userbyid(nspowner) " ++
    "FROM pg_catalog.pg_namespace WHERE nspname = $1"

end Schemata
