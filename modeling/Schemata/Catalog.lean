import Schemata.Session
import Std.Data.TreeMap
import Std.Data.TreeSet

/-!
# The namespace catalog

An in-memory server: schemas with their owners, the known roles, and the schemas
that still hold objects.  `Catalog.execute` gives each statement its meaning; the
catalog refuses what PostgreSQL refuses, and a refused statement changes nothing.
-/

namespace Schemata

/-- Schemas by name, with their owners. -/
structure Catalog where
  schemas : Std.TreeMap String String := ∅
  roles : Std.TreeSet String := ∅
  /-- Names of schemas that hold objects.  A name may be marked while no schema has it. -/
  nonEmpty : Std.TreeSet String := ∅

/-- Why the catalog refuses a statement. -/
inductive Refusal where
  | schemaExists (name : String)
  | noSuchSchema (name : String)
  | noSuchRole (role : String)
  | holdsObjects (name : String)
deriving DecidableEq, Repr

/-- The wording does not double quotes inside a name. -/
def Refusal.message : Refusal → String
  | .schemaExists name => "schema \"" ++ name ++ "\" already exists"
  | .noSuchSchema name => "schema \"" ++ name ++ "\" does not exist"
  | .noSuchRole role => "role \"" ++ role ++ "\" does not exist"
  | .holdsObjects name =>
    "cannot drop schema " ++ name ++ " because other objects depend on it"

namespace Catalog

/-- The role that sessions run as.  It owns what is created without an owner. -/
def connectingRole : String := "postgres"

/-- Moves a mark from one name to another, if it is set. -/
def moveMark (marks : Std.TreeSet String) (source target : String) :
    Std.TreeSet String :=
  if source ∈ marks then (marks.erase source).insert target else marks

/-- Runs a statement. -/
def execute (catalog : Catalog) : Statement → Except Refusal Catalog
  | .create name owner =>
    let owner' := owner.getD connectingRole
    if name ∈ catalog.schemas then .error (.schemaExists name)
    else if owner.isSome ∧ owner' ∉ catalog.roles then .error (.noSuchRole owner')
    else .ok { catalog with schemas := catalog.schemas.insert name owner' }
  | .rename source target =>
    match catalog.schemas[source]? with
    | none => .error (.noSuchSchema source)
    | some owner =>
      if target ∈ catalog.schemas then .error (.schemaExists target)
      else .ok { catalog with
        schemas := (catalog.schemas.erase source).insert target owner
        nonEmpty := moveMark catalog.nonEmpty source target }
  | .changeOwner name owner =>
    if name ∉ catalog.schemas then .error (.noSuchSchema name)
    else if owner ∉ catalog.roles then .error (.noSuchRole owner)
    else .ok { catalog with schemas := catalog.schemas.insert name owner }
  | .drop name behavior =>
    if name ∉ catalog.schemas then .error (.noSuchSchema name)
    else if behavior = .restrict ∧ name ∈ catalog.nonEmpty then .error (.holdsObjects name)
    else .ok { catalog with
      schemas := catalog.schemas.erase name
      nonEmpty := catalog.nonEmpty.erase name }

/-- The entry of a schema. -/
def lookup (catalog : Catalog) (name : String) : Option Record :=
  catalog.schemas[name]?.map fun owner => { name, owner }

end Catalog

/-- A server over a catalog.  It can be told to refuse sessions and to fail lookups,
and counts the sessions it opened and closed. -/
structure CatalogServer where
  catalog : Catalog := {}
  refusesSessions : Bool := false
  failsLookups : Bool := false
  opened : Nat := 0
  closed : Nat := 0

namespace CatalogServer

/-- A server with the roles `postgres`, `alice` and `bob` and no schema. -/
def fresh : CatalogServer :=
  { catalog := { roles := .ofList [Catalog.connectingRole, "alice", "bob"] } }

def answer (server : CatalogServer) : (call : Call) → Answer CatalogServer call
  | .connect =>
    if server.refusesSessions then
      { reply := .error { message := "connection refused" }, state := server }
    else
      { reply := .ok (), state := { server with opened := server.opened + 1 } }
  | .execute statement =>
    match server.catalog.execute statement with
    | .ok catalog => { reply := .ok (), state := { server with catalog } }
    | .error refusal => { reply := .error { message := refusal.message }, state := server }
  | .lookup name =>
    if server.failsLookups then
      { reply := .error { message := "permission denied for table pg_namespace" }
        state := server }
    else
      { reply := .ok (server.catalog.lookup name), state := server }
  | .close =>
    { reply := (), state := { server with closed := server.closed + 1 } }

end CatalogServer

/-- Answers calls from a catalog. -/
def catalogServer : Server CatalogServer where
  answer := CatalogServer.answer

end Schemata
