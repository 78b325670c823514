import Schemata.Diff
import Schemata.Procedure

/-!
# Operations

Create, read, update, delete and import a schema.  Each operation opens one session,
runs its statements in order, and closes the session before it ends, whether it
succeeded or not.  All but delete end by reading the catalog, so that the recorded
values are what the server reports.
-/

namespace Schemata

namespace Procedure

/-- Closes the session and ends. -/
def finish (result : Except Error Unit) : Procedure :=
  .call .close fun _ => .done result

/-- Opens a session for `body`; without one there is nothing to close. -/
def withSession (body : Procedure) : Procedure :=
  .call .connect fun
    | .ok () => body
    | .error fault => .done (.error (.connection fault))

/-- Runs a statement and goes on; a failure ends the operation. -/
def execute (statement : Statement) (next : Procedure) : Procedure :=
  .call (.execute statement) fun
    | .ok () => next
    | .error fault => finish (.error (.execution statement.action statement.schema fault))

/-- Looks the schema up by its identity, records what the catalog says, and ends.
A schema that is no longer there is no failure: the identity is cleared. -/
def readBack (resource : Resource) : Procedure :=
  match resource.id with
  | none => finish (.ok ())
  | some id =>
    .call (.lookup id) fun
      | .ok (some record) => .store (resource.observe record) (finish (.ok ()))
      | .ok none => .log (.schemaMissing id) (.store (resource.setId none) (finish (.ok ())))
      | .error fault => finish (.error (.execution .read id fault))

/-- Creates the schema that the resource describes. -/
def create (resource : Resource) : Procedure :=
  let name := (resource.get .name).getD ""
  if name = "" then .done (.error (.emptyValue .name))
  else
    let created := resource.setId (some name)
    withSession <|
      execute (.creating name (resource.get .owner)) <|
        .log (.schemaCreated name) <| .store created <| readBack created

/-- Refreshes the resource from the catalog; without an identity there is nothing
to read. -/
def read (resource : Resource) : Procedure :=
  match resource.id with
  | none => .done (.ok ())
  | some _ => withSession (readBack resource)

/-- Makes the given changes in order, then reads back. -/
def makeChanges : List Change → Resource → Procedure
  | [], resource => readBack resource
  | .rename source target :: rest, resource =>
    let renamed := (resource.set .name target).setId (some target)
    execute (.rename source target) <|
      .log (.schemaRenamed source target) <| .store renamed <| makeChanges rest renamed
  | .changeOwner schema target :: rest, resource =>
    execute (.changeOwner schema target) <|
      .log (.ownerChanged schema target) <| makeChanges rest resource

/-- Brings the schema to its wanted state.  All checks come before the session. -/
def update (resource : Resource) : Procedure :=
  match resource.diff with
  | .error error => .done (.error error)
  | .ok changes => withSession (makeChanges changes resource)

/-- Drops the schema.  A drop that fails leaves the identity, so that the host can
try again. -/
def delete (behavior : DropBehavior) (resource : Resource) : Procedure :=
  match resource.id <|> resource.get .name with
  | none => .done (.ok ())
  | some name =>
    withSession <|
      execute (.drop name behavior) <|
        .call .close fun _ =>
          .log (.schemaDropped name) <| .store (resource.setId none) <| .done (.ok ())

/-- Adopts the schema of the given name. -/
def adopt (name : String) (resource : Resource) : Procedure :=
  let adopted := resource.setId (some name)
  .store adopted (read adopted)

end Procedure

/-- The operations on a schema. -/
inductive Operation where
  | create
  | read
  | update
  | delete (behavior : DropBehavior)
  | adopt (name : String)
deriving DecidableEq, Repr

namespace Operation

/-- What an operation does on a resource. -/
def procedure : Operation → Resource → Procedure
  | .create => .create
  | .read => .read
  | .update => .update
  | .delete behavior => .delete behavior
  | .adopt name => .adopt name

/-- Runs an operation on a resource against a server. -/
def run {σ : Type} (operation : Operation) (server : Server σ) (resource : Resource)
    (state : σ) : Run σ :=
  (operation.procedure resource).run server resource state

end Operation

end Schemata
