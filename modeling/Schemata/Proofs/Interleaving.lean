import Mathlib.Logic.Function.Basic
import Schemata.Catalog
import Schemata.Proofs.Changes

/-!
# Operations that take turns

Any number of clients, each with a resource of its own, share one catalog server.
A client carries out one operation after the other, and between any two calls of a
client the others may make theirs.  What an operation does between two calls is its
own affair: `Procedure.settle` runs it up to the next call, so the configurations
that can be seen are those in which every client waits for a reply or is idle.
-/

namespace Schemata

/-- Runs a procedure up to its next call, or to its end. -/
def Procedure.settle : Procedure → Resource → Procedure × Resource
  | .done result, resource => (.done result, resource)
  | .store resource next, _ => next.settle resource
  | .log _ next, resource => next.settle resource
  | .call request next, resource => (.call request next, resource)

def Statement.isDrop (statement : Statement) : Bool :=
  statement.action = .drop

/-- A host with one resource, and the operation that it carries out at present or has
carried out last. -/
structure Client where
  resource : Resource
  /-- What is left of the operation, from its next call on; only the result, when it
  has returned. -/
  rest : Procedure := .done (.ok ())
  /-- The calls that the operation has made, with their replies. -/
  made : List Exchange := []

namespace Client

/-- Between two operations. -/
def isIdle (client : Client) : Bool :=
  match client.rest with
  | .done _ => true
  | _ => false

/-- Goes on with the given procedure, up to its next call. -/
def proceed (procedure : Procedure) (resource : Resource) (made : List Exchange) : Client :=
  let (rest, resource) := procedure.settle resource
  { resource, rest, made }

/-- After the success of a statement that drops the schema, and before the operation
returns. -/
def isDropping (client : Client) : Bool :=
  !client.isIdle && (statementsDone client.made).any Statement.isDrop

end Client

/-- A server and the clients that share it. -/
structure Configuration (ι : Type*) where
  server : CatalogServer
  clients : ι → Client

namespace Configuration

variable {ι : Type*} [DecidableEq ι]

def setClient (configuration : Configuration ι) (index : ι) (client : Client) :
    Configuration ι :=
  { configuration with clients := Function.update configuration.clients index client }

/-- A client states what it wants. -/
def plan (configuration : Configuration ι) (index : ι) (attr : Attr) (value : String) :
    Configuration ι :=
  let client := configuration.clients index
  configuration.setClient index { client with resource := client.resource.plan attr value }

/-- A client begins an operation, which runs up to its first call. -/
def begin (configuration : Configuration ι) (index : ι) (operation : Operation) :
    Configuration ι :=
  let resource := (configuration.clients index).resource
  configuration.setClient index (.proceed (operation.procedure resource) resource [])

/-- A client makes a call and goes on by the reply, up to its next call. -/
def call (configuration : Configuration ι) (index : ι) (request : Call)
    (next : request.Reply → Procedure) : Configuration ι :=
  let client := configuration.clients index
  let answer := configuration.server.answer request
  setClient { configuration with server := answer.state } index
    (.proceed (next answer.reply) client.resource (client.made ++ [⟨request, answer.reply⟩]))

/-- One step of the whole: an idle client states what it wants or begins an operation
that it may begin, a client makes its next call, or something else about the server
changes than the schemas and their owners. -/
inductive Step (mayBegin : Operation → Resource → Prop) :
    Configuration ι → Configuration ι → Prop
  | plan {configuration : Configuration ι} (index : ι) (attr : Attr) (value : String)
      (hidle : (configuration.clients index).isIdle) :
      Step mayBegin configuration (configuration.plan index attr value)
  | begin {configuration : Configuration ι} (index : ι) (operation : Operation)
      (hidle : (configuration.clients index).isIdle)
      (hmay : mayBegin operation (configuration.clients index).resource) :
      Step mayBegin configuration (configuration.begin index operation)
  | call {configuration : Configuration ι} (index : ι) (request : Call)
      (next : request.Reply → Procedure)
      (hnext : (configuration.clients index).rest = .call request next) :
      Step mayBegin configuration (configuration.call index request next)
  | interfere {configuration : Configuration ι} (server : CatalogServer)
      (hschemas : server.catalog.schemas = configuration.server.catalog.schemas) :
      Step mayBegin configuration { configuration with server }

/-- What any number of steps leads to. -/
inductive Reachable (mayBegin : Operation → Resource → Prop) (start : Configuration ι) :
    Configuration ι → Prop
  | start : Reachable mayBegin start start
  | step {before after : Configuration ι} (hbefore : Reachable mayBegin start before)
      (hstep : Step mayBegin before after) : Reachable mayBegin start after

end Configuration

/-! ## Small facts -/

/-- A procedure has settled when it is at a call or at its end. -/
theorem Procedure.settle_cases (procedure : Procedure) (resource : Resource) :
    (∃ result, (procedure.settle resource).1 = .done result) ∨
      ∃ request next, (procedure.settle resource).1 = .call request next := by
  induction procedure generalizing resource with
  | done result => exact .inl ⟨result, rfl⟩
  | store stored next ih => exact ih stored
  | log event next ih => exact ih resource
  | call request next => exact .inr ⟨request, next, rfl⟩

namespace Configuration

variable {ι : Type*} [DecidableEq ι] (configuration : Configuration ι) (client : Client)

@[simp]
theorem setClient_server (index : ι) :
    (configuration.setClient index client).server = configuration.server := rfl

@[simp]
theorem setClient_self (index : ι) :
    (configuration.setClient index client).clients index = client :=
  Function.update_self ..

theorem setClient_of_ne {index other : ι} (hne : other ≠ index) :
    (configuration.setClient index client).clients other = configuration.clients other :=
  Function.update_of_ne hne ..

end Configuration

end Schemata
