import Schemata.Network
import Schemata.Session
import Schemata.Wire.Backend

/-!
# The client end of a connection

Sessions over a connection to a PostgreSQL server.  A statement or a lookup is
prepared and then executed; the name of a lookup travels as a parameter and never
inside the SQL text.  Every request is logged as a span, which keeps the number of
rows if the request succeeded.

Opening a connection leaves out the question whether the server is read only, which
follows if not every session is acceptable (`ConnInfo.sessionTarget`), and proofs of a
password other than the password itself.  How long an attempt may take is a matter of
the network (`Network.obstacle`), and keepalives make no difference.
-/

namespace Schemata.Wire

/-- A client: whom it connects to and over which network. -/
structure Client where
  info : ConnInfo
  network : Network
  /-- The account that connects when the parameters name no user. -/
  account : String := "root"

/-- A server, and whether the client's connection to it is open. -/
structure Link where
  backend : Backend
  isOpen : Bool := false
deriving DecidableEq, Repr

def invalidConfiguration (reason : String) : Fault :=
  { message := "invalid configuration", causes := [reason] }

def notReached (obstacle : String) : Fault :=
  { message := "error connecting to server", causes := [obstacle] }

/-- Encryption is required, and the server offers none. -/
def notEncrypted : Fault :=
  { message := "error performing TLS handshake", causes := ["server does not support TLS"] }

def reported (report : ErrorReport) : Fault :=
  { message := "db error", causes := [report.severity ++ ": " ++ report.text] }

/-- A text with a null character cannot be sent. -/
def unsendable : Fault :=
  { message := "error encoding message to server", causes := ["string contains embedded null"] }

def connectionClosed : Fault :=
  { message := "connection closed" }

def tooManyRows : Fault :=
  { message := "query returned an unexpected number of rows" }

def nullColumn (column : Nat) : Fault :=
  { message := "error deserializing column " ++ toString column
    causes := ["a Postgres value was `NULL`"] }

def sendable (text : String) : Bool :=
  '\x00' ∉ text.toList

/-- The parameters that open a connection. -/
def Client.startupParameters (client : Client) : List (String × String) :=
  [("user", client.info.user.getD client.account)] ++
    (client.info.database.map fun name => ("database", name)).toList ++
    (client.info.options.map fun options => ("options", options)).toList ++
    (client.info.applicationName.map fun name => ("application_name", name)).toList

/-- What the client makes of the answer to its wish to be let in.  A connection that ends this
early is not logged as lost. -/
def admitted : Outcome Unit → Except Fault Unit
  | .complete () => .ok ()
  | .fail report => .error (reported report)
  | .hangUp => .error connectionClosed

/-- Tells the password if the server asks for it, and takes the verdict. -/
def Client.authenticate (client : Client) (admission : Admission) (backend : Backend) :
    Except Fault Unit × Backend :=
  if admission.asksPassword then
    match client.info.password with
    | none => (.error (invalidConfiguration "password missing"), backend)
    | some password =>
      let password := String.ofList (Text.Utf8.decodeLenient password)
      if sendable password then (admitted admission.verdict, backend.receive [.password password])
      else (.error unsendable, backend)
  else (admitted admission.verdict, backend)

/-- Asks a server that was reached to be let in. -/
def Client.enter (client : Client) (backend : Backend) : Except Fault Unit × Backend :=
  let parameters := client.startupParameters
  if client.info.sslMode = .require then (.error notEncrypted, backend)
  else if parameters.all fun (_, value) => sendable value then
    let (admission, backend) := (backend.receive [.startup parameters]).nextAdmission
    client.authenticate admission backend
  else (.error unsendable, backend)

/-- Tries endpoints in order until one lets the client in.  The last failure counts. -/
def Client.tryEndpoints (client : Client) (backend : Backend) :
    Fault → List Endpoint → Except Fault Unit × Backend
  | fault, [] => (.error fault, backend)
  | _, endpoint :: rest =>
    match client.network.obstacle endpoint with
    | some obstacle => client.tryEndpoints backend (notReached obstacle) rest
    | none =>
      match client.enter backend with
      | (.ok (), backend) => (.ok (), backend)
      | (.error fault, backend) => client.tryEndpoints backend fault rest

/-- Opens a connection.  Parameters that fit no server fail before any contact. -/
def Client.connect (client : Client) (link : Link) : Answer Link .connect :=
  match client.info.misfit? with
  | some misfit => { reply := .error (invalidConfiguration misfit.message), state := link }
  | none =>
    let noServer := invalidConfiguration ConnInfo.Misfit.noServer.message
    match client.tryEndpoints link.backend noServer client.info.endpoints with
    | (.ok (), backend) =>
      { reply := .ok (), state := { backend, isOpen := true }, events := [.sessionOpened] }
    | (.error fault, backend) =>
      { reply := .error fault, state := { backend, isOpen := false } }

/-- What the client makes of the answer to a request, which is logged as `span`: the
value of a completed request is read by `accept`, with the count to log and what
comes of it. -/
def settle {α β : Type} (backend : Backend) (span : Option Nat → Event)
    (accept : α → Option Nat × Except Fault β) :
    Outcome α → Except Fault β × Link × List Event
  | .complete value =>
    let (count, reply) := accept value
    (reply, { backend, isOpen := true }, [span count])
  | .fail report => (.error (reported report), { backend, isOpen := true }, [span none])
  | .hangUp =>
    (.error connectionClosed, { backend, isOpen := false },
      [span none, .connectionLost connectionClosed.message])

/-- Runs a statement.  The number of affected rows is logged and has no other effect. -/
def execute (link : Link) (statement : Statement) : Answer Link (.execute statement) :=
  let span := Event.statementRun statement
  let sql := statement.render
  if !link.isOpen then
    { reply := .error connectionClosed, state := link, events := [span none] }
  else if !sendable sql then
    { reply := .error unsendable, state := link, events := [span none] }
  else
    let (outcome, backend) := (link.backend.receive [.prepare sql, .execute []]).nextExecution
    let (reply, state, events) :=
      settle backend span (fun affected => (some affected, .ok ())) outcome
    { reply, state, events }

/-- The record in the rows of a lookup, and the number of rows if it is acceptable. -/
def readRows : List Row → Option Nat × Except Fault (Option Record)
  | [] => (some 0, .ok none)
  | [{ name := some name, owner := some owner }] => (some 1, .ok (some { name, owner }))
  | [{ name := none, .. }] => (some 1, .error (nullColumn 0))
  | [{ owner := none, .. }] => (some 1, .error (nullColumn 1))
  | _ => (none, .error tooManyRows)

/-- Looks a schema up. -/
def lookup (link : Link) (name : String) : Answer Link (.lookup name) :=
  let span := Event.lookupRun name
  if !link.isOpen then
    { reply := .error connectionClosed, state := link, events := [span none] }
  else
    let (outcome, backend) :=
      (link.backend.receive [.prepare lookupQuery, .execute [name]]).nextLookup
    let (reply, state, events) := settle backend span readRows outcome
    { reply, state, events }

/-- Closes the connection, if the server has not. -/
def close (link : Link) : Answer Link .close :=
  if link.isOpen then
    { reply := (), state := { backend := link.backend.receive [.terminate], isOpen := false } }
  else { reply := (), state := link }

/-- The client, as a server for operations. -/
def Client.server (client : Client) : Server Link where
  answer link
    | .connect => client.connect link
    | .execute statement => execute link statement
    | .lookup name => lookup link name
    | .close => close link

end Schemata.Wire
