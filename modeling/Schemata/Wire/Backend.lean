/-!
# The server end of a connection

A PostgreSQL server that answers by a script.  It notes down every message it gets,
and takes the next prepared answer when one is due; without one it accepts, changes
no row, and finds none.  It asks for passwords in clear only, and encrypts no
connection, which a client learns before it sends its parameters.
-/

namespace Schemata.Wire

/-- A message to the server. -/
inductive Message where
  /-- The parameters that open a connection. -/
  | startup (parameters : List (String × String))
  | password (text : String)
  | prepare (sql : String)
  /-- Executes what was prepared, with values for its parameters. -/
  | execute (arguments : List String)
  | terminate
deriving DecidableEq, Repr

/-- An error that the server reports. -/
structure ErrorReport where
  severity : String
  text : String
deriving DecidableEq, Repr

/-- How the server answers a request. -/
inductive Outcome (α : Type) where
  | complete (value : α)
  | fail (report : ErrorReport)
  /-- The server ends the connection. -/
  | hangUp
deriving DecidableEq, Repr

/-- How the server receives a client: it may ask for the password, and lets the client in or
does not. -/
structure Admission where
  asksPassword : Bool := false
  /-- The answer to the password, if the server asks for it, else to the parameters. -/
  verdict : Outcome Unit := .complete ()
deriving DecidableEq, Repr

namespace Admission

def accept : Admission := {}

def refuse (report : ErrorReport) : Admission := { verdict := .fail report }

/-- Any password will do. -/
def askPassword : Admission := { asksPassword := true }

end Admission

/-- A row of the lookup query; a column may be null. -/
structure Row where
  name : Option String
  owner : Option String
deriving DecidableEq, Repr

structure Backend where
  admissions : List Admission := []
  /-- Answers to statements, with the number of affected rows. -/
  executions : List (Outcome Nat) := []
  lookups : List (Outcome (List Row)) := []
  /-- The messages received, in order. -/
  received : List Message := []
deriving DecidableEq, Repr

namespace Backend

/-- Notes down messages. -/
def receive (backend : Backend) (messages : List Message) : Backend :=
  { backend with received := backend.received ++ messages }

/-- More prepared answers, to be used after those already there. -/
def append (backend more : Backend) : Backend where
  admissions := backend.admissions ++ more.admissions
  executions := backend.executions ++ more.executions
  lookups := backend.lookups ++ more.lookups
  received := backend.received ++ more.received

def nextAdmission (backend : Backend) : Admission × Backend :=
  (backend.admissions.headD .accept, { backend with admissions := backend.admissions.tail })

def nextExecution (backend : Backend) : Outcome Nat × Backend :=
  (backend.executions.headD (.complete 0), { backend with executions := backend.executions.tail })

def nextLookup (backend : Backend) : Outcome (List Row) × Backend :=
  (backend.lookups.headD (.complete []), { backend with lookups := backend.lookups.tail })

end Backend

end Schemata.Wire
