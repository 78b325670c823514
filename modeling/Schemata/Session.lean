import Schemata.Error
import Schemata.Event

/-!
# Sessions

What an operation can ask of the server side: to open a session, to run a
statement, to look a schema up, and to close the session again.  A server is
anything that answers these calls, one after the other, from a state of its own.
-/

namespace Schemata

/-- A call to the server side. -/
inductive Call where
  | connect
  | execute (statement : Statement)
  | lookup (name : String)
  | close
deriving DecidableEq, Repr

/-- What a call is answered with.  A lookup that finds nothing is no failure. -/
abbrev Call.Reply : Call → Type
  | .connect => Except Fault Unit
  | .execute _ => Except Fault Unit
  | .lookup _ => Except Fault (Option Record)
  | .close => Unit

/-- A call with the reply that it got. -/
structure Exchange where
  call : Call
  reply : call.Reply

/-- The answer of a server with states in `σ`: the reply, the state it leaves, and
what was logged on the server side meanwhile. -/
structure Answer (σ : Type) (call : Call) where
  reply : call.Reply
  state : σ
  events : List Event := []

/-- Something that answers calls. -/
structure Server (σ : Type) where
  answer : σ → (call : Call) → Answer σ call

end Schemata
