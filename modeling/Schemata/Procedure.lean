import Schemata.Session

/-!
# Procedures

A procedure is a tree of what an operation does: it calls the server side and goes
on by the reply, writes the host's resource, and logs.  A tree fixes no server, so
one definition of an operation is run against any of them, and the same tree can be
cut at a call when several operations take turns.
-/

namespace Schemata

inductive Procedure where
  | done (result : Except Error Unit)
  /-- The host's resource becomes the given one. -/
  | store (resource : Resource) (next : Procedure)
  | log (event : Event) (next : Procedure)
  | call (request : Call) (next : request.Reply → Procedure)

/-- What came of a procedure: the final state of the server, the host's resource,
the result, all events in order, and all calls in order. -/
structure Run (σ : Type) where
  state : σ
  resource : Resource
  result : Except Error Unit
  events : List Event
  trace : List Exchange

namespace Procedure

/-- Runs a procedure on a resource against a server. -/
def run {σ : Type} (server : Server σ) : Procedure → Resource → σ → Run σ
  | .done result, resource, state =>
    { state, resource, result, events := [], trace := [] }
  | .store resource next, _, state => next.run server resource state
  | .log event next, resource, state =>
    let run := next.run server resource state
    { run with events := event :: run.events }
  | .call request next, resource, state =>
    let answer := server.answer state request
    let run := (next answer.reply).run server resource answer.state
    { run with
      events := answer.events ++ run.events
      trace := ⟨request, answer.reply⟩ :: run.trace }

end Procedure

/-- The statements among the calls of a run, in order. -/
def statementsSent : List Exchange → List Statement
  | [] => []
  | ⟨.execute statement, _⟩ :: rest => statement :: statementsSent rest
  | _ :: rest => statementsSent rest

/-- The statements among the calls of a run that the server carried out, in order. -/
def statementsDone : List Exchange → List Statement
  | [] => []
  | ⟨.execute statement, .ok ()⟩ :: rest => statement :: statementsDone rest
  | _ :: rest => statementsDone rest

/-- The names looked up among the calls of a run, in order. -/
def namesLookedUp : List Exchange → List String
  | [] => []
  | ⟨.lookup name, _⟩ :: rest => name :: namesLookedUp rest
  | _ :: rest => namesLookedUp rest

end Schemata
