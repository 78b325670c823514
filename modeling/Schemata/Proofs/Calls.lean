import Mathlib.Data.List.Forall2
import Schemata.Proofs.Episodes
import Schemata.Proofs.Interleaving
import Schemata.Script

/-!
# The calls that an operation can make

What an operation has to send settles which calls it can make, whatever they are answered: it
asks for a session, sends statements of its agenda, looks up the identity that these leave, and
closes the session (`Operation.calls`).  `Procedure.Calls` says so of a procedure, so that it
holds of what is left of an operation at any moment, too.
-/

namespace Schemata

namespace Procedure

/-- Each call of the procedure has the property, whatever the calls before it are answered. -/
def Calls (P : Call → Prop) : Procedure → Prop
  | .done _ => True
  | .store _ next => next.Calls P
  | .log _ next => next.Calls P
  | .call request next => P request ∧ ∀ reply : request.Reply, (next reply).Calls P

variable {P : Call → Prop} {procedure : Procedure} {resource : Resource}

theorem Calls.mono {Q : Call → Prop} (h : procedure.Calls P) (hle : ∀ call, P call → Q call) :
    procedure.Calls Q := by
  induction procedure with
  | done result => trivial
  | store stored next ih => exact ih h
  | log event next ih => exact ih h
  | call request next ih => exact ⟨hle request h.1, fun reply => ih reply (h.2 reply)⟩

theorem Calls.settle (h : procedure.Calls P) : (procedure.settle resource).1.Calls P := by
  induction procedure generalizing resource with
  | done result => exact h
  | store stored next ih => exact ih h
  | log event next ih => exact ih h
  | call request next => exact h

theorem calls_true (procedure : Procedure) : procedure.Calls fun _ => True := by
  induction procedure with
  | done result => trivial
  | store stored next ih => exact ih
  | log event next ih => exact ih
  | call request next ih => exact ⟨trivial, ih⟩

/-- Two servers that answer the calls of a procedure alike, as long as their states are related,
take it the same way, and their states are related afterwards. -/
theorem Calls.run_alike {σ τ : Type} {left : Server σ} {right : Server τ} {R : σ → τ → Prop}
    (hanswer : ∀ state state' call, R state state' → P call →
      (left.answer state call).reply = (right.answer state' call).reply ∧
        R (left.answer state call).state (right.answer state' call).state)
    (hcalls : procedure.Calls P) (resource : Resource) {state : σ} {state' : τ}
    (h : R state state') :
    let run := procedure.run left resource state
    let run' := procedure.run right resource state'
    run.Alike run' ∧ R run.state run'.state := by
  induction procedure generalizing resource state state' with
  | done result => exact ⟨⟨rfl, rfl, rfl⟩, h⟩
  | store stored next ih => exact ih hcalls stored h
  | log event next ih =>
    obtain ⟨halike, hstate⟩ := ih hcalls resource h
    exact ⟨⟨halike.trace, halike.resource, halike.result⟩, hstate⟩
  | call request next ih =>
    obtain ⟨hrequest, hnext⟩ := hcalls
    obtain ⟨hreply, hafter⟩ := hanswer state state' request h hrequest
    obtain ⟨halike, hstate⟩ := ih (left.answer state request).reply (hnext _) resource hafter
    simp only [run, ← hreply]
    exact ⟨⟨congrArg (List.cons _) halike.trace, halike.resource, halike.result⟩, hstate⟩

/-- What holds of all calls of whatever can come of a procedure holds of the procedure. -/
theorem Ensures.calls
    (h : procedure.Ensures resource fun episode =>
      ∀ exchange ∈ episode.trace, P exchange.call) :
    procedure.Calls P := by
  induction procedure generalizing resource with
  | done result => trivial
  | store stored next ih => exact ih h
  | log event next ih => exact ih h
  | call request next ih =>
    constructor
    · -- Some reply leads to an episode, and the call is the first of it.
      obtain ⟨episode, hcalls, -⟩ := (h (Script.answer {} request).reply).run scriptedServer {}
      exact hcalls _ List.mem_cons_self
    · intro reply
      exact ih reply ((h reply).mono fun episode hcalls exchange hmem =>
        hcalls exchange (List.mem_cons_of_mem _ hmem))

end Procedure

/-! ## The calls of an operation -/

section

variable {P : Call → Prop} {operation : Operation} {resource : Resource} {episode : Episode}
  {statements : List Statement}

theorem Resource.ReadsBack.calls (hclose : P .close)
    (hlookup : ∀ name, resource.id = some name → P (.lookup name))
    (h : resource.ReadsBack episode) : ∀ exchange ∈ episode.trace, P exchange.call := by
  cases h with
  | unnamed hid => simpa using hclose
  | found record hid => simpa using ⟨hlookup _ hid, hclose⟩
  | missing hid => simpa using ⟨hlookup _ hid, hclose⟩
  | failed fault hid => simpa using ⟨hlookup _ hid, hclose⟩

theorem Resource.Sends.calls (hclose : P .close)
    (hexecute : ∀ statement ∈ statements, P (.execute statement))
    (hlookup : ∀ name, (resource.afterStatements statements).id = some name → P (.lookup name))
    (h : Sends statements resource episode) : ∀ exchange ∈ episode.trace, P exchange.call := by
  induction h with
  | readBack hread => exact hread.calls hclose hlookup
  | refused statement rest resource fault =>
    simpa using ⟨hexecute statement List.mem_cons_self, hclose⟩
  | carriedOut statement hrest ih =>
    obtain ⟨hfirst, hothers⟩ := List.forall_mem_cons.mp hexecute
    exact List.forall_mem_cons.mpr ⟨hfirst, ih hothers hlookup⟩

/-- What holds of the calls to open and to close a session, of each statement of the agenda, and
of the lookup that comes after them. -/
structure Operation.Permits (P : Call → Prop) (operation : Operation) (resource : Resource) :
    Prop where
  connect : P .connect
  close : P .close
  execute : ∀ statements, operation.agenda resource = .send statements →
    ∀ statement ∈ statements, P (.execute statement)
  lookup : ∀ statements, operation.agenda resource = .send statements →
    ∀ name, ((operation.begun resource).afterStatements statements).id = some name →
      P (.lookup name)

theorem Operation.Admits.calls (hpermits : operation.Permits P resource)
    (h : operation.Admits resource episode) : ∀ exchange ∈ episode.trace, P exchange.call := by
  cases h with
  | rejected hagenda => nofun
  | settled hagenda => nofun
  | unconnected fault hagenda => simpa using hpermits.connect
  | session hagenda hsends =>
    refine List.forall_mem_cons.mpr ⟨hpermits.connect, ?_⟩
    exact hsends.calls hpermits.close (hpermits.execute _ hagenda) (hpermits.lookup _ hagenda)

theorem Operation.calls (hpermits : operation.Permits P resource) :
    (operation.procedure resource).Calls P :=
  ((operation.ensures resource).mono fun _ hadmits => hadmits.calls hpermits).calls

theorem Operation.calls_of_run {σ : Type} (hpermits : operation.Permits P resource)
    (server : Server σ) (state : σ) :
    ∀ exchange ∈ (operation.run server resource state).trace, P exchange.call := by
  obtain ⟨episode, hadmits, hfollows⟩ := operation.exists_episode resource server state
  rw [hfollows.trace]
  exact hadmits.calls hpermits

end

/-- Servers that answer alike take operations the same way. -/
theorem Operation.runAll_alike {σ τ : Type} {left : Server σ} {right : Server τ}
    {R : σ → τ → Prop}
    (hanswer : ∀ state state' call, R state state' →
      (left.answer state call).reply = (right.answer state' call).reply ∧
        R (left.answer state call).state (right.answer state' call).state)
    (tasks : List (Operation × Resource)) {state : σ} {state' : τ} (h : R state state') :
    List.Forall₂ Run.Alike (runAll left tasks state) (runAll right tasks state') := by
  induction tasks generalizing state state' with
  | nil => exact .nil
  | cons task rest ih =>
    obtain ⟨halike, hstate⟩ := (task.1.procedure task.2).calls_true.run_alike
      (fun state state' call hrelated _ => hanswer state state' call hrelated) task.2 h
    exact .cons halike (ih hstate)

end Schemata
