import Mathlib.Tactic.SplitIfs
import Schemata.Proofs.Calls
import Schemata.Proofs.Opening

/-!
# Sessions over the wire

What a client makes of a server is one of a few things (`Client.Step`): a session is opened as
`Client.Tries` tells, or parameters with a misfit prevent it; a statement or a lookup
either is not sent, because the connection is gone or the text cannot be sent, or takes the next
answer of the server, and this answer settles the reply.  So whatever the server answers, the
operations go as they go against prepared replies (`Script.ofTrace`), which are the answers taken
in this way (`sessions_refine_scripted`).
-/

namespace Schemata

/-! ## Prepared replies from a run -/

namespace Script

/-- Prepares the replies of the exchanges. -/
def ofTrace : List Exchange → Script
  | [] => {}
  | ⟨.connect, reply⟩ :: rest =>
    let script := ofTrace rest
    { script with connects := reply :: script.connects }
  | ⟨.execute _, reply⟩ :: rest =>
    let script := ofTrace rest
    { script with executes := reply :: script.executes }
  | ⟨.lookup _, reply⟩ :: rest =>
    let script := ofTrace rest
    { script with lookups := reply :: script.lookups }
  | ⟨.close, _⟩ :: rest => ofTrace rest

/-- The first of the prepared replies is the answer to the first call. -/
theorem answer_ofTrace_cons (exchange : Exchange) (rest : List Exchange) (more : Script) :
    ((ofTrace (exchange :: rest)).append more).answer exchange.call =
      { reply := exchange.reply, state := (ofTrace rest).append more } := by
  obtain ⟨call, reply⟩ := exchange
  cases call <;> rfl

theorem ofTrace_append (left right : List Exchange) :
    ofTrace (left ++ right) = (ofTrace left).append (ofTrace right) := by
  induction left with
  | nil => rfl
  | cons exchange rest ih =>
    obtain ⟨call, reply⟩ := exchange
    rw [List.cons_append]
    cases call <;> simp only [ofTrace, ih] <;> rfl

theorem append_append (first second third : Script) :
    (first.append second).append third = first.append (second.append third) := by
  simp only [append, List.append_assoc]

theorem append_empty (script : Script) : script.append {} = script := by
  simp only [append, List.append_nil]

end Script

/-- A procedure that gets the replies of a run again takes the same way, and uses them up. -/
theorem Procedure.run_ofTrace {σ : Type} (server : Server σ) (procedure : Procedure)
    (resource : Resource) (state : σ) (more : Script) :
    let run := procedure.run server resource state
    let run' := procedure.run scriptedServer resource ((Script.ofTrace run.trace).append more)
    run.Alike run' ∧ run'.state = more := by
  induction procedure generalizing resource state with
  | done result => exact ⟨⟨rfl, rfl, rfl⟩, rfl⟩
  | store stored next ih => exact ih stored state
  | log event next ih =>
    obtain ⟨halike, hstate⟩ := ih resource state
    exact ⟨⟨halike.trace, halike.resource, halike.result⟩, hstate⟩
  | call request next ih =>
    obtain ⟨halike, hstate⟩ :=
      ih (server.answer state request).reply resource (server.answer state request).state
    have hanswer (rest : List Exchange) :=
      Script.answer_ofTrace_cons ⟨request, (server.answer state request).reply⟩ rest more
    simp only [run, scriptedServer, hanswer]
    exact ⟨⟨congrArg (List.cons _) halike.trace, halike.resource, halike.result⟩, hstate⟩

/-- Operations that get the replies of their runs again go the same way. -/
theorem Operation.runAll_ofTrace {σ : Type} (server : Server σ)
    (tasks : List (Operation × Resource)) (state : σ) (more : Script) :
    let runs := runAll server tasks state
    List.Forall₂ Run.Alike runs
      (runAll scriptedServer tasks ((Script.ofTrace (runs.flatMap Run.trace)).append more)) := by
  induction tasks generalizing state with
  | nil => exact .nil
  | cons task rest ih =>
    intro runs
    let run := task.1.run server task.2 state
    have htrace : runs.flatMap Run.trace =
        run.trace ++ (runAll server rest run.state).flatMap Run.trace := rfl
    obtain ⟨halike, hstate⟩ := (task.1.procedure task.2).run_ofTrace server task.2 state
      ((Script.ofTrace ((runAll server rest run.state).flatMap Run.trace)).append more)
    rw [htrace, Script.ofTrace_append, Script.append_append]
    refine .cons halike ?_
    have hnext : List.Forall₂ Run.Alike (runAll server rest run.state) (runAll scriptedServer rest
        ((Script.ofTrace ((runAll server rest run.state).flatMap Run.trace)).append more)) :=
      ih run.state
    rw [← hstate] at hnext
    exact hnext

namespace Wire

/-! ## What becomes of a call -/

/-- How the answer to a statement is taken: as success, whatever the number of rows. -/
inductive TakesStatement : Outcome Nat → Except Fault Unit → Prop
  | done (affected : Nat) : TakesStatement (.complete affected) (.ok ())
  | failed (report : ErrorReport) : TakesStatement (.fail report) (.error (reported report))
  | lost : TakesStatement .hangUp (.error connectionClosed)

/-- How the answer to a lookup is taken: no row is nothing found, and a record is one row without
a null. -/
inductive TakesLookup : Outcome (List Row) → Except Fault (Option Record) → Prop
  | absent : TakesLookup (.complete []) (.ok none)
  | found (name owner : String) :
    TakesLookup (.complete [{ name := some name, owner := some owner }])
      (.ok (some { name, owner }))
  | nameNull (owner : Option String) :
    TakesLookup (.complete [{ name := none, owner }]) (.error (nullColumn 0))
  | ownerNull (name : String) :
    TakesLookup (.complete [{ name := some name, owner := none }]) (.error (nullColumn 1))
  | tooMany (first second : Row) (rest : List Row) :
    TakesLookup (.complete (first :: second :: rest)) (.error tooManyRows)
  | failed (report : ErrorReport) : TakesLookup (.fail report) (.error (reported report))
  | lost : TakesLookup .hangUp (.error connectionClosed)

/-- One call over the wire, with its reply and the messages sent for it. -/
inductive Client.Step (client : Client) : Link → Exchange → List Message → Link → Prop
  | misfit {link : Link} (misfit : ConnInfo.Misfit) (hmisfit : client.info.misfit? = some misfit) :
    Step client link ⟨.connect, .error (invalidConfiguration misfit.message)⟩ [] link
  | connect {link after : Link} {backend : Backend} {reply : Except Fault Unit}
      {messages : List Message} (hfits : client.info.misfit? = none)
      (htries : client.Tries link.backend (invalidConfiguration ConnInfo.Misfit.noServer.message)
        client.info.endpoints messages reply backend)
      (hafter : after = { backend, isOpen := reply.isOk }) :
    Step client link ⟨.connect, reply⟩ messages after
  | statementLost {link : Link} (statement : Statement) (hlost : link.isOpen = false) :
    Step client link ⟨.execute statement, .error connectionClosed⟩ [] link
  | statementUnsendable {link : Link} (statement : Statement) (hopen : link.isOpen = true)
      (hsql : sendable statement.render = false) :
    Step client link ⟨.execute statement, .error unsendable⟩ [] link
  | statement {link after : Link} (statement : Statement) (outcome : Outcome Nat)
      {reply : Except Fault Unit} {messages : List Message} (hopen : link.isOpen = true)
      (hsql : sendable statement.render = true)
      (hmessages : messages = [.prepare statement.render, .execute []])
      (houtcome : outcome = link.backend.executions.headD (.complete 0))
      (hreply : TakesStatement outcome reply)
      (hafter : after =
        { backend := { link.backend.receive messages with
            executions := link.backend.executions.tail }
          isOpen := outcome ≠ .hangUp }) :
    Step client link ⟨.execute statement, reply⟩ messages after
  | lookupLost {link : Link} (name : String) (hlost : link.isOpen = false) :
    Step client link ⟨.lookup name, .error connectionClosed⟩ [] link
  | lookup {link after : Link} (name : String) (outcome : Outcome (List Row))
      {reply : Except Fault (Option Record)} {messages : List Message} (hopen : link.isOpen = true)
      (hmessages : messages = [.prepare lookupQuery, .execute [name]])
      (houtcome : outcome = link.backend.lookups.headD (.complete []))
      (hreply : TakesLookup outcome reply)
      (hafter : after =
        { backend := { link.backend.receive messages with lookups := link.backend.lookups.tail }
          isOpen := outcome ≠ .hangUp }) :
    Step client link ⟨.lookup name, reply⟩ messages after
  | close {link : Link} (hopen : link.isOpen = true) :
    Step client link ⟨.close, ()⟩ [.terminate]
      { backend := link.backend.receive [.terminate], isOpen := false }
  | closed {link : Link} (hlost : link.isOpen = false) : Step client link ⟨.close, ()⟩ [] link

/-- Several calls, each with the messages sent for it. -/
inductive Client.Steps (client : Client) :
    Link → List Exchange → List (List Message) → Link → Prop
  | nil (link : Link) : Steps client link [] [] link
  | cons {link mid final : Link} {exchange : Exchange} {messages : List Message}
      {trace : List Exchange} {sent : List (List Message)}
      (hfirst : client.Step link exchange messages mid)
      (hrest : client.Steps mid trace sent final) :
    Steps client link (exchange :: trace) (messages :: sent) final

section

variable {client : Client} {link mid final : Link} {exchange : Exchange}
  {messages : List Message}

theorem takesLookup_readRows (rows : List Row) :
    TakesLookup (.complete rows) (readRows rows).2 := by
  match rows with
  | [] => exact .absent
  | [{ name := some name, owner := some owner }] => exact .found name owner
  | [{ name := none, owner }] => exact .nameNull owner
  | [{ name := some name, owner := none }] => exact .ownerNull name
  | first :: second :: rest =>
    -- The reader looks at the columns of the first row before the rows that follow.
    rcases first with ⟨_ | name, _ | owner⟩ <;> exact .tooMany _ second rest

/-! ### What a request comes to -/

section

variable (backend : Backend) (span : Option Nat → Event)

theorem takesStatement_settle (outcome : Outcome Nat) :
    TakesStatement outcome
      (settle backend span (fun affected => (some affected, .ok ())) outcome).1 := by
  cases outcome with
  | complete affected => exact .done affected
  | fail report => exact .failed report
  | hangUp => exact .lost

theorem takesLookup_settle (outcome : Outcome (List Row)) :
    TakesLookup outcome (settle backend span readRows outcome).1 := by
  cases outcome with
  | complete rows => exact takesLookup_readRows rows
  | fail report => exact .failed report
  | hangUp => exact .lost

/-- A server that hangs up closes the connection, and nothing else does. -/
theorem settle_link {α β : Type} [DecidableEq α] (accept : α → Option Nat × Except Fault β)
    (outcome : Outcome α) :
    (settle backend span accept outcome).2.1 = { backend, isOpen := outcome ≠ .hangUp } := by
  cases outcome <;> simp [settle]

end

theorem Client.step_execute (client : Client) (link : Link) (statement : Statement) :
    ∃ messages, client.Step link ⟨.execute statement, (execute link statement).reply⟩ messages
      (execute link statement).state := by
  cases hopen : link.isOpen with
  | false =>
    refine ⟨[], ?_⟩
    simp only [execute, hopen]
    exact .statementLost statement hopen
  | true =>
    cases hsql : sendable statement.render with
    | false =>
      refine ⟨[], ?_⟩
      simp only [execute, hopen, hsql]
      exact .statementUnsendable statement hopen hsql
    | true =>
      refine ⟨_, .statement statement _ hopen hsql rfl rfl ?_ ?_⟩
      · simp only [execute, hopen, hsql, Bool.not_true]
        exact takesStatement_settle _ _ _
      · simp only [execute, hopen, hsql, Bool.not_true]
        exact settle_link _ _ _ _

theorem Client.step_lookup (client : Client) (link : Link) (name : String) :
    ∃ messages, client.Step link ⟨.lookup name, (lookup link name).reply⟩ messages
      (lookup link name).state := by
  cases hopen : link.isOpen with
  | false =>
    refine ⟨[], ?_⟩
    simp only [lookup, hopen]
    exact .lookupLost name hopen
  | true =>
    refine ⟨_, .lookup name _ hopen rfl rfl ?_ ?_⟩
    · simp only [lookup, hopen, Bool.not_true]
      exact takesLookup_settle _ _ _
    · simp only [lookup, hopen, Bool.not_true]
      exact settle_link _ _ _ _

theorem Client.step_close (client : Client) (link : Link) :
    ∃ messages, client.Step link ⟨.close, ()⟩ messages (close link).state := by
  cases hopen : link.isOpen with
  | false =>
    refine ⟨[], ?_⟩
    simp only [Wire.close, hopen]
    exact .closed hopen
  | true =>
    refine ⟨[.terminate], ?_⟩
    simp only [Wire.close, hopen]
    exact .close hopen

theorem Client.step_connect (client : Client) (link : Link) :
    ∃ messages, client.Step link ⟨.connect, (client.connect link).reply⟩ messages
      (client.connect link).state := by
  cases hfits : client.info.misfit? with
  | some misfit =>
    refine ⟨[], ?_⟩
    rw [Client.connect_of_misfit hfits]
    exact .misfit misfit hfits
  | none =>
    obtain ⟨messages, htries⟩ := client.tries_tryEndpoints link.backend
      (invalidConfiguration ConnInfo.Misfit.noServer.message) client.info.endpoints
    obtain ⟨hreply, hafter⟩ := Client.connect_of_fits hfits link
    rw [hreply]
    exact ⟨messages, .connect hfits htries hafter⟩

/-- Whatever the server answers, a call is one of those steps. -/
theorem Client.step_answer (client : Client) (link : Link) (call : Call) :
    ∃ messages, client.Step link ⟨call, (client.server.answer link call).reply⟩ messages
      (client.server.answer link call).state := by
  cases call with
  | connect => exact client.step_connect link
  | execute statement => exact client.step_execute link statement
  | lookup name => exact client.step_lookup link name
  | close => exact client.step_close link

/-! ## What becomes of a run -/

theorem Client.Steps.append {trace trace' : List Exchange} {sent sent' : List (List Message)}
    (h : client.Steps link trace sent mid) (h' : client.Steps mid trace' sent' final) :
    client.Steps link (trace ++ trace') (sent ++ sent') final := by
  induction h with
  | nil => exact h'
  | cons hfirst hrest ih => exact .cons hfirst (ih h')

theorem Client.steps_run (client : Client) (procedure : Procedure) (resource : Resource)
    (link : Link) :
    let run := procedure.run client.server resource link
    ∃ sent, client.Steps link run.trace sent run.state := by
  induction procedure generalizing resource link with
  | done result => exact ⟨[], .nil link⟩
  | store stored next ih => exact ih stored link
  | log event next ih => exact ih resource link
  | call request next ih =>
    obtain ⟨messages, hfirst⟩ := client.step_answer link request
    obtain ⟨sent, hrest⟩ := ih _ resource (client.server.answer link request).state
    exact ⟨messages :: sent, .cons hfirst hrest⟩

theorem Client.steps_runAll (client : Client) (tasks : List (Operation × Resource))
    (link : Link) :
    ∃ sent final, client.Steps link
      ((Operation.runAll client.server tasks link).flatMap Run.trace) sent final := by
  induction tasks generalizing link with
  | nil => exact ⟨[], link, .nil link⟩
  | cons task rest ih =>
    obtain ⟨sent, hfirst⟩ := client.steps_run (task.1.procedure task.2) task.2 link
    obtain ⟨sent', final, hrest⟩ := ih (task.1.run client.server task.2 link).state
    exact ⟨sent ++ sent', final, hfirst.append hrest⟩

/-! ### The messages -/

/-- What may be sent for a call: nothing, the messages that open a connection or end it, or a text
that is prepared and then executed.  The text of a lookup is always the same; the name that is
looked up is its parameter. -/
inductive MaySend : Call → List Message → Prop
  | nothing (call : Call) : MaySend call []
  | opening {messages : List Message} (hmessages : ∀ message ∈ messages, message.isOpening) :
    MaySend .connect messages
  | statement (statement : Statement) :
    MaySend (.execute statement) [.prepare statement.render, .execute []]
  | lookup (name : String) : MaySend (.lookup name) [.prepare lookupQuery, .execute [name]]
  | ending : MaySend .close [.terminate]

theorem Client.Step.sends (h : client.Step link exchange messages mid) :
    MaySend exchange.call messages ∧ mid.backend.received = link.backend.received ++ messages := by
  cases h with
  | misfit misfit hmisfit => exact ⟨.nothing _, (List.append_nil _).symm⟩
  | connect hfits htries hafter =>
    obtain ⟨hmessages, admissions, rfl⟩ := htries.opening
    subst hafter
    exact ⟨.opening hmessages, rfl⟩
  | statementLost statement hlost => exact ⟨.nothing _, (List.append_nil _).symm⟩
  | statementUnsendable statement hopen hsql => exact ⟨.nothing _, (List.append_nil _).symm⟩
  | statement statement outcome hopen hsql hmessages houtcome hreply hafter =>
    subst hmessages hafter
    exact ⟨.statement statement, rfl⟩
  | lookupLost name hlost => exact ⟨.nothing _, (List.append_nil _).symm⟩
  | lookup name outcome hopen hmessages houtcome hreply hafter =>
    subst hmessages hafter
    exact ⟨.lookup name, rfl⟩
  | close hopen => exact ⟨.ending, rfl⟩
  | closed hlost => exact ⟨.nothing _, (List.append_nil _).symm⟩

theorem Client.Steps.sends {trace : List Exchange} {sent : List (List Message)}
    (h : client.Steps link trace sent final) :
    List.Forall₂ (fun exchange messages => MaySend exchange.call messages) trace sent ∧
      final.backend.received = link.backend.received ++ sent.flatten := by
  induction h with
  | nil link => exact ⟨.nil, (List.append_nil _).symm⟩
  | cons hfirst hrest ih =>
    obtain ⟨hmay, hreceived⟩ := hfirst.sends
    obtain ⟨hmays, hreceiveds⟩ := ih
    refine ⟨.cons hmay hmays, ?_⟩
    rw [hreceiveds, hreceived, List.flatten_cons, List.append_assoc]

end

/-! ## Numbers of rows -/

/-- The answer to a statement without the number of rows. -/
def Outcome.uncounted : Outcome Nat → Outcome Nat
  | .complete _ => .complete 0
  | .fail report => .fail report
  | .hangUp => .hangUp

/-- The backends differ at most in the numbers of rows that statements affect. -/
structure Backend.SameButCounts (left right : Backend) : Prop where
  rest : right = { left with executions := right.executions }
  executions : left.executions.map Outcome.uncounted = right.executions.map Outcome.uncounted

/-- The links differ at most in the numbers of rows that statements affect. -/
structure Link.SameButCounts (left right : Link) : Prop where
  backend : left.backend.SameButCounts right.backend
  isOpen : left.isOpen = right.isOpen

section

variable {client : Client} {backend : Backend} {left right : Link}

theorem Client.authenticate_executions (client : Client) (admission : Admission)
    (backend : Backend) (executions : List (Outcome Nat)) :
    let authenticated := client.authenticate admission backend
    client.authenticate admission { backend with executions } =
      (authenticated.1, { authenticated.2 with executions }) := by
  simp only [Client.authenticate]
  split_ifs
  · cases client.info.password with
    | none => rfl
    | some password =>
      dsimp only
      split_ifs <;> rfl
  · rfl

theorem Client.enter_executions (client : Client) (backend : Backend)
    (executions : List (Outcome Nat)) :
    client.enter { backend with executions } =
      ((client.enter backend).1, { (client.enter backend).2 with executions }) := by
  simp only [Client.enter]
  split_ifs
  · rfl
  · exact client.authenticate_executions _
      (backend.receive [.startup client.startupParameters]).nextAdmission.2 executions
  · rfl

theorem Client.tryEndpoints_executions (client : Client) (backend : Backend)
    (executions : List (Outcome Nat)) (fault : Fault) (endpoints : List Endpoint) :
    let tried := client.tryEndpoints backend fault endpoints
    client.tryEndpoints { backend with executions } fault endpoints =
      (tried.1, { tried.2 with executions }) := by
  induction endpoints generalizing backend fault with
  | nil => rfl
  | cons endpoint rest ih =>
    simp only [Client.tryEndpoints]
    cases client.network.obstacle endpoint with
    | some obstacle => exact ih backend _
    | none =>
      dsimp only
      rw [client.enter_executions backend executions]
      cases client.enter backend with
      | mk reply entered =>
        cases reply with
        | ok _ => rfl
        | error fault => exact ih entered fault

theorem Backend.SameButCounts.receive {left right : Backend} (h : left.SameButCounts right)
    (messages : List Message) : (left.receive messages).SameButCounts (right.receive messages) where
  rest := by rw [h.rest]; rfl
  executions := h.executions

theorem Backend.SameButCounts.nextExecution {left right : Backend} (h : left.SameButCounts right) :
    left.nextExecution.1.uncounted = right.nextExecution.1.uncounted ∧
      left.nextExecution.2.SameButCounts right.nextExecution.2 := by
  obtain ⟨hrest, hexecutions⟩ := h
  generalize right.executions = executions at hrest hexecutions
  subst hrest
  simp only [Backend.nextExecution]
  cases hleft : left.executions with
  | nil =>
    obtain rfl : executions = [] := by simpa [hleft] using hexecutions
    exact ⟨rfl, rfl, rfl⟩
  | cons outcome rest =>
    cases executions with
    | nil => simp [hleft] at hexecutions
    | cons outcome' rest' =>
      rw [hleft] at hexecutions
      obtain ⟨houtcome, hmap⟩ := List.cons.inj hexecutions
      exact ⟨houtcome, rfl, hmap⟩

theorem Backend.SameButCounts.nextLookup {left right : Backend} (h : left.SameButCounts right) :
    left.nextLookup.1 = right.nextLookup.1 ∧
      left.nextLookup.2.SameButCounts right.nextLookup.2 := by
  obtain ⟨hrest, hexecutions⟩ := h
  rw [hrest]
  exact ⟨rfl, rfl, hexecutions⟩

theorem Client.connect_sameButCounts (client : Client) (h : left.SameButCounts right) :
    (client.connect left).reply = (client.connect right).reply ∧
      (client.connect left).state.SameButCounts (client.connect right).state := by
  cases hfits : client.info.misfit? with
  | some misfit =>
    rw [Client.connect_of_misfit hfits, Client.connect_of_misfit hfits]
    exact ⟨rfl, h⟩
  | none =>
    obtain ⟨hreply, hstate⟩ := Client.connect_of_fits hfits left
    obtain ⟨hreply', hstate'⟩ := Client.connect_of_fits hfits right
    obtain ⟨messages, htries⟩ := client.tries_tryEndpoints left.backend
      (invalidConfiguration ConnInfo.Misfit.noServer.message) client.info.endpoints
    obtain ⟨-, admissions, hopening⟩ := htries.opening
    have htried := client.tryEndpoints_executions left.backend right.backend.executions
      (invalidConfiguration ConnInfo.Misfit.noServer.message) client.info.endpoints
    rw [← h.backend.rest] at htried
    rw [hreply, hreply', hstate, hstate', htried, hopening]
    exact ⟨rfl, ⟨rfl, h.backend.executions⟩, rfl⟩

/-- Answers that differ in the number of rows are taken alike. -/
theorem settle_sameButCounts {before after : Backend} {outcome outcome' : Outcome Nat}
    (span : Option Nat → Event) (hbackend : before.SameButCounts after)
    (houtcome : outcome.uncounted = outcome'.uncounted) :
    let accept (affected : Nat) : Option Nat × Except Fault Unit := (some affected, .ok ())
    let settled := settle before span accept outcome
    let settled' := settle after span accept outcome'
    settled.1 = settled'.1 ∧ settled.2.1.SameButCounts settled'.2.1 := by
  cases outcome with
  | complete affected =>
    cases outcome' with
    | complete affected' => exact ⟨rfl, hbackend, rfl⟩
    | fail report => cases houtcome
    | hangUp => cases houtcome
  | fail report =>
    cases outcome' with
    | complete affected' => cases houtcome
    | fail report' =>
      cases houtcome
      exact ⟨rfl, hbackend, rfl⟩
    | hangUp => cases houtcome
  | hangUp =>
    cases outcome' with
    | complete affected' => cases houtcome
    | fail report => cases houtcome
    | hangUp => exact ⟨rfl, hbackend, rfl⟩

theorem execute_sameButCounts (h : left.SameButCounts right) (statement : Statement) :
    (execute left statement).reply = (execute right statement).reply ∧
      (execute left statement).state.SameButCounts (execute right statement).state := by
  simp only [execute, ← h.isOpen]
  split_ifs
  · exact ⟨rfl, h⟩
  · exact ⟨rfl, h⟩
  · obtain ⟨houtcome, hbackend⟩ := (h.backend.receive _).nextExecution
    exact settle_sameButCounts _ hbackend houtcome

theorem lookup_sameButCounts (h : left.SameButCounts right) (name : String) :
    (lookup left name).reply = (lookup right name).reply ∧
      (lookup left name).state.SameButCounts (lookup right name).state := by
  simp only [lookup, ← h.isOpen]
  split_ifs
  · exact ⟨rfl, h⟩
  · obtain ⟨houtcome, hbackend⟩ :=
      (h.backend.receive [.prepare lookupQuery, .execute [name]]).nextLookup
    rw [← houtcome]
    cases (left.backend.receive [.prepare lookupQuery, .execute [name]]).nextLookup.1 with
    | complete rows => exact ⟨rfl, hbackend, rfl⟩
    | fail report => exact ⟨rfl, hbackend, rfl⟩
    | hangUp => exact ⟨rfl, hbackend, rfl⟩

theorem close_sameButCounts (h : left.SameButCounts right) :
    (close left).state.SameButCounts (close right).state := by
  simp only [Wire.close, ← h.isOpen]
  split_ifs
  · exact ⟨h.backend.receive _, rfl⟩
  · exact h

/-- Links that differ in the numbers of rows only answer alike. -/
theorem Client.answer_sameButCounts (client : Client) (left right : Link) (call : Call)
    (h : left.SameButCounts right) :
    (client.server.answer left call).reply = (client.server.answer right call).reply ∧
      (client.server.answer left call).state.SameButCounts
        (client.server.answer right call).state := by
  cases call with
  | connect => exact client.connect_sameButCounts h
  | execute statement => exact execute_sameButCounts h statement
  | lookup name => exact lookup_sameButCounts h name
  | close => exact ⟨rfl, close_sameButCounts h⟩

end

/-- Over a connection and with any answers of the server, operations go as they go against
prepared replies, which are the answers as the client takes them: the same calls, results and
resources.  Every lookup that is sent is the same text with the name as its parameter, and the
numbers of rows that statements affect make no difference. -/
theorem sessions_refine_scripted (client : Client) (tasks : List (Operation × Resource))
    (link : Link) :
    let runs := Operation.runAll client.server tasks link
    let trace := runs.flatMap Run.trace
    (∃ sent final, client.Steps link trace sent final ∧
      List.Forall₂ (fun exchange messages => MaySend exchange.call messages) trace sent ∧
      final.backend.received = link.backend.received ++ sent.flatten) ∧
    List.Forall₂ Run.Alike runs
      (Operation.runAll scriptedServer tasks (Script.ofTrace trace)) ∧
    ∀ link', link.SameButCounts link' →
      List.Forall₂ Run.Alike runs (Operation.runAll client.server tasks link') := by
  intro runs trace
  refine ⟨?_, ?_, ?_⟩
  · obtain ⟨sent, final, hsteps⟩ := client.steps_runAll tasks link
    exact ⟨sent, final, hsteps, hsteps.sends⟩
  · rw [← (Script.ofTrace trace).append_empty]
    exact Operation.runAll_ofTrace client.server tasks link {}
  · intro link' hsame
    exact Operation.runAll_alike client.answer_sameButCounts tasks hsame

/-- A statement that affects one row or seven, and a row with a null for the lookup after it. -/
theorem sessions_refine_scripted_create :
    let client : Client := { info := { hosts := [.tcp "localhost"] }, network := .localServer 5432 }
    let link : Link :=
      { backend := { executions := [.complete 1], lookups := [.complete [⟨some "a", none⟩]] } }
    let link' : Link := { link with backend.executions := [.complete 7] }
    let tasks := [(Operation.create, Resource.ofPlan "a" none)]
    let runs := Operation.runAll client.server tasks link
    List.Forall₂ Run.Alike runs (Operation.runAll client.server tasks link') ∧
      runs.map (fun run => (run.result.isOk, run.trace.length)) = [(false, 4)] := by
  refine ⟨(sessions_refine_scripted _ _ _).2.2 _ ⟨⟨rfl, rfl⟩, rfl⟩, ?_⟩
  decide +kernel

end Wire

end Schemata
