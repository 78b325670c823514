import Schemata.Program
import Schemata.Proofs.Audit

/-!
# The database URL in the log

Every event of a run is logged by an operation or by the server side
(`Operation.isOfOperation_or_mem_answer`), and neither shows a database URL.  So an invocation
that is given one shows it once, masked, if its settings can be loaded (`Program.urls_run`).
-/

namespace Schemata

/-- The text of a database URL that an event shows. -/
def Event.url? : Event → Option String
  | .databaseUrlUsed masked => some masked
  | _ => none

/-- A database URL is shown by the program itself only. -/
theorem Event.url?_eq_none {event : Event} (h : event.target ≠ "pgschema") :
    event.url? = none := by
  cases event with
  | databaseUrlUsed masked => exact absurd rfl h
  | _ => rfl

/-! ## Who logs an event -/

section

variable {σ : Type} {server : Server σ} {state : σ} {event : Event}

theorem Procedure.Ensures.exists_mem_events {procedure : Procedure} {resource : Resource}
    {Post : Episode → Prop} (h : procedure.Ensures resource Post)
    (hevent : event ∈ (procedure.run server resource state).events) :
    (∃ episode, Post episode ∧ event ∈ episode.events) ∨
      ∃ state call, event ∈ (server.answer state call).events := by
  -- Along the tree the events of the episode are put in front of what `Post` is asked of.
  induction procedure generalizing resource state Post with
  | done result => cases hevent
  | store stored next ih => exact ih h hevent
  | log logged next ih =>
    have hnext : next.Ensures resource fun episode => Post (episode.prepend [] [logged]) := h
    rcases List.mem_cons.mp hevent with rfl | hlater
    · obtain ⟨episode, hpost, -⟩ := hnext.run server state
      exact .inl ⟨episode.prepend [] [event], hpost, List.mem_cons_self⟩
    · rcases ih hnext hlater with ⟨episode, hpost, hmem⟩ | hanswer
      · exact .inl ⟨_, hpost, List.mem_cons_of_mem logged hmem⟩
      · exact .inr hanswer
  | call request next ih =>
    rcases List.mem_append.mp hevent with hanswer | hlater
    · exact .inr ⟨state, request, hanswer⟩
    · rcases ih _ (h (server.answer state request).reply) hlater with
        ⟨episode, hpost, hmem⟩ | hanswer
      · exact .inl ⟨_, hpost, hmem⟩
      · exact .inr hanswer

/-- An event of an operation is one that operations log, or one that the server side logged. -/
theorem Operation.isOfOperation_or_mem_answer {operation : Operation} {resource : Resource}
    (hevent : event ∈ (operation.run server resource state).events) :
    event.isOfOperation = true ∨ ∃ state call, event ∈ (server.answer state call).events := by
  rcases (operation.ensures resource).exists_mem_events hevent with
    ⟨episode, hadmits, hmem⟩ | hanswer
  · rw [hadmits.events_eq] at hmem
    obtain ⟨exchange, -, hlogged⟩ := List.mem_filterMap.mp hmem
    exact .inl (isOfOperation_of_event?_eq_some hlogged)
  · exact .inr hanswer

/-- A command logs nothing but what its operations do. -/
theorem Command.isOfOperation_or_mem_answer {command : Command}
    (hevent : event ∈ (command.run server state).events) :
    event.isOfOperation = true ∨ ∃ state call, event ∈ (server.answer state call).events := by
  cases command with
  | create name owner => exact Operation.isOfOperation_or_mem_answer hevent
  | read name => exact Operation.isOfOperation_or_mem_answer hevent
  | drop name behavior => exact Operation.isOfOperation_or_mem_answer hevent
  | adopt name => exact Operation.isOfOperation_or_mem_answer hevent
  | update name renameTo owner =>
    simp only [run, CommandRun.andThen] at hevent
    split at hevent
    · exact Operation.isOfOperation_or_mem_answer hevent
    · rcases List.mem_append.mp hevent with hfirst | hsecond
      · exact Operation.isOfOperation_or_mem_answer hfirst
      · unfold change at hsecond
        split at hsecond
        · cases hsecond
        · exact Operation.isOfOperation_or_mem_answer hsecond

end

/-! ## What an invocation shows of its URL -/

/-- Over a connection, no command shows a database URL. -/
theorem Command.urls_run (command : Command) (client : Wire.Client) (link : Wire.Link) :
    (command.run client.server link).events.filterMap Event.url? = [] := by
  rw [List.filterMap_eq_nil_iff]
  intro event hevent
  apply Event.url?_eq_none
  rcases Command.isOfOperation_or_mem_answer hevent with hoperation | ⟨state, call, hanswer⟩
  · rw [Event.isOfOperation, decide_eq_true_eq] at hoperation
    rw [hoperation]
    decide
  · rcases Wire.Client.isOfClient_of_mem_answer hanswer with htarget | htarget
    · rw [htarget]
      decide
    · rw [htarget]
      decide

/-- An invocation whose settings can be loaded shows the database URL that it is given, masked,
and no other. -/
theorem Program.urls_run {place : Surroundings} {file : Settings} {path : Option Path}
    (hfile : Settings.loadOrDefault place.tree place.directory = .ok (file, path))
    (backend : Wire.Backend) (invocation : Invocation) :
    (run place backend invocation).events.filterMap Event.url? =
      (invocation.databaseUrl.map Masking.mask).toList := by
  obtain ⟨settings, events, hsettings, hevents⟩ :
      ∃ settings events, Program.settings place invocation.databaseUrl = .ok (settings, events) ∧
        events.filterMap Event.url? = (invocation.databaseUrl.map Masking.mask).toList := by
    rw [Program.settings, hfile]
    refine ⟨_, _, rfl, ?_⟩
    cases path <;> cases invocation.databaseUrl <;> rfl
  rw [run, hsettings]
  dsimp only
  cases settings.connInfo with
  | error error => exact hevents
  | ok info =>
    rw [List.filterMap_append, hevents, Command.urls_run, List.append_nil]

end Schemata
