import Schemata.Program
import Schemata.Proofs.CommandEffects
import Schemata.Proofs.StatementText
import Schemata.Proofs.WireRefinement

/-!
# What an invocation does

Over a connection the texts of the statements of a command are sent in order, up to one that
fails, and besides them only lookups are prepared (`Wire.Client.Steps.texts`).  With what a command
does against any server, this is what an invocation does: which texts it sends, when it succeeds,
and what it prints (`run_carries_out_command`).
-/

namespace Schemata

namespace Wire

/-! ## The texts that are sent -/

/-- The text of a message that prepares anything but a lookup. -/
def Message.statementText? : Message → Option String
  | .prepare sql => if sql = lookupQuery then none else some sql
  | _ => none

/-- The lookup is no statement. -/
theorem render_ne_lookupQuery (statement : Statement) : statement.render ≠ lookupQuery := by
  intro heq
  have hread : Statement.read? lookupQuery.toList = some statement :=
    Statement.read?_eq_some_iff.mpr (congrArg String.toList heq.symm)
  have hnone : Statement.read? lookupQuery.toList = none := by decide
  cases hread.symm.trans hnone

section

variable {client : Client} {link mid final : Link} {exchange : Exchange}
  {messages : List Message} {trace : List Exchange} {sent : List (List Message)}

theorem filterMap_statementText?_of_isOpening (h : ∀ message ∈ messages, message.isOpening) :
    messages.filterMap Message.statementText? = [] := by
  rw [List.filterMap_eq_nil_iff]
  intro message hmem
  have hopening := h message hmem
  cases message <;> simp_all [Message.isOpening, Message.statementText?]

/-- The text of a statement is sent, unless the statement fails without. -/
theorem Client.Step.texts (h : client.Step link exchange messages mid) :
    messages.filterMap Message.statementText? =
        (statementsSent [exchange]).map Statement.render ∨
      messages.filterMap Message.statementText? = [] ∧
        ∃ statement fault, exchange = ⟨.execute statement, .error fault⟩ := by
  cases h with
  | misfit misfit hmisfit => exact .inl rfl
  | connect hfits htries hafter =>
    exact .inl (filterMap_statementText?_of_isOpening htries.opening.1)
  | statementLost statement hlost => exact .inr ⟨rfl, statement, _, rfl⟩
  | statementUnsendable statement hopen hsql => exact .inr ⟨rfl, statement, _, rfl⟩
  | statement statement outcome hopen hsql hmessages houtcome hreply hafter =>
    subst hmessages
    left
    simp [Message.statementText?, render_ne_lookupQuery, statementsSent]
  | lookupLost name hlost => exact .inl rfl
  | lookup name outcome hopen hmessages houtcome hreply hafter =>
    subst hmessages
    left
    simp [Message.statementText?, statementsSent]
  | close hopen => exact .inl rfl
  | closed hlost => exact .inl rfl

/-- When no statement is sent after one that failed, the texts sent are those of the statements in
order, without the last of them perhaps. -/
theorem Client.Steps.texts (h : client.Steps link trace sent final)
    (hstops : trace.Pairwise Exchange.StopsBefore) :
    sent.flatten.filterMap Message.statementText? <+:
      (statementsSent trace).map Statement.render := by
  induction h with
  | nil link => exact List.nil_prefix
  | @cons link mid final exchange messages trace sent hfirst hrest ih =>
    obtain ⟨hlater, hstops⟩ := List.pairwise_cons.mp hstops
    have hcons : statementsSent (exchange :: trace) =
        statementsSent [exchange] ++ statementsSent trace := statementsSent_append [exchange] trace
    rw [List.flatten_cons, List.filterMap_append, hcons, List.map_append]
    rcases hfirst.texts with htext | ⟨hnone, statement, fault, hfailed⟩
    · rw [htext]
      exact (List.prefix_append_right_inj _).mpr (ih hstops)
    · -- A statement that failed is the last one.
      have hlast : statementsSent trace = [] := by
        rw [List.eq_nil_iff_forall_not_mem]
        intro later hmem
        obtain ⟨reply, hmem⟩ := mem_statementsSent_iff.mp hmem
        exact hlater _ hmem statement fault hfailed later reply rfl
      have hrest := ih hstops
      rw [hlast, List.map_nil, List.prefix_nil] at hrest
      rw [hnone, hrest]
      exact List.nil_prefix

/-- When no call fails, the texts of all statements are sent. -/
theorem Client.Steps.texts_of_ok (h : client.Steps link trace sent final)
    (hok : ∀ exchange ∈ trace, exchange.error? = none) :
    sent.flatten.filterMap Message.statementText? =
      (statementsSent trace).map Statement.render := by
  induction h with
  | nil link => rfl
  | @cons link mid final exchange messages trace sent hfirst hrest ih =>
    obtain ⟨hhead, hok⟩ := List.forall_mem_cons.mp hok
    have hcons : statementsSent (exchange :: trace) =
        statementsSent [exchange] ++ statementsSent trace := statementsSent_append [exchange] trace
    rw [List.flatten_cons, List.filterMap_append, hcons, List.map_append, ih hok]
    rcases hfirst.texts with htext | ⟨-, statement, fault, rfl⟩
    · rw [htext]
    · cases hhead

end

/-! ## The records that are found -/

/-- No record that the server will answer a lookup with has an empty name. -/
def Backend.NamesRecords (backend : Backend) : Prop :=
  ∀ owner, .complete [{ name := some "", owner := some owner }] ∉ backend.lookups

section

variable {client : Client} {link mid final : Link} {exchange : Exchange}
  {messages : List Message} {trace : List Exchange} {sent : List (List Message)}

theorem Client.Step.namesRecords (h : client.Step link exchange messages mid)
    (hnames : link.backend.NamesRecords) :
    mid.backend.NamesRecords ∧
      ∀ record, some record ∈ recordsFound [exchange] → record.name ≠ "" := by
  cases h with
  | misfit misfit hmisfit => exact ⟨hnames, by simp [recordsFound]⟩
  | connect hfits htries hafter =>
    obtain ⟨-, admissions, rfl⟩ := htries.opening
    subst hafter
    exact ⟨hnames, by simp [recordsFound]⟩
  | statementLost statement hlost => exact ⟨hnames, by simp [recordsFound]⟩
  | statementUnsendable statement hopen hsql => exact ⟨hnames, by simp [recordsFound]⟩
  | statement statement outcome hopen hsql hmessages houtcome hreply hafter =>
    subst hafter
    exact ⟨hnames, by simp [recordsFound]⟩
  | lookupLost name hlost => exact ⟨hnames, by simp [recordsFound]⟩
  | lookup name outcome hopen hmessages houtcome hreply hafter =>
    subst hafter
    constructor
    · intro owner hmem
      exact hnames owner (List.mem_of_mem_tail hmem)
    · intro record hrecord
      cases hreply with
      | absent => simp [recordsFound] at hrecord
      | found name owner =>
        obtain rfl : record = { name, owner } := by simpa [recordsFound] using hrecord
        have hmem :
            .complete [{ name := some name, owner := some owner }] ∈ link.backend.lookups := by
          cases hlookups : link.backend.lookups with
          | nil => simp [hlookups] at houtcome
          | cons outcome rest =>
            rw [hlookups] at houtcome
            rw [houtcome]
            exact List.mem_cons_self
        rintro rfl
        exact hnames owner hmem
      | nameNull owner => simp [recordsFound] at hrecord
      | ownerNull name => simp [recordsFound] at hrecord
      | tooMany first second rest => simp [recordsFound] at hrecord
      | failed report => simp [recordsFound] at hrecord
      | lost => simp [recordsFound] at hrecord
  | close hopen => exact ⟨hnames, by simp [recordsFound]⟩
  | closed hlost => exact ⟨hnames, by simp [recordsFound]⟩

theorem Client.Steps.namesRecords (h : client.Steps link trace sent final)
    (hnames : link.backend.NamesRecords) :
    ∀ record, some record ∈ recordsFound trace → record.name ≠ "" := by
  induction h with
  | nil link => nofun
  | @cons link mid final exchange messages trace sent hfirst hrest ih =>
    obtain ⟨hmid, hrecord⟩ := hfirst.namesRecords hnames
    intro record hmem
    have hcons : recordsFound (exchange :: trace) = recordsFound [exchange] ++ recordsFound trace :=
      recordsFound_append [exchange] trace
    rw [hcons, List.mem_append] at hmem
    rcases hmem with hmem | hmem
    · exact hrecord record hmem
    · exact ih hmid record hmem

end

theorem Client.steps_command (client : Client) (command : Command) (link : Link) :
    let run := command.run client.server link
    ∃ sent, client.Steps link run.trace sent run.state := by
  cases command with
  | create name owner => exact client.steps_run _ _ link
  | read name => exact client.steps_run _ _ link
  | drop name behavior => exact client.steps_run _ _ link
  | adopt name => exact client.steps_run _ _ link
  | update name renameTo owner =>
    obtain ⟨sent, hfirst⟩ :=
      client.steps_run (Operation.read.procedure (.ofId name)) (.ofId name) link
    by_cases hread : (Operation.read.run client.server (.ofId name) link).result = .ok ()
    · obtain ⟨-, htrace, hstate⟩ :=
        @Command.run_update_of_read Link client.server link name renameTo owner hread
      let first := Operation.read.run client.server (.ofId name) link
      have hsecond : ∃ sent', client.Steps first.state
          (Command.change client.server name renameTo owner first.resource first.state).trace sent'
          (Command.change client.server name renameTo owner first.resource first.state).state := by
        by_cases hid : first.resource.id = none
        · rw [Command.change_of_id_eq_none hid]
          exact ⟨[], .nil _⟩
        · obtain ⟨planned, hchange⟩ := Command.exists_change_eq hid first.state
          rw [hchange]
          exact client.steps_run _ _ _
      obtain ⟨sent', hsecond⟩ := hsecond
      refine ⟨sent ++ sent', ?_⟩
      rw [htrace, hstate]
      exact hfirst.append hsecond
    · refine ⟨sent, ?_⟩
      rw [Command.run_update_of_read_failed hread]
      exact hfirst

end Wire

/-! ## The program -/

namespace Program

open Text.Terminal (bold dimmed)

/-- What is printed when the last lookup has found the record, or nothing. -/
def displayFound : Option Record → List String
  | some record => [bold "name" ++ ": " ++ record.name, bold "owner" ++ ": " ++ record.owner]
  | none => [dimmed "absent"]

theorem display_eq_displayFound (resource : Resource) :
    display resource = displayFound resource.record := by
  rw [display]
  cases resource.record <;> rfl

theorem mapError_eq_ok_iff {result : Except CommandError Resource} {resource : Resource} :
    result.mapError Failure.command = .ok resource ↔ result = .ok resource := by
  cases result <;> simp [Except.mapError]

/-- With usable settings, and a server that answers with no record without a name: an invocation
prepares lookups and the texts of the statements that its command comes to, in order and up to one
that fails.  It succeeds when nothing is wrong with the command and no call fails; then it has sent
all those texts, and it prints what the last lookup found, which only a drop does without.  When it
fails it prints nothing. -/
theorem run_carries_out_command (place : Surroundings) (backend : Wire.Backend)
    (invocation : Invocation) {settings : Settings} {events : List Event} {info : ConnInfo}
    (hsettings : Program.settings place invocation.databaseUrl = .ok (settings, events))
    (hinfo : settings.connInfo = .ok info) (hnames : backend.NamesRecords) :
    let client : Wire.Client := { info, network := place.network }
    let command := invocation.command
    let run := command.run client.server { backend }
    let found := (recordsFound run.trace).head?.join
    let texts := (command.statements found).map Statement.render
    let outcome := Program.run place backend invocation
    (∃ sent, client.Steps { backend } run.trace sent run.state ∧
      outcome.backend.received = backend.received ++ sent.flatten ∧
      sent.flatten.filterMap Wire.Message.statementText? <+: texts ∧
      ((∃ resource, outcome.result = .ok resource) →
        sent.flatten.filterMap Wire.Message.statementText? = texts)) ∧
    ((∃ resource, outcome.result = .ok resource) ↔
      (∀ exchange ∈ run.trace, exchange.error? = none) ∧ command.Accepts found) ∧
    (∀ resource, outcome.result = .ok resource →
      outcome.display = displayFound (recordsFound run.trace).getLast?.join ∧
        (recordsFound run.trace = [] → ∃ name behavior, command = .drop name behavior)) ∧
    ∀ failure, outcome.result = .error failure → outcome.display = [] := by
  intro client command run found texts outcome
  have houtcome : outcome =
      { result := run.result.mapError Failure.command
        events := events ++ run.events
        backend := run.state.backend } := by
    simp only [outcome, Program.run, hsettings, hinfo]
    rfl
  obtain ⟨sent, hsteps⟩ := client.steps_command command { backend }
  have heffects : command.Effects run :=
    command.effects client.server { backend } (hsteps.namesRecords hnames)
  have hresult (resource : Resource) :
      outcome.result = .ok resource ↔ run.result = .ok resource := by
    rw [houtcome]
    exact mapError_eq_ok_iff
  refine ⟨⟨sent, hsteps, ?_, ?_, ?_⟩, ?_, ?_, ?_⟩
  · rw [houtcome]
    exact hsteps.sends.2
  · exact (hsteps.texts heffects.stops).trans (heffects.sends.map Statement.render)
  · rintro ⟨resource, hok⟩
    have hrun : run.result = .ok resource := (hresult resource).mp hok
    rw [hsteps.texts_of_ok (heffects.isOk.mp ⟨resource, hrun⟩).1, heffects.complete resource hrun]
  · simp only [hresult]
    exact heffects.isOk
  · intro resource hok
    have hrun : run.result = .ok resource := (hresult resource).mp hok
    refine ⟨?_, heffects.looks resource hrun⟩
    rw [Outcome.display, hok, ← heffects.record resource hrun]
    exact display_eq_displayFound resource
  · intro failure hfailure
    rw [Outcome.display, hfailure]

/-- A rename and an owner change without any settings, on a server that carries both out. -/
theorem run_carries_out_update :
    let place : Surroundings :=
      { tree := { entry := fun _ => none }, directory := [], network := .localServer 5432 }
    let backend : Wire.Backend :=
      { lookups := [.complete [⟨some "a", some "alice"⟩], .complete [⟨some "b", some "bob"⟩]] }
    let outcome := run place backend
      { command := .update "a" (some "b") (some "bob"), databaseUrl := none }
    outcome.result.isOk ∧ outcome.display = displayFound (some ⟨"b", "bob"⟩) := by
  intro place backend outcome
  have hnames : backend.NamesRecords := by
    simp [Wire.Backend.NamesRecords, backend]
  obtain ⟨-, -, hshown, -⟩ := run_carries_out_command place backend
    { command := .update "a" (some "b") (some "bob"), databaseUrl := none } rfl rfl hnames
  have hok : outcome.result.isOk := by decide +kernel
  cases hresult : outcome.result with
  | error failure =>
    rw [hresult] at hok
    cases hok
  | ok resource =>
    refine ⟨rfl, (hshown resource hresult).1.trans (congrArg displayFound ?_)⟩
    decide +kernel

end Program

end Schemata
