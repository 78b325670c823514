import Schemata.Operation

/-!
# Making changes

Against any server, an update makes its changes in order until a statement fails, and
reads back when none has.  `Server.Carries` says that a server carries out a list of
statements; the changes made so far can then be split off a run
(`run_makeChanges_append`), and every run ends either at the read-back or at the first
change that the server refuses (`exists_carries`).
-/

namespace Schemata

@[simp]
theorem statementsSent_append (left right : List Exchange) :
    statementsSent (left ++ right) = statementsSent left ++ statementsSent right := by
  fun_induction statementsSent left <;> simp_all [statementsSent]

@[simp]
theorem statementsDone_append (left right : List Exchange) :
    statementsDone (left ++ right) = statementsDone left ++ statementsDone right := by
  fun_induction statementsDone left <;> simp_all [statementsDone]

theorem mem_statementsDone_iff {statement : Statement} {trace : List Exchange} :
    statement ∈ statementsDone trace ↔ ⟨.execute statement, .ok ()⟩ ∈ trace := by
  fun_induction statementsDone trace with
  | case1 => simp
  | case2 other rest ih => simp [ih]
  | case3 exchange rest hother ih =>
    rw [ih, List.mem_cons, or_iff_right]
    rintro rfl
    exact hother statement rfl

theorem mem_statementsSent_iff {statement : Statement} {trace : List Exchange} :
    statement ∈ statementsSent trace ↔ ∃ reply, ⟨.execute statement, reply⟩ ∈ trace := by
  fun_induction statementsSent trace with
  | case1 => simp
  | case2 other reply rest ih =>
    simp only [List.mem_cons, ih, exists_or]
    refine or_congr_left ⟨?_, ?_⟩
    · rintro rfl
      exact ⟨reply, rfl⟩
    · rintro ⟨_, heq⟩
      cases heq
      rfl
  | case3 exchange rest hother ih =>
    simp only [List.mem_cons, ih, exists_or]
    refine (or_iff_right ?_).symm
    rintro ⟨reply, rfl⟩
    exact hother statement reply rfl

/-- The call that sends the statement, with the reply that it was carried out. -/
def Statement.carriedOut (statement : Statement) : Exchange :=
  ⟨.execute statement, .ok ()⟩

@[simp]
theorem statementsSent_map_carriedOut (statements : List Statement) :
    statementsSent (statements.map Statement.carriedOut) = statements := by
  induction statements with
  | nil => rfl
  | cons statement rest ih => exact congrArg _ ih

@[simp]
theorem statementsDone_map_carriedOut (statements : List Statement) :
    statementsDone (statements.map Statement.carriedOut) = statements := by
  induction statements with
  | nil => rfl
  | cons statement rest ih => exact congrArg _ ih

namespace Change

/-- The call that makes a change, with the reply that it was made. -/
def exchange (change : Change) : Exchange :=
  ⟨.execute change.toStatement, .ok ()⟩

theorem map_exchange (changes : List Change) :
    changes.map exchange = (changes.map toStatement).map Statement.carriedOut := by
  rw [List.map_map]
  rfl

@[simp]
theorem statementsSent_map_exchange (changes : List Change) :
    statementsSent (changes.map exchange) = changes.map toStatement := by
  rw [map_exchange, statementsSent_map_carriedOut]

@[simp]
theorem statementsDone_map_exchange (changes : List Change) :
    statementsDone (changes.map exchange) = changes.map toStatement := by
  rw [map_exchange, statementsDone_map_carriedOut]

end Change

namespace Resource

/-- What the host notes down once a change is made: a new name, which is the new
identity as well.  The owner is left to the read-back. -/
def afterChange (resource : Resource) : Change → Resource
  | .rename _ target => (resource.set .name target).setId (some target)
  | .changeOwner _ _ => resource

def afterChanges (resource : Resource) (changes : List Change) : Resource :=
  changes.foldl afterChange resource

theorem afterChanges_append (resource : Resource) (left right : List Change) :
    resource.afterChanges (left ++ right) = (resource.afterChanges left).afterChanges right :=
  List.foldl_append ..

theorem afterChanges_planned (resource : Resource) (changes : List Change) :
    (resource.afterChanges changes).planned = resource.planned := by
  induction changes generalizing resource with
  | nil => rfl
  | cons change rest ih =>
    cases change <;> exact ih _

end Resource

/-- The server carries out the statements one after the other. -/
inductive Server.Carries {σ : Type} (server : Server σ) : List Statement → σ → σ → Prop
  | nil (state : σ) : Carries server [] state state
  | cons {statement : Statement} {rest : List Statement} {state final : σ}
      (hdone : (server.answer state (.execute statement)).reply = .ok ())
      (hrest : Carries server rest (server.answer state (.execute statement)).state final) :
      Carries server (statement :: rest) state final

theorem Server.Carries.append {σ : Type} {server : Server σ} {left right : List Statement}
    {state mid final : σ} (hleft : server.Carries left state mid)
    (hright : server.Carries right mid final) :
    server.Carries (left ++ right) state final := by
  induction hleft with
  | nil _ => exact hright
  | cons hdone _ ih => exact .cons hdone (ih hright)

theorem Server.Carries.of_append {σ : Type} {server : Server σ} {left right : List Statement}
    {state final : σ} (h : server.Carries (left ++ right) state final) :
    ∃ mid, server.Carries left state mid ∧ server.Carries right mid final := by
  induction left generalizing state with
  | nil => exact ⟨state, .nil state, h⟩
  | cons statement rest ih =>
    cases h with
    | cons hdone hrest =>
      obtain ⟨mid, hleft, hright⟩ := ih hrest
      exact ⟨mid, .cons hdone hleft, hright⟩

/-- A run with something before it. -/
def Run.prepend {σ : Type} (run : Run σ) (events : List Event) (trace : List Exchange) :
    Run σ :=
  { run with events := events ++ run.events, trace := trace ++ run.trace }

@[simp]
theorem Run.prepend_prepend {σ : Type} (run : Run σ) (events events' : List Event)
    (trace trace' : List Exchange) :
    (run.prepend events trace).prepend events' trace' =
      run.prepend (events' ++ events) (trace' ++ trace) := by
  simp only [Run.prepend, List.append_assoc]

section

variable {σ : Type} {server : Server σ}

/-- A server carries out a list of statements up to its end, or up to one that fails. -/
theorem exists_carries (server : Server σ) (changes : List Change) (state : σ) :
    ∃ made rest final, changes = made ++ rest ∧
      server.Carries (made.map Change.toStatement) state final ∧
      ∀ change ∈ rest.head?, ∃ fault,
        (server.answer final (.execute change.toStatement)).reply = .error fault := by
  induction changes generalizing state with
  | nil => exact ⟨[], [], state, rfl, .nil state, by simp⟩
  | cons change rest ih =>
    cases hreply : (server.answer state (.execute change.toStatement)).reply with
    | error fault =>
      refine ⟨[], change :: rest, state, rfl, .nil state, ?_⟩
      simp [hreply]
    | ok _ =>
      obtain ⟨made, left, final, rfl, hcarries, hleft⟩ :=
        ih (server.answer state (.execute change.toStatement)).state
      exact ⟨change :: made, left, final, rfl, .cons hreply hcarries, hleft⟩

theorem run_execute_of_ok {statement : Statement} {next : Procedure} {resource : Resource}
    {state : σ} (hdone : (server.answer state (.execute statement)).reply = .ok ()) :
    (Procedure.execute statement next).run server resource state =
      (next.run server resource (server.answer state (.execute statement)).state).prepend
        (server.answer state (.execute statement)).events
        [⟨.execute statement, .ok ()⟩] := by
  simp [Procedure.execute, Procedure.run, hdone, Run.prepend]

theorem run_execute_of_error {statement : Statement} {next : Procedure} {resource : Resource}
    {state : σ} {fault : Fault}
    (hfailed : (server.answer state (.execute statement)).reply = .error fault) :
    (Procedure.execute statement next).run server resource state =
      ((Procedure.finish (.error (.execution statement.action statement.schema fault))).run server
        resource (server.answer state (.execute statement)).state).prepend
        (server.answer state (.execute statement)).events
        [⟨.execute statement, .error fault⟩] := by
  simp [Procedure.execute, Procedure.run, hfailed, Run.prepend]

/-- One change that is made can be split off a run. -/
theorem run_makeChanges_cons {change : Change} (rest : List Change) (resource : Resource)
    {state : σ}
    (hdone : (server.answer state (.execute change.toStatement)).reply = .ok ()) :
    ∃ events, (Procedure.makeChanges (change :: rest) resource).run server resource state =
      ((Procedure.makeChanges rest (resource.afterChange change)).run server
        (resource.afterChange change)
        (server.answer state (.execute change.toStatement)).state).prepend
        events [change.exchange] := by
  cases change with
  | rename source target =>
    refine ⟨(server.answer state (.execute (.rename source target))).events ++
      [.schemaRenamed source target], (run_execute_of_ok hdone).trans ?_⟩
    simp [Procedure.run, Run.prepend, Resource.afterChange, Change.exchange,
      Change.toStatement]
  | changeOwner schema target =>
    refine ⟨(server.answer state (.execute (.changeOwner schema target))).events ++
      [.ownerChanged schema target], (run_execute_of_ok hdone).trans ?_⟩
    simp [Procedure.run, Run.prepend, Resource.afterChange, Change.exchange,
      Change.toStatement]

/-- The changes made so far can be split off a run. -/
theorem run_makeChanges_append {made : List Change} {state final : σ}
    (hcarries : server.Carries (made.map Change.toStatement) state final)
    (rest : List Change) (resource : Resource) :
    ∃ events, (Procedure.makeChanges (made ++ rest) resource).run server resource state =
      ((Procedure.makeChanges rest (resource.afterChanges made)).run server
        (resource.afterChanges made) final).prepend events (made.map Change.exchange) := by
  induction made generalizing state resource with
  | nil =>
    cases hcarries
    exact ⟨[], rfl⟩
  | cons change made ih =>
    cases hcarries with
    | cons hdone hrest =>
      obtain ⟨events, hrun⟩ := ih hrest (resource.afterChange change)
      obtain ⟨events', hrun'⟩ := run_makeChanges_cons (made ++ rest) resource hdone
      refine ⟨events' ++ events, ?_⟩
      rw [List.cons_append, hrun', hrun, Run.prepend_prepend]
      rfl

/-- A change that is refused ends the run. -/
theorem run_makeChanges_of_error {change : Change} (rest : List Change) (resource : Resource)
    {state : σ} {fault : Fault}
    (hfailed : (server.answer state (.execute change.toStatement)).reply = .error fault) :
    let answer := server.answer state (.execute change.toStatement)
    let run := (Procedure.makeChanges (change :: rest) resource).run server resource state
    run.state = (server.answer answer.state .close).state ∧ run.resource = resource ∧
      run.result = .error (.execution change.toStatement.action change.toStatement.schema fault) ∧
      run.trace = [⟨.execute change.toStatement, .error fault⟩, ⟨.close, ()⟩] := by
  have hrun : (Procedure.makeChanges (change :: rest) resource).run server resource state =
      ((Procedure.finish (.error (.execution change.toStatement.action
        change.toStatement.schema fault))).run server resource
        (server.answer state (.execute change.toStatement)).state).prepend
        (server.answer state (.execute change.toStatement)).events
        [⟨.execute change.toStatement, .error fault⟩] := by
    cases change with
    | rename source target => exact run_execute_of_error hfailed
    | changeOwner schema target => exact run_execute_of_error hfailed
  intro answer run
  simp [run, answer, hrun, Procedure.finish, Procedure.run, Run.prepend]

theorem statementsSent_readBack (server : Server σ) (resource resource' : Resource) (state : σ) :
    statementsSent ((Procedure.readBack resource).run server resource' state).trace = [] := by
  cases hid : resource.id with
  | none =>
    simp only [Procedure.readBack, hid]
    rfl
  | some name =>
    simp only [Procedure.readBack, hid, Procedure.run, statementsSent]
    rcases (server.answer state (.lookup name)).reply with fault | _ | record
    all_goals rfl

/-- What is sent are the first of the changes, up to one that the server refuses. -/
theorem statementsSent_makeChanges (server : Server σ) (changes : List Change)
    (resource : Resource) (state : σ) :
    ∃ sent, sent <+: changes ∧
      statementsSent ((Procedure.makeChanges changes resource).run server resource state).trace =
        sent.map Change.toStatement := by
  obtain ⟨made, rest, final, rfl, hcarries, hrefused⟩ := exists_carries server changes state
  obtain ⟨events, hrun⟩ := run_makeChanges_append hcarries rest resource
  simp only [hrun, Run.prepend, statementsSent_append, Change.statementsSent_map_exchange]
  cases rest with
  | nil =>
    refine ⟨made, List.prefix_append made [], ?_⟩
    rw [Procedure.makeChanges, statementsSent_readBack, List.append_nil]
  | cons change rest =>
    obtain ⟨fault, hfailed⟩ := hrefused change rfl
    obtain ⟨-, -, -, htrace⟩ :=
      run_makeChanges_of_error rest (resource.afterChanges made) hfailed
    refine ⟨made ++ [change], ⟨rest, by rw [List.append_assoc, List.singleton_append]⟩, ?_⟩
    rw [htrace, List.map_append]
    rfl

theorem run_update_of_diff_eq_ok {resource : Resource} {changes : List Change}
    (hdiff : resource.diff = .ok changes) (server : Server σ) (state : σ) :
    Operation.update.run server resource state =
      (Procedure.withSession (Procedure.makeChanges changes resource)).run server resource
        state := by
  simp only [Operation.run, Operation.procedure, Procedure.update, hdiff]

/-- An update sends the first statements of its difference, and no others. -/
theorem statementsSent_update {resource : Resource} {changes : List Change}
    (hdiff : resource.diff = .ok changes) (server : Server σ) (state : σ) :
    ∃ sent, sent <+: changes ∧
      statementsSent (Operation.update.run server resource state).trace =
        sent.map Change.toStatement := by
  simp only [run_update_of_diff_eq_ok hdiff, Procedure.withSession, Procedure.run,
    statementsSent]
  cases (server.answer state .connect).reply with
  | ok _ => exact statementsSent_makeChanges server changes resource _
  | error fault => exact ⟨[], List.nil_prefix, rfl⟩

end

end Schemata
