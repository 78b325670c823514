import Mathlib.Data.List.Basic
import Schemata.Catalog
import Schemata.Proofs.Episodes
import Schemata.Script
import Schemata.Wire.Client

/-!
# The log tells what was done

An operation logs one event for each statement that was carried out and one for a lookup that
found nothing, in the order of the calls, and no other (`Operation.Admits.events_eq`).  So the
log of any number of operations can be read as the list of what they did to the catalog, and
of the schemas they found gone (`log_tells_what_was_done`).
-/

namespace Schemata

/-- The event that an operation logs for a call, if any. -/
def Exchange.event? : Exchange → Option Event
  | ⟨.execute statement, .ok ()⟩ => some statement.event
  | ⟨.lookup name, .ok none⟩ => some (.schemaMissing name)
  | _ => none

/-- The names looked up among the calls of a run that were not found, in order. -/
def namesMissing : List Exchange → List String
  | [] => []
  | ⟨.lookup name, .ok none⟩ :: rest => name :: namesMissing rest
  | _ :: rest => namesMissing rest

/-- What the log says of a statement that was carried out. -/
def Statement.entry : Statement → LogEntry
  | .create name _ => { title := "created schema", fields := [("schema", .text name)] }
  | .rename source target =>
    { title := "renamed schema", fields := [("from", .text source), ("to", .text target)] }
  | .changeOwner name owner =>
    { title := "changed schema owner"
      fields := [("schema", .text name), ("owner", .text owner)] }
  | .drop name _ => { title := "dropped schema", fields := [("schema", .text name)] }

/-- What the log says of a schema that was not found. -/
def missingEntry (name : String) : LogEntry :=
  { title := "schema not found, clearing state", fields := [("schema", .text name)] }

/-! ## The events of one operation -/

theorem Resource.ReadsBack.events_eq {resource : Resource} {episode : Episode}
    (h : resource.ReadsBack episode) :
    episode.events = episode.trace.filterMap Exchange.event? := by
  cases h <;> rfl

theorem Resource.Sends.events_eq {statements : List Statement} {resource : Resource}
    {episode : Episode} (h : Sends statements resource episode) :
    episode.events = episode.trace.filterMap Exchange.event? := by
  induction h with
  | readBack hread => exact hread.events_eq
  | refused statement rest resource fault => rfl
  | carriedOut statement hrest ih => exact congrArg (statement.event :: ·) ih

theorem Operation.Admits.events_eq {operation : Operation} {resource : Resource}
    {episode : Episode} (h : operation.Admits resource episode) :
    episode.events = episode.trace.filterMap Exchange.event? := by
  cases h with
  | rejected hagenda => rfl
  | settled hagenda => rfl
  | unconnected fault hagenda => rfl
  | session hagenda hsends => exact hsends.events_eq

theorem isOfOperation_of_event?_eq_some {exchange : Exchange} {event : Event}
    (hevent : exchange.event? = some event) : event.isOfOperation = true := by
  unfold Exchange.event? at hevent
  split at hevent
  · next statement =>
    cases hevent
    cases statement <;> rfl
  · cases hevent
    rfl
  · cases hevent

theorem events_of_mem_runAll {σ : Type} {server : Server σ} (hserver : server.LogsApart)
    {tasks : List (Operation × Resource)} {state : σ} {run : Run σ}
    (hrun : run ∈ Operation.runAll server tasks state) :
    run.events.filter Event.isOfOperation = run.trace.filterMap Exchange.event? := by
  obtain ⟨operation, resource, episode, hadmits, hfollows⟩ :=
    Operation.exists_episode_of_mem_runAll hrun
  rw [hfollows.events hserver, hadmits.events_eq, hfollows.trace, List.filter_eq_self]
  intro event hmem
  obtain ⟨exchange, -, hevent⟩ := List.mem_filterMap.mp hmem
  exact isOfOperation_of_event?_eq_some hevent

/-- Of the events for some calls, those of level `info` tell the statements that were carried out,
and those of level `warn` the names that were not found. -/
theorem entries_filterMap_event? (trace : List Exchange) :
    ((trace.filterMap Exchange.event?).filter (·.level = .info)).map Event.entry =
        (statementsDone trace).map Statement.entry ∧
      ((trace.filterMap Exchange.event?).filter (·.level = .warn)).map Event.entry =
        (namesMissing trace).map missingEntry := by
  induction trace with
  | nil => exact ⟨rfl, rfl⟩
  | cons exchange rest ih =>
    obtain ⟨call, reply⟩ := exchange
    obtain ⟨hinfo, hwarn⟩ := ih
    cases call with
    | connect => exact ⟨hinfo, hwarn⟩
    | execute statement =>
      cases reply with
      | ok _ => cases statement <;> exact ⟨congrArg (_ :: ·) hinfo, hwarn⟩
      | error fault => exact ⟨hinfo, hwarn⟩
    | lookup name =>
      rcases reply with fault | _ | record
      · exact ⟨hinfo, hwarn⟩
      · exact ⟨hinfo, congrArg (missingEntry name :: ·) hwarn⟩
      · exact ⟨hinfo, hwarn⟩
    | close => exact ⟨hinfo, hwarn⟩

theorem level_of_event?_eq_some {exchange : Exchange} {event : Event}
    (hevent : exchange.event? = some event) : event.level = .info ∨ event.level = .warn := by
  unfold Exchange.event? at hevent
  split at hevent
  · next statement =>
    cases hevent
    cases statement <;> exact .inl rfl
  · cases hevent
    exact .inr rfl
  · cases hevent

/-! ## After a lookup that found nothing -/

theorem Resource.Sends.cleared {statements : List Statement} {resource : Resource}
    {episode : Episode} (h : Sends statements resource episode) {name : String}
    (hmem : ⟨.lookup name, .ok none⟩ ∈ episode.trace) :
    episode.resource.id = none ∧ ∃ earlier, episode.events = earlier ++ [.schemaMissing name] := by
  induction h with
  | readBack hread =>
    cases hread with
    | missing hid =>
      rcases List.mem_cons.mp hmem with hhead | htail
      · cases hhead
        exact ⟨rfl, [], rfl⟩
      · cases List.mem_singleton.mp htail
    | unnamed hid => simp at hmem
    | found record hid => simp at hmem
    | failed fault hid => simp at hmem
  | refused statement rest resource fault => simp at hmem
  | carriedOut statement hrest ih =>
    rcases List.mem_cons.mp hmem with hhead | htail
    · cases hhead
    · obtain ⟨hid, earlier, hevents⟩ := ih htail
      exact ⟨hid, statement.event :: earlier, congrArg (statement.event :: ·) hevents⟩

theorem Operation.Admits.cleared {operation : Operation} {resource : Resource}
    {episode : Episode} (h : operation.Admits resource episode) {name : String}
    (hmem : ⟨.lookup name, .ok none⟩ ∈ episode.trace) :
    episode.resource.id = none ∧ ∃ earlier, episode.events = earlier ++ [.schemaMissing name] := by
  cases h with
  | rejected hagenda => cases hmem
  | settled hagenda => cases hmem
  | unconnected fault hagenda => simp at hmem
  | session hagenda hsends =>
    rcases List.mem_cons.mp hmem with hhead | htail
    · cases hhead
    · exact hsends.cleared htail

/-! ## Servers that log apart -/

theorem scriptedServer_logsApart : scriptedServer.LogsApart := by
  intro script call event hevent
  cases call <;> cases hevent

theorem catalogServer_logsApart : catalogServer.LogsApart := by
  intro server call event hevent
  cases call with
  | connect =>
    simp only [catalogServer, CatalogServer.answer] at hevent
    split at hevent <;> cases hevent
  | execute statement =>
    simp only [catalogServer, CatalogServer.answer] at hevent
    split at hevent <;> cases hevent
  | lookup name =>
    simp only [catalogServer, CatalogServer.answer] at hevent
    split at hevent <;> cases hevent
  | close => cases hevent

/-- What a client logs by itself is about its connections and its requests. -/
def Event.isOfClient (event : Event) : Prop :=
  event.target = "pgschema::provider" ∨ event.target = "pgschema::traced"

theorem Wire.isOfClient_of_mem_settle {α β : Type} {backend : Wire.Backend}
    {span : Option Nat → Event} {accept : α → Option Nat × Except Fault β}
    {outcome : Wire.Outcome α} (hspan : ∀ count, (span count).isOfClient)
    {event : Event} (hevent : event ∈ (Wire.settle backend span accept outcome).2.2) :
    event.isOfClient := by
  cases outcome with
  | complete value =>
    obtain rfl := List.mem_singleton.mp hevent
    exact hspan _
  | fail report =>
    obtain rfl := List.mem_singleton.mp hevent
    exact hspan _
  | hangUp =>
    rcases List.mem_cons.mp hevent with rfl | hevent
    · exact hspan _
    · obtain rfl := List.mem_singleton.mp hevent
      exact .inl rfl

theorem Wire.Client.isOfClient_of_mem_answer {client : Wire.Client} {link : Wire.Link}
    {call : Call} {event : Event} (hevent : event ∈ (client.server.answer link call).events) :
    event.isOfClient := by
  cases call with
  | connect =>
    simp only [Wire.Client.server, Wire.Client.connect] at hevent
    split at hevent
    · cases hevent
    · split at hevent
      · obtain rfl := List.mem_singleton.mp hevent
        exact .inl rfl
      · cases hevent
  | execute statement =>
    simp only [Wire.Client.server, Wire.execute] at hevent
    split at hevent
    · obtain rfl := List.mem_singleton.mp hevent
      exact .inr rfl
    · split at hevent
      · obtain rfl := List.mem_singleton.mp hevent
        exact .inr rfl
      · exact Wire.isOfClient_of_mem_settle (fun _ => .inr rfl) hevent
  | lookup name =>
    simp only [Wire.Client.server, Wire.lookup] at hevent
    split at hevent
    · obtain rfl := List.mem_singleton.mp hevent
      exact .inr rfl
    · exact Wire.isOfClient_of_mem_settle (fun _ => .inr rfl) hevent
  | close =>
    simp only [Wire.Client.server, Wire.close] at hevent
    split at hevent <;> cases hevent

theorem Wire.Client.server_logsApart (client : Wire.Client) : client.server.LogsApart := by
  intro link call event hevent
  rw [Event.isOfOperation, decide_eq_false_iff_not]
  rcases Wire.Client.isOfClient_of_mem_answer hevent with htarget | htarget
  · rw [htarget]
    decide
  · rw [htarget]
    decide

/-! ## The log of several operations -/

/-- The log of any number of operations has one entry of level `info` for each statement that
was carried out, in order, and one of level `warn` for each lookup that found nothing, and no
other entries.  Such a warning is the last that its operation logs, which then ends without an
identity. -/
theorem log_tells_what_was_done {σ : Type} {server : Server σ} (hserver : server.LogsApart)
    (tasks : List (Operation × Resource)) (state : σ) :
    let runs := Operation.runAll server tasks state
    let trace := runs.flatMap Run.trace
    let events := (runs.flatMap Run.events).filter Event.isOfOperation
    (events.filter (·.level = .info)).map Event.entry =
      (statementsDone trace).map Statement.entry ∧
    (events.filter (·.level = .warn)).map Event.entry = (namesMissing trace).map missingEntry ∧
    (∀ event ∈ events, event.level = .info ∨ event.level = .warn) ∧
    ∀ run ∈ runs, ∀ name, ⟨.lookup name, .ok none⟩ ∈ run.trace →
      run.resource.id = none ∧
        ∃ earlier, run.events.filter Event.isOfOperation = earlier ++ [.schemaMissing name] := by
  intro runs trace events
  have hevents : events = trace.filterMap Exchange.event? := by
    simp only [events, trace, List.filter_flatMap, List.filterMap_flatMap]
    exact List.flatMap_congr fun run hrun => events_of_mem_runAll hserver hrun
  obtain ⟨hinfo, hwarn⟩ := entries_filterMap_event? trace
  rw [hevents]
  refine ⟨hinfo, hwarn, fun event hevent => ?_, fun run hrun name hmem => ?_⟩
  · obtain ⟨exchange, -, hevent⟩ := List.mem_filterMap.mp hevent
    exact level_of_event?_eq_some hevent
  · obtain ⟨operation, resource, episode, hadmits, hfollows⟩ :=
      Operation.exists_episode_of_mem_runAll hrun
    rw [hfollows.trace] at hmem
    obtain ⟨hid, earlier, hlast⟩ := hadmits.cleared hmem
    refine ⟨hfollows.resource ▸ hid, earlier.filter Event.isOfOperation, ?_⟩
    rw [hfollows.events hserver, hlast, List.filter_append]
    rfl

/-- An update whose second statement fails logs the first alone, and the schema that a later read
does not find is warned about. -/
theorem log_tells_refused_owner_and_missing_schema :
    let resource := ((Resource.ofRecord ⟨"a", "alice"⟩).plan .name "b").plan .owner "mallory"
    let runs := Operation.runAll scriptedServer [(.update, resource), (.read, .ofId "b")]
      { executes := [.ok (), .error { message := "role \"mallory\" does not exist" }] }
    let events := (runs.flatMap Run.events).filter Event.isOfOperation
    scriptedServer.LogsApart ∧
      (events.filter (·.level = .info)).map Event.entry =
        [{ title := "renamed schema", fields := [("from", .text "a"), ("to", .text "b")] }] ∧
      (events.filter (·.level = .warn)).map Event.entry =
        [{ title := "schema not found, clearing state", fields := [("schema", .text "b")] }] := by
  intro resource runs events
  obtain ⟨hinfo, hwarn, -, -⟩ := log_tells_what_was_done scriptedServer_logsApart
    [(.update, resource), (.read, .ofId "b")]
    { executes := [.ok (), .error { message := "role \"mallory\" does not exist" }] }
  exact ⟨scriptedServer_logsApart, hinfo, hwarn⟩

end Schemata
