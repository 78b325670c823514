import Mathlib.Data.List.Infix
import Schemata.Command
import Schemata.Proofs.Diff
import Schemata.Proofs.Failures
import Schemata.Proofs.Preview

/-!
# What a command does

A command sends a prefix of the statements that its arguments and the record it found ask for
(`Command.statements`), succeeds when none of its calls failed and there was nothing wrong with
what it was asked for (`Command.Accepts`), and then shows what its last lookup found.  For a
command of one operation this is what the operation admits; an update is a read and then an update
of the record that was read.  All this holds against any server (`Command.effects`).
-/

namespace Schemata

/-! ## Operations -/

/-- What the lookups of a run found, in order. -/
def recordsFound : List Exchange → List (Option Record)
  | [] => []
  | ⟨.lookup _, .ok found⟩ :: rest => found :: recordsFound rest
  | ⟨.lookup _, .error _⟩ :: rest => none :: recordsFound rest
  | _ :: rest => recordsFound rest

@[simp]
theorem recordsFound_append (left right : List Exchange) :
    recordsFound (left ++ right) = recordsFound left ++ recordsFound right := by
  fun_induction recordsFound left <;> simp_all [recordsFound]

/-- After a statement that failed no other is sent. -/
def Exchange.StopsBefore (earlier later : Exchange) : Prop :=
  ∀ statement fault, earlier = ⟨.execute statement, .error fault⟩ →
    ∀ statement reply, later ≠ ⟨.execute statement, reply⟩

namespace Resource

variable {statements : List Statement} {resource : Resource} {episode : Episode}

theorem Sends.statementsSent_isPrefix (h : Sends statements resource episode) :
    statementsSent episode.trace <+: statements := by
  induction h with
  | readBack hread => cases hread <;> exact List.nil_prefix
  | refused statement rest resource fault => exact List.prefix_append [statement] rest
  | carriedOut statement hrest ih => exact List.cons_prefix_cons.mpr ⟨rfl, ih⟩

theorem Sends.stops (h : Sends statements resource episode) :
    episode.trace.Pairwise Exchange.StopsBefore := by
  induction h with
  | readBack hread => cases hread <;> simp [Exchange.StopsBefore]
  | refused statement rest resource fault => simp [Exchange.StopsBefore]
  | carriedOut statement hrest ih =>
    refine List.pairwise_cons.mpr ⟨?_, ih⟩
    intro later _ statement' fault heq
    cases heq

theorem Sends.result_eq_ok_iff (h : Sends statements resource episode) :
    episode.result = .ok () ↔ ∀ exchange ∈ episode.trace, exchange.error? = none := by
  induction h with
  | readBack hread => cases hread <;> simp [Exchange.error?]
  | refused statement rest resource fault => simp [Exchange.error?]
  | carriedOut statement hrest ih =>
    have hcarried : statement.carriedOut.error? = none := rfl
    simp [Episode.prepend, ih, hcarried]

/-- A session that succeeds has sent all its statements. -/
theorem Sends.statementsSent_of_ok (h : Sends statements resource episode)
    (hok : episode.result = .ok ()) : statementsSent episode.trace = statements := by
  apply h.statementsSent_eq
  intro statement fault hmem
  cases h.result_eq_ok_iff.mp hok _ hmem

/-- A session that succeeds leaves the record that its lookup found, if it made one. -/
theorem Sends.recordsFound_eq (h : Sends statements resource episode)
    (hok : episode.result = .ok ()) :
    recordsFound episode.trace = [episode.resource.record] ∨
      (resource.afterStatements statements).id = none ∧ recordsFound episode.trace = [] ∧
        episode.resource.record = none := by
  induction h with
  | readBack hread =>
    cases hread with
    | unnamed hid => exact .inr ⟨hid, rfl, by simp [record, hid]⟩
    | found record hid => exact .inl rfl
    | missing hid => exact .inl rfl
    | failed fault hid => cases hok
  | refused statement rest resource fault => cases hok
  | carriedOut statement hrest ih => exact ih hok

end Resource

namespace Operation

variable {operation : Operation} {resource : Resource} {statements : List Statement}
  {episode : Episode} {error : Error}

/-- What comes of an operation that has statements to send: those up to one that fails are sent,
and if no call fails, all are, and the resource has the record that the lookup found. -/
structure Sending (operation : Operation) (resource : Resource) (statements : List Statement)
    (episode : Episode) : Prop where
  sends : statementsSent episode.trace <+: statements
  stops : episode.trace.Pairwise Exchange.StopsBefore
  isOk : episode.result = .ok () ↔ ∀ exchange ∈ episode.trace, exchange.error? = none
  complete : episode.result = .ok () → statementsSent episode.trace = statements
  found : episode.result = .ok () → recordsFound episode.trace = [episode.resource.record] ∨
    ((operation.begun resource).afterStatements statements).id = none ∧
      recordsFound episode.trace = [] ∧ episode.resource.record = none

theorem Admits.sending (h : operation.Admits resource episode)
    (hagenda : operation.agenda resource = .send statements) :
    operation.Sending resource statements episode := by
  cases h with
  | rejected hagenda' => cases hagenda.symm.trans hagenda'
  | settled hagenda' => cases hagenda.symm.trans hagenda'
  | unconnected fault hagenda' =>
    exact ⟨List.nil_prefix, List.pairwise_singleton _ _, by simp [Exchange.error?], nofun, nofun⟩
  | session hagenda' hsends =>
    cases hagenda.symm.trans hagenda'
    refine ⟨hsends.statementsSent_isPrefix, ?_, ?_, hsends.statementsSent_of_ok,
      hsends.recordsFound_eq⟩
    · refine List.pairwise_cons.mpr ⟨?_, hsends.stops⟩
      intro later _ statement fault heq
      cases heq
    · have hconnected : Exchange.error? ⟨.connect, .ok ()⟩ = none := rfl
      simp [Episode.prepend, hsends.result_eq_ok_iff, hconnected]

theorem Admits.of_reject (h : operation.Admits resource episode)
    (hagenda : operation.agenda resource = .reject error) :
    episode.trace = [] ∧ episode.result = .error error := by
  cases h with
  | rejected hagenda' =>
    cases hagenda.symm.trans hagenda'
    exact ⟨rfl, rfl⟩
  | settled hagenda' => cases hagenda.symm.trans hagenda'
  | unconnected fault hagenda' => cases hagenda.symm.trans hagenda'
  | session hagenda' hsends => cases hagenda.symm.trans hagenda'

end Operation

/-! ## What a command asks for -/

namespace Command

/-- The wanted value, where it is another than the recorded one. -/
def differing (recorded : String) (wanted : Option String) : Option String :=
  wanted.filter (· ≠ recorded)

/-- The statements that a command comes to, given the record that its first lookup found. -/
def statements : Command → Option Record → List Statement
  | .create name owner, _ => if name = "" then [] else [.creating name owner]
  | .read _, _ | .adopt _, _ | .update .., none => []
  | .update _ renameTo owner, some record =>
    let target := differing record.name renameTo
    let role := differing record.owner owner
    if target = some "" ∨ role = some "" then []
    else (target.map (.rename record.name ·)).toList ++
      (role.map (.changeOwner (target.getD record.name) ·)).toList
  | .drop name behavior, _ => [.drop name behavior]

/-- There is nothing wrong with what is asked for, given the record that the first lookup found. -/
def Accepts : Command → Option Record → Prop
  | .create name _, _ => name ≠ ""
  | .update .., none => False
  | .update _ renameTo owner, some record =>
    differing record.name renameTo ≠ some "" ∧ differing record.owner owner ≠ some ""
  | .read _, _ | .adopt _, _ | .drop .., _ => True

/-! ### The second half of an update -/

/-- The record with what is wanted of it. -/
def wanted (record : Record) (renameTo owner : Option String) : Resource :=
  { Resource.ofRecord record with planned := { name := renameTo, owner } }

variable {record : Record} {renameTo owner : Option String}

theorem change_of_id_eq_none {σ : Type} {server : Server σ} {name : String}
    {renameTo owner : Option String} {resource : Resource} (hid : resource.id = none) (state : σ) :
    change server name renameTo owner resource state =
      { state, result := .error (.noSchema name), events := [], trace := [] } :=
  if_pos hid

/-- A schema that was found is updated. -/
theorem exists_change_eq {σ : Type} {server : Server σ} {name : String}
    {renameTo owner : Option String} {resource : Resource} (hid : resource.id ≠ none) (state : σ) :
    ∃ planned, change server name renameTo owner resource state =
      .ofRun (Operation.update.run server planned state) :=
  ⟨_, if_neg hid⟩

theorem change_ofRecord {σ : Type} (server : Server σ) (name : String) (record : Record)
    (renameTo owner : Option String) (state : σ) :
    change server name renameTo owner (.ofRecord record) state =
      .ofRun (Operation.update.run server (wanted record renameTo owner) state) := by
  cases renameTo <;> cases owner <;> rfl

/-- Of a recorded attribute the difference is the wanted value where it differs. -/
theorem change_eq_map_differing {resource : Resource} {attr : Attr} {recorded : String}
    (hrecorded : resource.recorded.get attr = some recorded) :
    resource.change attr =
      (differing recorded (resource.planned.get attr)).map (recorded, ·) := by
  simp only [Resource.change, hrecorded, Option.getD_some, differing]
  cases resource.planned.get attr with
  | none => rfl
  | some planned =>
    by_cases hsame : recorded = planned <;> simp [Option.filter_some, hsame, eq_comm]

theorem view_wanted : (wanted record renameTo owner).view =
    { id := some record.name
      name := (wanted record renameTo owner).get .name
      nameChange := (differing record.name renameTo).map (record.name, ·)
      ownerChange := (differing record.owner owner).map (record.owner, ·) } := by
  have hname : (wanted record renameTo owner).change .name = _ := change_eq_map_differing rfl
  have howner : (wanted record renameTo owner).change .owner = _ := change_eq_map_differing rfl
  rw [Resource.view, hname, howner]
  rfl

theorem renames_wanted (hname : record.name ≠ "") :
    let target := differing record.name renameTo
    (wanted record renameTo owner).view.renames =
      if target = some "" then .error (.emptyValue .name)
      else .ok ((target.map (.rename record.name ·)).toList, target.getD record.name) := by
  intro target
  rw [view_wanted]
  cases htarget : differing record.name renameTo with
  | none => simp [ResourceView.renames, target, htarget]
  | some name =>
    have hne : name ≠ record.name := by
      have hfilter := (Option.filter_eq_some_iff.mp htarget).2
      simpa using hfilter
    simp [ResourceView.renames, target, htarget, hname, hne.symm]

theorem diff_wanted (hname : record.name ≠ "") :
    let target := differing record.name renameTo
    let role := differing record.owner owner
    (wanted record renameTo owner).diff =
      if target = some "" then .error (.emptyValue .name)
      else if role = some "" then .error (.emptyValue .owner)
      else .ok ((target.map (.rename record.name ·)).toList ++
        (role.map (.changeOwner (target.getD record.name) ·)).toList) := by
  intro target role
  have howners (schema : String) : (wanted record renameTo owner).view.ownerChanges schema =
      if role = some "" then .error (.emptyValue .owner)
      else .ok (role.map (.changeOwner schema ·)).toList := by
    rw [view_wanted]
    cases hrole : differing record.owner owner with
    | none => simp [ResourceView.ownerChanges, role, hrole]
    | some name => simp [ResourceView.ownerChanges, role, hrole]
  have hrenames : (wanted record renameTo owner).view.renames = _ := renames_wanted hname
  split_ifs with htarget hrole
  · exact ResourceView.diff_eq_error_iff.mpr (.inl (hrenames.trans (if_pos htarget)))
  · exact ResourceView.diff_eq_error_iff.mpr
      (.inr ⟨_, _, hrenames.trans (if_neg htarget), (howners _).trans (if_pos hrole)⟩)
  · exact ResourceView.diff_eq_ok_iff.mpr
      ⟨_, _, _, hrenames.trans (if_neg htarget), (howners _).trans (if_neg hrole), rfl⟩

/-- Once the record was found, an update has the statements to send that the command comes to. -/
theorem agenda_wanted_send {name : String} (hname : record.name ≠ "")
    (haccepts : Accepts (.update name renameTo owner) (some record)) :
    Operation.update.agenda (wanted record renameTo owner) =
      .send (statements (.update name renameTo owner) (some record)) := by
  obtain ⟨htarget, hrole⟩ := haccepts
  have hdiff := (diff_wanted hname).trans ((if_neg htarget).trans (if_neg hrole))
  refine Operation.agenda_update_eq_send_iff.mpr ⟨_, hdiff, ?_⟩
  rw [statements, if_neg (not_or.mpr ⟨htarget, hrole⟩)]
  cases differing record.name renameTo <;> cases differing record.owner owner <;> rfl

theorem agenda_wanted_reject {name : String} (hname : record.name ≠ "")
    (hrejects : ¬Accepts (.update name renameTo owner) (some record)) :
    ∃ error, Operation.update.agenda (wanted record renameTo owner) = .reject error := by
  simp only [Operation.agenda_update_eq_reject_iff, diff_wanted hname]
  by_cases htarget : differing record.name renameTo = some ""
  · exact ⟨_, if_pos htarget⟩
  · have hrole : differing record.owner owner = some "" :=
      not_not.mp fun hrole => hrejects ⟨htarget, hrole⟩
    exact ⟨_, (if_neg htarget).trans (if_pos hrole)⟩

end Command

/-! ## What comes of a command -/

namespace Command

variable {σ : Type}

/-- What a command does: of the statements that it comes to it sends those up to one that fails;
it succeeds if there is nothing wrong with it and no call fails; and then it has sent them all, and
the resource has the record that the last lookup found, which only a drop does without. -/
structure Effects (command : Command) (run : CommandRun σ) : Prop where
  sends : statementsSent run.trace <+: command.statements (recordsFound run.trace).head?.join
  stops : run.trace.Pairwise Exchange.StopsBefore
  isOk : (∃ resource, run.result = .ok resource) ↔
    (∀ exchange ∈ run.trace, exchange.error? = none) ∧
      command.Accepts (recordsFound run.trace).head?.join
  complete : ∀ resource, run.result = .ok resource →
    statementsSent run.trace = command.statements (recordsFound run.trace).head?.join
  record : ∀ resource, run.result = .ok resource →
    resource.record = (recordsFound run.trace).getLast?.join
  looks : ∀ resource, run.result = .ok resource → recordsFound run.trace = [] →
    ∃ name behavior, command = .drop name behavior

/-- A command that sent no statement and failed, as it had to. -/
theorem Effects.of_failed {command : Command} {run : CommandRun σ}
    (hnothing : statementsSent run.trace = [])
    (hstops : run.trace.Pairwise Exchange.StopsBefore)
    (hfails : ∀ resource, run.result ≠ .ok resource)
    (hrejects : ¬command.Accepts (recordsFound run.trace).head?.join) : command.Effects run where
  sends := by
    rw [hnothing]
    exact List.nil_prefix
  stops := hstops
  isOk := iff_of_false (fun ⟨resource, hok⟩ => hfails resource hok) fun h => hrejects h.2
  complete resource hok := absurd hok (hfails resource)
  record resource hok := absurd hok (hfails resource)
  looks resource hok := absurd hok (hfails resource)

theorem exists_result_ofRun_iff {run : Run σ} :
    (∃ resource, (CommandRun.ofRun run).result = .ok resource) ↔ run.result = .ok () := by
  cases hresult : run.result with
  | ok _ => simp [CommandRun.ofRun, hresult]
  | error error => simp [CommandRun.ofRun, hresult]

theorem result_ofRun_eq_ok_iff {run : Run σ} {resource : Resource} :
    (CommandRun.ofRun run).result = .ok resource ↔
      run.result = .ok () ∧ run.resource = resource := by
  cases hresult : run.result with
  | ok _ => simp [CommandRun.ofRun, hresult]
  | error error => simp [CommandRun.ofRun, hresult]

theorem result_ofRun_ne_ok {run : Run σ} (hfails : run.result ≠ .ok ()) (resource : Resource) :
    (CommandRun.ofRun run).result ≠ .ok resource :=
  fun hok => hfails (result_ofRun_eq_ok_iff.mp hok).1

section

variable {command : Command} {operation : Operation} {resource : Resource}
  (server : Server σ) (state : σ)

/-- A command of one operation that has statements to send. -/
theorem effects_of_send {statements : List Statement}
    (hagenda : operation.agenda resource = .send statements)
    (hstatements : ∀ found, command.statements found = statements)
    (haccepts : ∀ found, command.Accepts found)
    (hlooks : ((operation.begun resource).afterStatements statements).id = none →
      ∃ name behavior, command = .drop name behavior) :
    command.Effects (.ofRun (operation.run server resource state)) := by
  obtain ⟨episode, hadmits, hfollows⟩ := operation.exists_episode resource server state
  have hsending := hadmits.sending hagenda
  have htrace : (CommandRun.ofRun (operation.run server resource state)).trace = episode.trace :=
    hfollows.trace
  constructor
  · rw [htrace, hstatements]
    exact hsending.sends
  · rw [htrace]
    exact hsending.stops
  · rw [htrace, exists_result_ofRun_iff, hfollows.result, hsending.isOk]
    exact (and_iff_left (haccepts _)).symm
  · intro left hleft
    rw [htrace, hstatements]
    exact hsending.complete (hfollows.result.symm.trans (result_ofRun_eq_ok_iff.mp hleft).1)
  · intro left hleft
    obtain ⟨hok, rfl⟩ := result_ofRun_eq_ok_iff.mp hleft
    rw [htrace, hfollows.resource]
    rcases hsending.found (hfollows.result.symm.trans hok) with hfound | ⟨-, hfound, hrecord⟩
    · rw [hfound]
      rfl
    · rw [hfound, hrecord]
      rfl
  · intro left hleft hnone
    have hok := (result_ofRun_eq_ok_iff.mp hleft).1
    rw [htrace] at hnone
    rcases hsending.found (hfollows.result.symm.trans hok) with hfound | ⟨hid, -, -⟩
    · cases hnone.symm.trans hfound
    · exact hlooks hid

/-- A command of one operation that is rejected before any contact. -/
theorem effects_of_reject {error : Error} (hagenda : operation.agenda resource = .reject error)
    (hrejects : ∀ found, ¬command.Accepts found) :
    command.Effects (.ofRun (operation.run server resource state)) := by
  obtain ⟨episode, hadmits, hfollows⟩ := operation.exists_episode resource server state
  obtain ⟨htrace, hresult⟩ := hadmits.of_reject hagenda
  have hnothing : (CommandRun.ofRun (operation.run server resource state)).trace = [] :=
    hfollows.trace.trans htrace
  have hfails : (operation.run server resource state).result ≠ .ok () := by
    rw [hfollows.result, hresult]
    nofun
  refine .of_failed ?_ ?_ (result_ofRun_ne_ok hfails) (hrejects _)
  · rw [hnothing]
    rfl
  · rw [hnothing]
    exact .nil

end

/-! ### An update -/

theorem agenda_read_ofId (name : String) : Operation.read.agenda (.ofId name) = .send [] :=
  Operation.agenda_read_eq_send_iff.mpr ⟨nofun, rfl⟩

/-- The read of an update fails, finds no schema, or finds a record. -/
theorem read_cases {name : String} {episode : Episode}
    (h : Operation.read.Admits (.ofId name) episode) :
    (episode.result ≠ .ok () ∧ (recordsFound episode.trace).head?.join = none) ∨
      episode.result = .ok () ∧
        ((episode.resource.id = none ∧ recordsFound episode.trace = [none]) ∨
          ∃ record, episode.resource = .ofRecord record ∧
            recordsFound episode.trace = [some record]) := by
  have hsend := agenda_read_ofId name
  cases h with
  | rejected hagenda => cases hsend.symm.trans hagenda
  | settled hagenda => cases hsend.symm.trans hagenda
  | unconnected fault hagenda => exact .inl ⟨nofun, rfl⟩
  | session hagenda hsends =>
    cases hsend.symm.trans hagenda
    cases hsends with
    | readBack hread =>
      cases hread with
      | unnamed hid => cases hid
      | found record hid => exact .inr ⟨rfl, .inr ⟨record, rfl, rfl⟩⟩
      | missing hid => exact .inr ⟨rfl, .inl ⟨rfl, rfl⟩⟩
      | failed fault hid => exact .inl ⟨nofun, rfl⟩

/-- An update whose read has failed ends there. -/
theorem run_update_of_read_failed {server : Server σ} {state : σ} {name : String}
    {renameTo owner : Option String}
    (hfailed : (Operation.read.run server (.ofId name) state).result ≠ .ok ()) :
    run server state (.update name renameTo owner) =
      .ofRun (Operation.read.run server (.ofId name) state) := by
  cases hresult : (Operation.read.run server (.ofId name) state).result with
  | ok _ => exact absurd hresult hfailed
  | error error => simp [run, CommandRun.andThen, CommandRun.ofRun, hresult]

/-- After a read that succeeded an update goes on with what the read left. -/
theorem run_update_of_read {server : Server σ} {state : σ} {name : String}
    {renameTo owner : Option String}
    (hread : (Operation.read.run server (.ofId name) state).result = .ok ()) :
    let first := Operation.read.run server (.ofId name) state
    let second := change server name renameTo owner first.resource first.state
    let both := run server state (.update name renameTo owner)
    both.result = second.result ∧ both.trace = first.trace ++ second.trace ∧
      both.state = second.state := by
  simp [run, CommandRun.andThen, CommandRun.ofRun, hread]

/-- The schema keeps an identity through the statements of an update. -/
theorem afterStatements_wanted_id_ne_none (name : String) (record : Record)
    (renameTo owner : Option String) :
    ((wanted record renameTo owner).afterStatements
      (statements (.update name renameTo owner) (some record))).id ≠ none := by
  rw [statements]
  split_ifs
  · nofun
  · cases differing record.name renameTo <;> cases differing record.owner owner <;> nofun

/-- Calls before which no statement was sent do not stop any. -/
theorem pairwise_stops_append {left right : List Exchange} (hnothing : statementsSent left = [])
    (hleft : left.Pairwise Exchange.StopsBefore) (hright : right.Pairwise Exchange.StopsBefore) :
    (left ++ right).Pairwise Exchange.StopsBefore := by
  refine List.pairwise_append.mpr ⟨hleft, hright, ?_⟩
  rintro earlier hearlier later - statement fault rfl
  have hsent : statement ∈ statementsSent left := mem_statementsSent_iff.mpr ⟨_, hearlier⟩
  rw [hnothing] at hsent
  cases hsent

section

variable {server : Server σ} {state : σ} {name : String} {renameTo owner : Option String}
  {before : List Exchange} {record : Record} {run : CommandRun σ}

/-- An update that has found the record, and goes on with it. -/
theorem effects_update_of_found (hname : record.name ≠ "")
    (hnothing : statementsSent before = []) (hstops : before.Pairwise Exchange.StopsBefore)
    (hbefore : ∀ exchange ∈ before, exchange.error? = none)
    (hfound : recordsFound before = [some record])
    (hresult : run.result =
      (CommandRun.ofRun (Operation.update.run server (wanted record renameTo owner) state)).result)
    (htrace : run.trace =
      before ++ (Operation.update.run server (wanted record renameTo owner) state).trace) :
    (Command.update name renameTo owner).Effects run := by
  obtain ⟨episode, hadmits, hfollows⟩ :=
    Operation.update.exists_episode (wanted record renameTo owner) server state
  have hfirst : (recordsFound run.trace).head?.join = some record := by
    rw [htrace, recordsFound_append, hfound]
    rfl
  by_cases haccepts : Accepts (.update name renameTo owner) (some record)
  · -- The read made the first lookup, and the update makes the last one if it succeeds.
    have hsending := hadmits.sending (agenda_wanted_send hname haccepts)
    rw [hfollows.trace] at htrace
    constructor
    · rw [hfirst, htrace, statementsSent_append, hnothing]
      exact hsending.sends
    · rw [htrace]
      exact pairwise_stops_append hnothing hstops hsending.stops
    · rw [hfirst, htrace, hresult, exists_result_ofRun_iff, hfollows.result, hsending.isOk,
        List.forall_mem_append]
      exact ⟨fun h => ⟨⟨hbefore, h⟩, haccepts⟩, fun h => h.1.2⟩
    · intro left hleft
      rw [hresult] at hleft
      have hok := (result_ofRun_eq_ok_iff.mp hleft).1
      rw [hfirst, htrace, statementsSent_append, hnothing]
      exact hsending.complete (hfollows.result.symm.trans hok)
    · intro left hleft
      rw [hresult] at hleft
      obtain ⟨hok, rfl⟩ := result_ofRun_eq_ok_iff.mp hleft
      rcases hsending.found (hfollows.result.symm.trans hok) with hlast | ⟨hid, -, -⟩
      · rw [htrace, recordsFound_append, hlast, List.getLast?_concat, hfollows.resource]
        rfl
      · exact absurd hid (afterStatements_wanted_id_ne_none name record renameTo owner)
    · intro left hleft hnone
      rw [htrace, recordsFound_append, hfound] at hnone
      cases hnone
  · obtain ⟨error, hagenda⟩ := agenda_wanted_reject hname haccepts
    obtain ⟨hnocall, herror⟩ := hadmits.of_reject hagenda
    rw [hfollows.trace, hnocall, List.append_nil] at htrace
    refine .of_failed (htrace ▸ hnothing) (htrace ▸ hstops) ?_ (hfirst ▸ haccepts)
    rw [hresult]
    apply result_ofRun_ne_ok
    rw [hfollows.result, herror]
    nofun

end

/-- An update is a read, and then an update of the record that was read. -/
theorem effects_update (server : Server σ) (state : σ) (name : String)
    (renameTo owner : Option String)
    (hnames : ∀ record, some record ∈
      recordsFound (run server state (.update name renameTo owner)).trace → record.name ≠ "") :
    (Command.update name renameTo owner).Effects
      (run server state (.update name renameTo owner)) := by
  obtain ⟨episode, hadmits, hfollows⟩ := Operation.read.exists_episode (.ofId name) server state
  have hreading := hadmits.sending (agenda_read_ofId name)
  have hnothing : statementsSent episode.trace = [] := List.prefix_nil.mp hreading.sends
  rcases read_cases hadmits with ⟨hfailed, hfound⟩ | ⟨hok, hfound⟩
  · rw [← hfollows.result] at hfailed
    rw [run_update_of_read_failed hfailed]
    have htrace : (CommandRun.ofRun (Operation.read.run server (.ofId name) state)).trace =
        episode.trace := hfollows.trace
    rw [← htrace] at hnothing hfound
    refine .of_failed hnothing (htrace ▸ hreading.stops) (result_ofRun_ne_ok hfailed) ?_
    rw [hfound]
    exact id
  · obtain ⟨hresult, htrace, -⟩ :=
      @run_update_of_read σ server state name renameTo owner (hfollows.result.trans hok)
    rw [hfollows.trace, hfollows.resource] at htrace
    rw [hfollows.resource] at hresult
    rcases hfound with ⟨hid, hfound⟩ | ⟨record, hresource, hfound⟩
    · have hchange := @change_of_id_eq_none σ server name renameTo owner _ hid
      rw [hchange] at hresult htrace
      rw [List.append_nil] at htrace
      refine .of_failed (htrace ▸ hnothing) (htrace ▸ hreading.stops) ?_ ?_
      · rw [hresult]
        nofun
      · rw [htrace, hfound]
        exact id
    · rw [hresource, change_ofRecord] at hresult htrace
      have hname : record.name ≠ "" := by
        apply hnames record
        rw [htrace, recordsFound_append, hfound]
        exact List.mem_cons_self
      exact effects_update_of_found hname hnothing hreading.stops (hreading.isOk.mp hok) hfound
        hresult htrace

/-- Against any server that finds no record without a name, a command does what it is to do. -/
theorem effects (command : Command) (server : Server σ) (state : σ)
    (hnames : ∀ record, some record ∈ recordsFound (command.run server state).trace →
      record.name ≠ "") :
    command.Effects (command.run server state) := by
  cases command with
  | create name owner =>
    by_cases hempty : name = ""
    · have hagenda : Operation.create.agenda (.ofPlan name owner) = .reject (.emptyValue .name) :=
        if_pos hempty
      exact effects_of_reject server state hagenda fun found haccepts => haccepts hempty
    · have howner : (Resource.ofPlan name owner).get .owner = owner := by cases owner <;> rfl
      have hagenda : Operation.create.agenda (.ofPlan name owner) = .send [.creating name owner] :=
        Operation.agenda_create_eq_send_iff.mpr ⟨name, rfl, hempty, by rw [howner]⟩
      exact effects_of_send server state hagenda (fun found => if_neg hempty) (fun found => hempty)
        nofun
  | read name =>
    exact effects_of_send server state (agenda_read_ofId name) (fun found => rfl)
      (fun found => trivial) nofun
  | update name renameTo owner => exact effects_update server state name renameTo owner hnames
  | drop name behavior =>
    have hagenda : (Operation.delete behavior).agenda (.ofId name) =
        .send [.drop name behavior] := Operation.agenda_delete_eq_send_iff.mpr ⟨name, rfl, rfl⟩
    exact effects_of_send server state hagenda (fun found => rfl) (fun found => trivial)
      fun _ => ⟨name, behavior, rfl⟩
  | adopt name =>
    have hagenda : (Operation.adopt name).agenda {} = .send [] := rfl
    exact effects_of_send server state hagenda (fun found => rfl) (fun found => trivial) nofun

end Command

end Schemata
