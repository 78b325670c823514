import Schemata.Log
import Schemata.Proofs.Changes

/-!
# How an operation goes

All five operations go alike.  What a resource says before any contact settles an operation
or leaves it statements to send (`Operation.agenda`).  It then asks for a session, sends its
statements one after the other until one fails, reads the schema back by its identity when
none has failed, and closes the session.  `Operation.Admits` says so as a relation between a
resource and what came of the operation, for every choice of replies, and every run against
any server is one that it admits (`Operation.exists_episode`).  What follows about replies,
results, logs and what is left in the resource rests on this relation and never opens a
procedure.
-/

namespace Schemata

/-! ## Episodes -/

/-- What came of an operation, apart from the server: its calls, the events it logged itself,
the host's resource and the result. -/
structure Episode where
  trace : List Exchange := []
  events : List Event := []
  resource : Resource
  result : Except Error Unit

/-- An episode with something before it. -/
def Episode.prepend (episode : Episode) (trace : List Exchange) (events : List Event) :
    Episode :=
  { episode with trace := trace ++ episode.trace, events := events ++ episode.events }

/-- The event is logged by an operation itself, and not by the server side. -/
def Event.isOfOperation (event : Event) : Bool :=
  event.target = "pgschema::reconcile"

/-- The server side logs nothing in the name of the operations. -/
def Server.LogsApart {σ : Type} (server : Server σ) : Prop :=
  ∀ state call, ∀ event ∈ (server.answer state call).events, event.isOfOperation = false

/-- A run went as the episode tells.  Between the events of the episode the server side may have
logged its own. -/
structure Run.Follows {σ : Type} (run : Run σ) (server : Server σ) (episode : Episode) : Prop where
  trace : run.trace = episode.trace
  events : server.LogsApart →
    run.events.filter Event.isOfOperation = episode.events.filter Event.isOfOperation
  resource : run.resource = episode.resource
  result : run.result = episode.result

/-- Two runs, against one server or against two, made the same calls with the same replies, and
came to the same. -/
structure Run.Alike {σ τ : Type} (left : Run σ) (right : Run τ) : Prop where
  trace : left.trace = right.trace
  resource : left.resource = right.resource
  result : left.result = right.result

namespace Procedure

/-- However its calls are answered, what comes of the procedure is as `Post` says. -/
def Ensures : Procedure → Resource → (Episode → Prop) → Prop
  | .done result, resource, Post => Post { resource, result }
  | .store resource next, _, Post => next.Ensures resource Post
  | .log event next, resource, Post =>
    next.Ensures resource fun episode => Post (episode.prepend [] [event])
  | .call request next, resource, Post => ∀ reply : request.Reply,
    (next reply).Ensures resource fun episode => Post (episode.prepend [⟨request, reply⟩] [])

variable {procedure : Procedure} {resource : Resource} {Post Post' : Episode → Prop}

theorem Ensures.mono (h : procedure.Ensures resource Post)
    (hpost : ∀ episode, Post episode → Post' episode) : procedure.Ensures resource Post' := by
  induction procedure generalizing resource Post Post' with
  | done result => exact hpost _ h
  | store stored next ih => exact ih h hpost
  | log event next ih => exact ih h fun episode => hpost _
  | call request next ih => exact fun reply => ih reply (h reply) fun episode => hpost _

theorem Ensures.run {σ : Type} (h : procedure.Ensures resource Post) (server : Server σ)
    (state : σ) :
    ∃ episode, Post episode ∧ (procedure.run server resource state).Follows server episode := by
  induction procedure generalizing resource state Post with
  | done result => exact ⟨_, h, rfl, fun _ => rfl, rfl, rfl⟩
  | store stored next ih => exact ih h state
  | log event next ih =>
    obtain ⟨episode, hpost, hrun⟩ := ih h state
    refine ⟨_, hpost, hrun.trace, fun hserver => ?_, hrun.resource, hrun.result⟩
    change List.filter _ ([event] ++ _) = List.filter _ ([event] ++ _)
    rw [List.filter_append, List.filter_append, hrun.events hserver]
  | call request next ih =>
    obtain ⟨episode, hpost, hrun⟩ := ih _ (h (server.answer state request).reply) _
    refine ⟨_, hpost, congrArg _ hrun.trace, fun hserver => ?_, hrun.resource, hrun.result⟩
    have hanswer := List.filter_eq_nil_iff.mpr fun event hevent =>
      Bool.eq_false_iff.mp (hserver state request event hevent)
    change List.filter _ ((server.answer state request).events ++ _) = _
    rw [List.filter_append, hanswer, hrun.events hserver]
    rfl

end Procedure

/-! ## What the operations admit -/

/-- What is logged once the statement was carried out. -/
def Statement.event : Statement → Event
  | .create name _ => .schemaCreated name
  | .rename source target => .schemaRenamed source target
  | .changeOwner name owner => .ownerChanged name owner
  | .drop name _ => .schemaDropped name

namespace Resource

/-- What the host notes down once the statement was carried out. -/
def afterStatement (resource : Resource) : Statement → Resource
  | .create name _ => resource.setId (some name)
  | .rename _ target => (resource.set .name target).setId (some target)
  | .changeOwner _ _ => resource
  | .drop _ _ => resource.setId none

def afterStatements (resource : Resource) (statements : List Statement) : Resource :=
  statements.foldl afterStatement resource

/-- The end of a session whose statements were all carried out. -/
inductive ReadsBack (resource : Resource) : Episode → Prop
  | unnamed (hid : resource.id = none) :
    ReadsBack resource { trace := [⟨.close, ()⟩], resource, result := .ok () }
  | found {name : String} (record : Record) (hid : resource.id = some name) :
    ReadsBack resource
      { trace := [⟨.lookup name, .ok (some record)⟩, ⟨.close, ()⟩]
        resource := resource.observe record
        result := .ok () }
  | missing {name : String} (hid : resource.id = some name) :
    ReadsBack resource
      { trace := [⟨.lookup name, .ok none⟩, ⟨.close, ()⟩]
        events := [.schemaMissing name]
        resource := resource.setId none
        result := .ok () }
  | failed {name : String} (fault : Fault) (hid : resource.id = some name) :
    ReadsBack resource
      { trace := [⟨.lookup name, .error fault⟩, ⟨.close, ()⟩]
        resource
        result := .error (.execution .read name fault) }

/-- What is left of a session with the statements that are still to be sent. -/
inductive Sends : List Statement → Resource → Episode → Prop
  | readBack {resource : Resource} {episode : Episode} (h : resource.ReadsBack episode) :
    Sends [] resource episode
  | refused (statement : Statement) (rest : List Statement) (resource : Resource)
      (fault : Fault) :
    Sends (statement :: rest) resource
      { trace := [⟨.execute statement, .error fault⟩, ⟨.close, ()⟩]
        resource
        result := .error (.execution statement.action statement.schema fault) }
  | carriedOut (statement : Statement) {rest : List Statement} {resource : Resource}
      {episode : Episode} (hrest : Sends rest (resource.afterStatement statement) episode) :
    Sends (statement :: rest) resource
      (episode.prepend [statement.carriedOut] [statement.event])

end Resource

/-- What there is to do for an operation. -/
inductive Agenda where
  /-- The operation fails before any contact. -/
  | reject (error : Error)
  | nothing
  /-- To send statements in a session, none perhaps, and to look the schema up. -/
  | send (statements : List Statement)

namespace Operation

/-- What there is to do, as far as the resource tells. -/
def agenda : Operation → Resource → Agenda
  | .create, resource =>
    let name := (resource.get .name).getD ""
    if name = "" then .reject (.emptyValue .name)
    else .send [.creating name (resource.get .owner)]
  | .read, resource => if resource.id = none then .nothing else .send []
  | .update, resource =>
    match resource.diff with
    | .error error => .reject error
    | .ok changes => .send (changes.map Change.toStatement)
  | .delete behavior, resource =>
    match resource.id <|> resource.get .name with
    | none => .nothing
    | some name => .send [.drop name behavior]
  | .adopt _, _ => .send []

/-- The resource before any contact: who adopts a schema takes its name first. -/
def begun : Operation → Resource → Resource
  | .adopt name, resource => resource.setId (some name)
  | .create, resource | .read, resource | .update, resource | .delete _, resource => resource

/-- What can come of an operation, over all replies. -/
inductive Admits (operation : Operation) (resource : Resource) : Episode → Prop
  | rejected {error : Error} (hagenda : operation.agenda resource = .reject error) :
    Admits operation resource { resource := operation.begun resource, result := .error error }
  | settled (hagenda : operation.agenda resource = .nothing) :
    Admits operation resource { resource := operation.begun resource, result := .ok () }
  | unconnected {statements : List Statement} (fault : Fault)
      (hagenda : operation.agenda resource = .send statements) :
    Admits operation resource
      { trace := [⟨.connect, .error fault⟩]
        resource := operation.begun resource
        result := .error (.connection fault) }
  | session {statements : List Statement} {episode : Episode}
      (hagenda : operation.agenda resource = .send statements)
      (hsends : Resource.Sends statements (operation.begun resource) episode) :
    Admits operation resource (episode.prepend [⟨.connect, .ok ()⟩] [])

/-! ### What is rejected, and what is sent -/

section Agenda

variable {operation : Operation} {resource : Resource} {statements : List Statement}
  {error : Error} {behavior : DropBehavior}

theorem agenda_create_eq_send_iff :
    create.agenda resource = .send statements ↔
      ∃ name, resource.get .name = some name ∧ name ≠ "" ∧
        statements = [.creating name (resource.get .owner)] := by
  cases hname : resource.get .name with
  | none => simp [agenda, hname]
  | some name =>
    by_cases hempty : name = ""
    · simp [agenda, hname, hempty]
    · simp [agenda, hname, hempty, eq_comm]

theorem agenda_read_eq_send_iff :
    read.agenda resource = .send statements ↔ resource.id ≠ none ∧ statements = [] := by
  by_cases hid : resource.id = none
  · simp [agenda, hid]
  · simp [agenda, hid, eq_comm]

theorem agenda_update_eq_send_iff :
    update.agenda resource = .send statements ↔
      ∃ changes, resource.diff = .ok changes ∧ statements = changes.map Change.toStatement := by
  cases hdiff : resource.diff with
  | error error => simp [agenda, hdiff]
  | ok changes => simp [agenda, hdiff, eq_comm]

theorem agenda_update_eq_reject_iff :
    update.agenda resource = .reject error ↔ resource.diff = .error error := by
  cases hdiff : resource.diff with
  | error error => simp [agenda, hdiff]
  | ok changes => simp [agenda, hdiff]

theorem agenda_delete_eq_send_iff :
    (delete behavior).agenda resource = .send statements ↔
      ∃ name, (resource.id <|> resource.get .name) = some name ∧
        statements = [.drop name behavior] := by
  rw [agenda]
  cases resource.id <|> resource.get .name with
  | none => simp
  | some name => simp [eq_comm]

/-- Before any contact only a creation without a name and an update without a difference fail. -/
theorem agenda_eq_reject (h : operation.agenda resource = .reject error) :
    operation = .create ∧ error = .emptyValue .name ∨
      operation = .update ∧ resource.diff = .error error := by
  cases operation with
  | create =>
    rw [agenda] at h
    split at h
    · cases h
      exact .inl ⟨rfl, rfl⟩
    · cases h
  | read =>
    rw [agenda] at h
    split at h <;> cases h
  | update => exact .inr ⟨rfl, agenda_update_eq_reject_iff.mp h⟩
  | delete behavior =>
    rw [agenda] at h
    split at h <;> cases h
  | adopt name => cases h

end Agenda

end Operation

/-! ## The operations do what they admit -/

namespace Procedure

open Resource (Sends ReadsBack)

variable {resource : Resource}

theorem ensures_readBack (resource : Resource) :
    (readBack resource).Ensures resource resource.ReadsBack := by
  cases hid : resource.id with
  | none =>
    simp only [readBack, hid]
    exact fun _ => .unnamed hid
  | some name =>
    simp only [readBack, hid]
    intro reply
    rcases reply with fault | _ | record
    · exact fun _ => .failed fault hid
    · exact fun _ => .missing hid
    · exact fun _ => .found record hid

theorem ensures_execute {statement : Statement} {rest : List Statement} {next : Procedure}
    (hnext : next.Ensures resource fun episode =>
      Sends (statement :: rest) resource (episode.prepend [statement.carriedOut] [])) :
    (execute statement next).Ensures resource (Sends (statement :: rest) resource) := by
  intro reply
  cases reply with
  | ok _ => exact hnext
  | error fault => exact fun _ => .refused statement rest resource fault

theorem ensures_makeChanges (changes : List Change) (resource : Resource) :
    (makeChanges changes resource).Ensures resource
      (Sends (changes.map Change.toStatement) resource) := by
  induction changes generalizing resource with
  | nil => exact (ensures_readBack resource).mono fun _ => .readBack
  | cons change rest ih =>
    cases change with
    | rename source target =>
      exact ensures_execute ((ih _).mono fun _ => .carriedOut (.rename source target))
    | changeOwner schema target =>
      exact ensures_execute ((ih _).mono fun _ => .carriedOut (.changeOwner schema target))

theorem ensures_withSession {operation : Operation} {statements : List Statement}
    {body : Procedure} (hagenda : operation.agenda resource = .send statements)
    (hbody : body.Ensures (operation.begun resource)
      (Sends statements (operation.begun resource))) :
    (withSession body).Ensures (operation.begun resource) (operation.Admits resource) := by
  intro reply
  cases reply with
  | ok _ => exact hbody.mono fun _ => .session hagenda
  | error fault => exact .unconnected fault hagenda

end Procedure

namespace Operation

open Procedure

theorem ensures_create (resource : Resource) :
    (Procedure.create resource).Ensures resource (create.Admits resource) := by
  by_cases hname : (resource.get .name).getD "" = ""
  · have hagenda : create.agenda resource = .reject (.emptyValue .name) := if_pos hname
    simp only [Procedure.create, if_pos hname]
    exact .rejected hagenda
  · have hagenda : create.agenda resource =
        .send [.creating ((resource.get .name).getD "") (resource.get .owner)] := if_neg hname
    simp only [Procedure.create, if_neg hname]
    apply ensures_withSession hagenda
    apply ensures_execute
    exact (ensures_readBack _).mono fun _ hread => .carriedOut (.creating _ _) (.readBack hread)

theorem ensures_read (resource : Resource) :
    (Procedure.read resource).Ensures resource (read.Admits resource) := by
  cases hid : resource.id with
  | none =>
    have hagenda : read.agenda resource = .nothing := if_pos hid
    simp only [Procedure.read, hid]
    exact .settled hagenda
  | some name =>
    have hagenda : read.agenda resource = .send [] := if_neg (by rw [hid]; nofun)
    simp only [Procedure.read, hid]
    exact ensures_withSession hagenda ((ensures_readBack resource).mono fun _ => .readBack)

theorem ensures_update (resource : Resource) :
    (Procedure.update resource).Ensures resource (update.Admits resource) := by
  cases hdiff : resource.diff with
  | error error =>
    have hagenda := agenda_update_eq_reject_iff.mpr hdiff
    simp only [Procedure.update, hdiff]
    exact .rejected hagenda
  | ok changes =>
    have hagenda := agenda_update_eq_send_iff.mpr ⟨changes, hdiff, rfl⟩
    simp only [Procedure.update, hdiff]
    exact ensures_withSession hagenda (ensures_makeChanges changes resource)

theorem ensures_delete (behavior : DropBehavior) (resource : Resource) :
    (Procedure.delete behavior resource).Ensures resource ((delete behavior).Admits resource) := by
  cases hname : resource.id <|> resource.get .name with
  | none =>
    have hagenda : (delete behavior).agenda resource = .nothing := by simp only [agenda, hname]
    simp only [Procedure.delete, hname]
    exact .settled hagenda
  | some name =>
    have hagenda : (delete behavior).agenda resource = .send [.drop name behavior] := by
      simp only [agenda, hname]
    simp only [Procedure.delete, hname]
    apply ensures_withSession hagenda
    apply ensures_execute
    -- Without an identity there is nothing to read back, and the session is closed at once.
    exact fun _ => .carriedOut (.drop name behavior) (.readBack (.unnamed rfl))

theorem ensures_adopt (name : String) (resource : Resource) :
    (Procedure.adopt name resource).Ensures resource ((adopt name).Admits resource) := by
  have hagenda : (adopt name).agenda resource = .send [] := rfl
  exact ensures_withSession hagenda ((ensures_readBack _).mono fun _ => .readBack)

theorem ensures (operation : Operation) (resource : Resource) :
    (operation.procedure resource).Ensures resource (operation.Admits resource) := by
  cases operation with
  | create => exact ensures_create resource
  | read => exact ensures_read resource
  | update => exact ensures_update resource
  | delete behavior => exact ensures_delete behavior resource
  | adopt name => exact ensures_adopt name resource

/-- What comes of an operation against a server is something that it admits. -/
theorem exists_episode {σ : Type} (operation : Operation) (resource : Resource)
    (server : Server σ) (state : σ) :
    ∃ episode, operation.Admits resource episode ∧
      (operation.run server resource state).Follows server episode :=
  (operation.ensures resource).run server state

/-- Carries out operations one after the other.  Each may be on any resource, on one that an
operation before it has left in particular. -/
def runAll {σ : Type} (server : Server σ) : List (Operation × Resource) → σ → List (Run σ)
  | [], _ => []
  | (operation, resource) :: rest, state =>
    let run := operation.run server resource state
    run :: runAll server rest run.state

theorem length_runAll {σ : Type} (server : Server σ) (tasks : List (Operation × Resource))
    (state : σ) : (runAll server tasks state).length = tasks.length := by
  induction tasks generalizing state with
  | nil => rfl
  | cons task rest ih => exact congrArg (· + 1) (ih _)

/-- Each of several runs went as its operation admits. -/
theorem exists_episode_of_mem_runAll {σ : Type} {server : Server σ}
    {tasks : List (Operation × Resource)} {state : σ} {run : Run σ}
    (hrun : run ∈ runAll server tasks state) :
    ∃ operation resource episode, Admits operation resource episode ∧
      run.Follows server episode := by
  induction tasks generalizing state with
  | nil => cases hrun
  | cons task rest ih =>
    rcases List.mem_cons.mp hrun with rfl | hrest
    · exact ⟨task.1, task.2, task.1.exists_episode task.2 server state⟩
    · exact ih hrest

end Operation

end Schemata
