import Mathlib.Logic.Relation
import Schemata.Proofs.Locality

/-!
# Operations on other names commute

Clients that carry out one operation each, with footprints that share no name, do not see each
other: in whatever order their calls reach the server, each gets what it would have got alone.
A client is on course (`Client.OnCourse`) when what is left of its operation, on a server that
holds the same under its names, comes to what the whole operation comes to alone.  A call of its
own keeps it on course, and so does any call about other names.  Running the operations one
after the other is no different, so both orders and all interleavings come to the same
(`disjoint_operations_commute`).
-/

namespace Schemata

open Relation (ReflTransGen)

/-! ## One client -/

/-- Going on to the next call does not change what a procedure comes to. -/
theorem Procedure.run_settle {σ : Type} (server : Server σ) (procedure : Procedure)
    (resource : Resource) (state : σ) :
    let settled := procedure.settle resource
    let rest := settled.1.run server settled.2 state
    let run := procedure.run server resource state
    rest.Alike run ∧ rest.state = run.state := by
  induction procedure generalizing resource with
  | done result => exact ⟨⟨rfl, rfl, rfl⟩, rfl⟩
  | store stored next ih => exact ih stored
  | log event next ih =>
    obtain ⟨halike, hstate⟩ := ih resource
    exact ⟨⟨halike.trace, halike.resource, halike.result⟩, hstate⟩
  | call request next => exact ⟨⟨rfl, rfl, rfl⟩, rfl⟩

namespace Client

/-- The client's operation has returned, and went as the run did. -/
structure Returned {σ : Type} (client : Client) (run : Run σ) : Prop where
  made : client.made = run.trace
  resource : client.resource = run.resource
  result : client.rest = .done run.result

theorem Returned.trans {σ τ : Type} {client : Client} {run : Run σ} {run' : Run τ}
    (h : client.Returned run) (halike : run.Alike run') : client.Returned run' where
  made := h.made.trans halike.trace
  resource := h.resource.trans halike.resource
  result := by rw [h.result, halike.result]

/-- What is left of the client's operation makes calls about the given names only, and on a server
that agrees on them it comes, after the calls made so far, to what the given run came to. -/
structure OnCourse (client : Client) (names : Set String) (server : CatalogServer)
    (alone : Run CatalogServer) : Prop where
  settled : ∃ procedure resource, client.rest = (Procedure.settle procedure resource).1
  calls : client.rest.Calls (Call.Within names)
  goes : ∃ solo : CatalogServer, solo.AgreeOn names server ∧
    let run := client.rest.run catalogServer client.resource solo
    Run.Alike { run with trace := client.made ++ run.trace } alone ∧ run.state = alone.state

variable {client : Client} {names : Set String} {server server' : CatalogServer}
  {alone : Run CatalogServer}

/-- A client that has just begun a procedure, or goes on with it. -/
theorem OnCourse.proceed {procedure : Procedure} {resource : Resource} {made : List Exchange}
    {solo : CatalogServer} (hcalls : procedure.Calls (Call.Within names))
    (hagree : solo.AgreeOn names server)
    (halike : Run.Alike { procedure.run catalogServer resource solo with
      trace := made ++ (procedure.run catalogServer resource solo).trace } alone)
    (hstate : (procedure.run catalogServer resource solo).state = alone.state) :
    (Client.proceed procedure resource made).OnCourse names server alone := by
  obtain ⟨hsettled, hsettledState⟩ := procedure.run_settle catalogServer resource solo
  refine ⟨⟨procedure, resource, rfl⟩, hcalls.settle, solo, hagree, ?_,
    hsettledState.trans hstate⟩
  exact ⟨(congrArg (made ++ ·) hsettled.trace).trans halike.trace,
    hsettled.resource.trans halike.resource, hsettled.result.trans halike.result⟩

/-- A call of the client's own keeps it on course. -/
theorem OnCourse.call {request : Call} {next : request.Reply → Procedure}
    (h : client.OnCourse names server alone) (hnext : client.rest = .call request next) :
    let answer := server.answer request
    (Client.proceed (next answer.reply) client.resource
      (client.made ++ [⟨request, answer.reply⟩])).OnCourse names answer.state alone := by
  intro answer
  obtain ⟨-, hcalls, solo, hagree, halike, hstate⟩ := h
  rw [hnext] at hcalls halike hstate
  obtain ⟨hwithin, hrest⟩ := hcalls
  obtain ⟨hreply, hafter⟩ := hagree.answer hwithin
  have hreply : answer.reply = (solo.answer request).reply := hreply.symm
  rw [hreply]
  refine OnCourse.proceed (hrest _) hafter ?_ hstate
  refine ⟨?_, halike.resource, halike.result⟩
  rw [List.append_assoc]
  exact halike.trace

/-- What does not touch the client's names keeps it on course. -/
theorem OnCourse.of_agreeOn (h : client.OnCourse names server alone)
    (hagree : server.AgreeOn names server') : client.OnCourse names server' alone := by
  obtain ⟨hsettled, hcalls, solo, hsolo, hgoes⟩ := h
  exact ⟨hsettled, hcalls, solo, hsolo.trans hagree, hgoes⟩

/-- A client that has returned has got what it would have got alone, and the server holds the same
under its names. -/
theorem OnCourse.returned (h : client.OnCourse names server alone) (hidle : client.isIdle) :
    client.Returned alone ∧ alone.state.AgreeOn names server := by
  obtain ⟨-, -, solo, hagree, halike, hstate⟩ := h
  cases hrest : client.rest with
  | done result =>
    rw [hrest] at halike hstate
    refine ⟨⟨?_, halike.resource, ?_⟩, hstate ▸ hagree⟩
    · exact (List.append_nil _).symm.trans halike.trace
    · rw [hrest, ← halike.result]
      rfl
  | store stored next => simp [isIdle, hrest] at hidle
  | log event next => simp [isIdle, hrest] at hidle
  | call request next => simp [isIdle, hrest] at hidle

end Client

/-! ## All clients -/

namespace Configuration

variable {ι : Type*} [DecidableEq ι]

/-- One of the clients makes its next call. -/
inductive Turn : Configuration ι → Configuration ι → Prop
  | call {configuration : Configuration ι} (index : ι) (request : Call)
      (next : request.Reply → Procedure)
      (hnext : (configuration.clients index).rest = .call request next) :
      Turn configuration (configuration.call index request next)

/-- Clients that have begun one operation each. -/
def ofTasks (server : CatalogServer) (tasks : ι → Operation × Resource) : Configuration ι where
  server
  clients index :=
    .proceed ((tasks index).1.procedure (tasks index).2) (tasks index).2 []

/-- All clients are on course, and what none of them is about is as it was. -/
structure OnCourse (names : ι → Set String) (start : CatalogServer)
    (alone : ι → Run CatalogServer) (configuration : Configuration ι) : Prop where
  clients : ∀ index,
    (configuration.clients index).OnCourse (names index) configuration.server (alone index)
  elsewhere : start.AgreeOn {name | ∀ index, name ∉ names index} configuration.server

variable {names : ι → Set String} {start : CatalogServer} {alone : ι → Run CatalogServer}
  {before after : Configuration ι}

theorem OnCourse.turn (h : before.OnCourse names start alone)
    (hdisjoint : Pairwise fun index other => Disjoint (names index) (names other))
    (hturn : Turn before after) : after.OnCourse names start alone := by
  cases hturn with
  | call index request next hnext =>
    have hwithin : request.Within (names index) := by
      have hcalls := (h.clients index).calls
      rw [hnext] at hcalls
      exact hcalls.1
    constructor
    · intro other
      by_cases hsame : other = index
      · subst other
        rw [Configuration.call, setClient_self]
        exact (h.clients index).call hnext
      · rw [Configuration.call, setClient_of_ne _ _ hsame]
        refine (h.clients other).of_agreeOn (CatalogServer.agreeOn_answer_off ?_)
        intro name hname
        exact Set.disjoint_left.mp (hdisjoint (Ne.symm hsame)) (hwithin name hname)
    · refine h.elsewhere.trans (CatalogServer.agreeOn_answer_off ?_)
      intro name hname hnowhere
      exact hnowhere index (hwithin name hname)

theorem OnCourse.turns (h : before.OnCourse names start alone)
    (hdisjoint : Pairwise fun index other => Disjoint (names index) (names other))
    (hturns : ReflTransGen Turn before after) : after.OnCourse names start alone := by
  induction hturns with
  | refl => exact h
  | tail _ hturn ih => exact ih.turn hdisjoint hturn

/-- The names that the operation of each client starts from. -/
def footprints (tasks : ι → Operation × Resource) (index : ι) : Set String :=
  {name | name ∈ (tasks index).1.footprint (tasks index).2}

/-- What each operation comes to on a server that no other client uses. -/
def runsAlone (server : CatalogServer) (tasks : ι → Operation × Resource) (index : ι) :
    Run CatalogServer :=
  (tasks index).1.run catalogServer (tasks index).2 server

variable {server : CatalogServer} {tasks : ι → Operation × Resource}

omit [DecidableEq ι] in
theorem onCourse_ofTasks (server : CatalogServer) (tasks : ι → Operation × Resource) :
    (ofTasks server tasks).OnCourse (footprints tasks) server (runsAlone server tasks) where
  clients index :=
    .proceed ((tasks index).1.calls_within_footprint (tasks index).2) (.refl _ server)
      ⟨rfl, rfl, rfl⟩ rfl
  elsewhere := .refl _ server

/-! ### Interleavings end -/

/-- A client at a call, or at the end of its operation, can be brought to the end. -/
theorem exists_turns_isIdle {index : ι} {procedure : Procedure} {resource : Resource}
    {configuration : Configuration ι}
    (hclient : (configuration.clients index).rest = (procedure.settle resource).1) :
    ∃ final, ReflTransGen Turn configuration final ∧ (final.clients index).isIdle ∧
      ∀ other, other ≠ index → final.clients other = configuration.clients other := by
  induction procedure generalizing configuration resource with
  | done result => exact ⟨configuration, .refl, by rw [Client.isIdle, hclient]; rfl, fun _ _ => rfl⟩
  | store stored next ih => exact ih hclient
  | log event next ih => exact ih hclient
  | call request next ih =>
    have hturn : Turn configuration (configuration.call index request next) :=
      .call index request next hclient
    obtain ⟨final, hturns, hidle, hothers⟩ :=
      @ih (configuration.server.answer request).reply
        (configuration.clients index).resource (configuration.call index request next)
        (by rw [Configuration.call, setClient_self]; rfl)
    refine ⟨final, .head hturn hturns, hidle, fun other hne => ?_⟩
    rw [hothers other hne, Configuration.call, setClient_of_ne _ _ hne]

/-- Two clients can be brought to the end of their operations from any point on course. -/
theorem OnCourse.exists_turns_isIdle {names : Bool → Set String}
    {alone : Bool → Run CatalogServer} {configuration : Configuration Bool}
    (h : configuration.OnCourse names start alone) :
    ∃ final, ReflTransGen Turn configuration final ∧ ∀ index, (final.clients index).isIdle := by
  obtain ⟨_, _, hfirst⟩ := (h.clients true).settled
  obtain ⟨mid, hturns, hidle, hothers⟩ := Configuration.exists_turns_isIdle hfirst
  obtain ⟨_, _, hsecond⟩ := (h.clients false).settled
  rw [← hothers false nofun] at hsecond
  obtain ⟨final, hturns', hidle', hothers'⟩ := Configuration.exists_turns_isIdle hsecond
  refine ⟨final, hturns.trans hturns', fun index => ?_⟩
  cases index with
  | true =>
    rw [hothers' true nofun]
    exact hidle
  | false => exact hidle'

end Configuration

/-! ## Two operations -/

section

open Schemata.Configuration

variable {server : CatalogServer} {tasks : Bool → Operation × Resource}
  {configuration : Configuration Bool}

/-- Clients that have both returned have got what the operations come to one after the other,
whichever is the first. -/
theorem Configuration.OnCourse.returned_in_order
    (h : configuration.OnCourse (footprints tasks) server (runsAlone server tasks))
    (hdisjoint : Pairwise fun index other =>
      Disjoint (footprints tasks index) (footprints tasks other))
    (hidle : ∀ index, (configuration.clients index).isIdle) (first : Bool) :
    let earlier := (tasks first).1.run catalogServer (tasks first).2 server
    let later := (tasks !first).1.run catalogServer (tasks !first).2 earlier.state
    (configuration.clients first).Returned earlier ∧
      (configuration.clients !first).Returned later ∧
      later.state.AgreeOn Set.univ configuration.server := by
  intro earlier later
  have hne : first ≠ !first := by cases first <;> decide
  obtain ⟨hearlier, hearlierState⟩ := (h.clients first).returned (hidle first)
  obtain ⟨halone, haloneState⟩ := (h.clients !first).returned (hidle !first)
  -- The second operation finds under its names what was there before the first.
  obtain ⟨halike, hstate⟩ := Operation.run_agreeOn
    (Operation.agreeOn_run_off (hdisjoint hne) server).symm
  refine ⟨hearlier, halone.trans ⟨halike.trace.symm, halike.resource.symm, halike.result.symm⟩, ?_⟩
  have hlater {names : Set String} (hoff : Disjoint (footprints tasks !first) names) :
      later.state.AgreeOn names earlier.state :=
    (Operation.agreeOn_run_off hoff earlier.state).symm
  apply CatalogServer.AgreeOn.univ
  · intro index
    by_cases hindex : index = first
    · rw [hindex]
      exact (hlater (hdisjoint hne.symm)).trans hearlierState
    · obtain rfl : index = !first := by cases index <;> cases first <;> simp_all
      exact hstate.trans haloneState
  · have hnowhere (index : Bool) :
        Disjoint (footprints tasks index) {name | ∀ other, name ∉ footprints tasks other} :=
      Set.disjoint_left.mpr fun name hname hothers => hothers index hname
    exact (hlater (hnowhere _)).trans
      ((Operation.agreeOn_run_off (hnowhere first) server).symm.trans h.elsewhere)

/-- Two operations whose footprints share no name: every interleaving of their calls can be brought
to an end, and when both have returned, each has made the calls and come to the resource and the
result that it comes to when they run one after the other, in either order, and the catalog holds
the same schemas and marks. -/
theorem disjoint_operations_commute (tasks : Bool → Operation × Resource) (server : CatalogServer)
    (hdisjoint : ((tasks true).1.footprint (tasks true).2).Disjoint
      ((tasks false).1.footprint (tasks false).2))
    {reached : Configuration Bool} (hreached : ReflTransGen Turn (ofTasks server tasks) reached) :
    (∃ final, ReflTransGen Turn reached final ∧ ∀ index, (final.clients index).isIdle) ∧
    ((∀ index, (reached.clients index).isIdle) → ∀ first,
      let earlier := (tasks first).1.run catalogServer (tasks first).2 server
      let later := (tasks !first).1.run catalogServer (tasks !first).2 earlier.state
      (reached.clients first).Returned earlier ∧ (reached.clients !first).Returned later ∧
        later.state.AgreeOn Set.univ reached.server) := by
  have hpairwise : Pairwise fun index other =>
      Disjoint (footprints tasks index) (footprints tasks other) := by
    have hsets : Disjoint (footprints tasks true) (footprints tasks false) :=
      Set.disjoint_left.mpr fun name hleft hright => hdisjoint hleft hright
    intro index other hne
    cases index <;> cases other
    · exact absurd rfl hne
    · exact hsets.symm
    · exact hsets
    · exact absurd rfl hne
  have hcourse := (onCourse_ofTasks server tasks).turns hpairwise hreached
  exact ⟨hcourse.exists_turns_isIdle, hcourse.returned_in_order hpairwise⟩

/-- A rename and a drop whose calls alternate, the drop carried out between the rename and its
read-back. -/
theorem disjoint_operations_commute_rename_and_drop :
    let tasks : Bool → Operation × Resource
      | true => (.update, (Resource.ofRecord ⟨"a", "alice"⟩).plan .name "c")
      | false => (.delete .restrict, .ofRecord ⟨"b", "bob"⟩)
    let server : CatalogServer :=
      { CatalogServer.fresh with catalog.schemas := .ofList [("a", "alice"), ("b", "bob")] }
    ∃ final : Configuration Bool, ReflTransGen Turn (ofTasks server tasks) final ∧
      let earlier := (tasks true).1.run catalogServer (tasks true).2 server
      let later := (tasks false).1.run catalogServer (tasks false).2 earlier.state
      (final.clients true).Returned earlier ∧ (final.clients false).Returned later ∧
        later.state.AgreeOn Set.univ final.server ∧
        final.server.catalog.schemas.toList = [("c", "alice")] := by
  intro tasks server
  have hstart : ReflTransGen Turn (ofTasks server tasks) _ := .refl
  have hconnected := (hstart.tail (.call true .connect _ rfl)).tail (.call false .connect _ rfl)
  have hexecuted := (hconnected.tail (.call true (.execute (.rename "a" "c")) _ rfl)).tail
    (.call false (.execute (.drop "b" .restrict)) _ rfl)
  have hlooked := hexecuted.tail (.call true (.lookup "c") _ rfl)
  have hclosed := (hlooked.tail (.call true .close _ rfl)).tail (.call false .close _ rfl)
  have hdisjoint : ((tasks true).1.footprint (tasks true).2).Disjoint
      ((tasks false).1.footprint (tasks false).2) := by
    intro name hleft hright
    have hleft : name ∈ ["a", "a", "c"] := hleft
    have hright : name ∈ ["b", "b"] := hright
    simp_all
  obtain ⟨hearlier, hlater, hstate⟩ :=
    (disjoint_operations_commute tasks server hdisjoint hclosed).2
      (fun index => by cases index <;> rfl) true
  exact ⟨_, hclosed, hearlier, hlater, hstate, by decide⟩

end

end Schemata
