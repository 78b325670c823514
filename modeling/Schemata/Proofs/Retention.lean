import Mathlib.Data.Finset.Card
import Mathlib.Logic.Equiv.Basic
import Schemata.Proofs.Calls
import Schemata.Proofs.Moves
import Schemata.Proofs.StatementText

/-!
# What restricted drops keep

An operation drops a schema with its objects only if it is a delete with that behavior
(`Operation.permits_isRestrained`); no name can make another statement ask for it
(`Statement.asksForCascade_render_iff`).  So while all deletes are restricted, no statement that
is carried out takes a schema that holds objects out of the catalog: a rename moves it, and all
others leave it where it is (`Catalog.Keeps`).  The clients of a server then keep their objects
whatever the names are and in whatever order their calls reach it
(`restricted_drops_keep_objects`).
-/

namespace Schemata

/-! ## Texts -/

/-- The text has the word outside its quoted identifiers, in whichever case. -/
def AsksForCascade (text : String) : Prop :=
  "CASCADE".toList <:+: (Ident.outside false text.toList).map Char.toUpper

/-- Only a drop with cascade asks for it, whatever the names are. -/
theorem Statement.asksForCascade_render_iff (statement : Statement) :
    AsksForCascade statement.render ↔ ∃ name, statement = .drop name .cascade := by
  have hforms : ∀ form ∈ forms,
      "CASCADE".toList <:+: form.words.toList.map Char.toUpper ↔ form = .drop "" .cascade := by
    decide
  rw [AsksForCascade, outside_render, ← words_blank, hforms _ statement.blank_mem_forms]
  cases statement with
  | create name owner => simp [blank]
  | rename source target => simp [blank]
  | changeOwner name owner => simp [blank]
  | drop name behavior => simp [blank]

/-! ## Calls -/

/-- The call does not drop a schema together with its objects. -/
def Call.IsRestrained (call : Call) : Prop :=
  ∀ name, call ≠ .execute (.drop name .cascade)

theorem Operation.permits_isRestrained {operation : Operation}
    (hoperation : operation ≠ .delete .cascade) (resource : Resource) :
    operation.Permits Call.IsRestrained resource := by
  refine ⟨nofun, nofun, ?_, nofun⟩
  intro statements hagenda
  cases operation with
  | create =>
    obtain ⟨name, -, -, rfl⟩ := agenda_create_eq_send_iff.mp hagenda
    simp [Call.IsRestrained, Statement.creating]
  | read =>
    obtain ⟨-, rfl⟩ := agenda_read_eq_send_iff.mp hagenda
    nofun
  | update =>
    obtain ⟨changes, -, rfl⟩ := agenda_update_eq_send_iff.mp hagenda
    refine List.forall_mem_map.mpr fun change _ => ?_
    cases change <;> simp [Call.IsRestrained, Change.toStatement]
  | delete behavior =>
    obtain ⟨name, -, rfl⟩ := agenda_delete_eq_send_iff.mp hagenda
    simpa [Call.IsRestrained] using hoperation
  | adopt name =>
    cases hagenda
    nofun

/-! ## The catalog -/

namespace Catalog

/-- The schemas that are there and are marked to hold objects. -/
def occupied (catalog : Catalog) : Finset String :=
  catalog.schemas.keys.toFinset.filter (· ∈ catalog.nonEmpty)

variable {catalog before after : Catalog} {name source target : String} {statement : Statement}

@[simp]
theorem mem_occupied :
    name ∈ catalog.occupied ↔ name ∈ catalog.schemas ∧ name ∈ catalog.nonEmpty := by
  rw [occupied, Finset.mem_filter, List.mem_toFinset, Std.TreeMap.mem_keys]

/-- No occupied schema is lost to the statement: there are no fewer of them after it, and one that
is no longer under its name has been renamed, and is occupied under the new name. -/
structure Keeps (statement : Statement) (before after : Catalog) : Prop where
  card : before.occupied.card ≤ after.occupied.card
  renamed : ∀ name ∈ before.occupied, name ∈ after.occupied ∨
    ∃ target, statement = .rename name target ∧ name ∉ after.schemas ∧ target ∈ after.occupied

theorem Keeps.of_subset (h : before.occupied ⊆ after.occupied) : Keeps statement before after where
  card := Finset.card_le_card h
  renamed _ hname := .inl (h hname)

theorem Moved.mem_occupied_iff {owner : String} (h : before.Moved after source target owner) :
    name ∈ after.occupied ↔
      if name = target then source ∈ before.nonEmpty ∨ target ∈ before.nonEmpty
      else name ≠ source ∧ name ∈ before.occupied := by
  simp only [mem_occupied, mem_schemas_iff, h.schemas, h.nonEmpty]
  split_ifs <;> simp_all

/-- A rename takes the mark along, to a name that no schema had. -/
theorem keeps_rename (h : before.execute (.rename source target) = .ok after) :
    Keeps (.rename source target) before after := by
  obtain ⟨owner, hsource, htarget, -⟩ := execute_rename_eq_ok_iff.mp h
  have hmoved : before.Moved after source target owner := .of_rename hsource h
  have hne : source ≠ target := ne_of_mem_of_not_mem (mem_schemas_iff.mpr ⟨_, hsource⟩) htarget
  have hfree : target ∉ before.occupied := fun hmem => htarget (mem_occupied.mp hmem).1
  have hstays : ∀ name ∈ before.occupied, name ≠ source → name ∈ after.occupied := by
    intro name hname hother
    rw [hmoved.mem_occupied_iff, if_neg (ne_of_mem_of_not_mem hname hfree)]
    exact ⟨hother, hname⟩
  have hmoves : source ∈ before.occupied → target ∈ after.occupied := by
    intro hmem
    rw [hmoved.mem_occupied_iff, if_pos rfl]
    exact .inl (mem_occupied.mp hmem).2
  constructor
  · -- Swapping the two names takes what was occupied into what is occupied.
    refine Finset.card_le_card_of_injOn (Equiv.swap source target) (fun name hname => ?_)
      (Equiv.injective _).injOn
    by_cases hsame : name = source
    · subst hsame
      rw [Equiv.swap_apply_left]
      exact hmoves hname
    · rw [Equiv.swap_apply_of_ne_of_ne hsame (ne_of_mem_of_not_mem hname hfree)]
      exact hstays name hname hsame
  · intro name hname
    by_cases hsame : name = source
    · subst hsame
      refine .inr ⟨target, rfl, ?_, hmoves hname⟩
      rw [notMem_schemas_iff, hmoved.schemas, if_neg hne, if_pos rfl]
    · exact .inl (hstays name hname hsame)

theorem keeps_execute (hrestrained : ∀ name, statement ≠ .drop name .cascade)
    (h : before.execute statement = .ok after) : Keeps statement before after := by
  cases statement with
  | create name owner =>
    obtain ⟨-, -, rfl⟩ := execute_create_eq_ok_iff.mp h
    apply Keeps.of_subset
    intro other hother
    simp_all
  | rename source target => exact keeps_rename h
  | changeOwner name owner =>
    obtain ⟨-, -, rfl⟩ := execute_changeOwner_eq_ok_iff.mp h
    apply Keeps.of_subset
    intro other hother
    simp_all
  | drop name behavior =>
    obtain ⟨-, hobjects, rfl⟩ := execute_drop_eq_ok_iff.mp h
    have hmark : name ∉ before.nonEmpty := by
      cases behavior with
      | restrict => simpa using hobjects
      | cascade => exact absurd rfl (hrestrained name)
    apply Keeps.of_subset
    intro other hother
    obtain ⟨hschema, hmarked⟩ := mem_occupied.mp hother
    have hne : name ≠ other := fun heq => hmark (heq ▸ hmarked)
    simp [hne, hschema, hmarked]

end Catalog

/-- A call either leaves the catalog as it is, or sends a statement that is carried out. -/
theorem CatalogServer.answer_catalog_cases (server : CatalogServer) (request : Call) :
    let answer := server.answer request
    answer.state.catalog = server.catalog ∨
      ∃ statement, server.catalog.execute statement = .ok answer.state.catalog ∧
        (⟨request, answer.reply⟩ : Exchange) = statement.carriedOut := by
  cases request with
  | connect => exact .inl answer_connect_catalog
  | execute statement =>
    rcases server.answer_execute_cases statement with ⟨after, hexecute, hanswer⟩ | ⟨fault, hanswer⟩
    · rw [hanswer]
      exact .inr ⟨statement, hexecute, rfl⟩
    · rw [hanswer]
      exact .inl rfl
  | lookup name =>
    simp only [answer]
    split_ifs
    · exact .inl rfl
    · exact .inl rfl
  | close => exact .inl rfl

/-! ## The clients -/

section

variable {P : Call → Prop} {client : Client}

/-- All calls that the client has made in its operation, and may still make in it, have the
property. -/
structure Client.KeepsTo (P : Call → Prop) (client : Client) : Prop where
  made : ∀ exchange ∈ client.made, P exchange.call
  rest : client.rest.Calls P

theorem Client.KeepsTo.proceed {procedure : Procedure} {resource : Resource}
    {made : List Exchange} (hmade : ∀ exchange ∈ made, P exchange.call)
    (hprocedure : procedure.Calls P) : (Client.proceed procedure resource made).KeepsTo P :=
  ⟨hmade, hprocedure.settle⟩

theorem Client.KeepsTo.call {request : Call} {next : request.Reply → Procedure}
    (h : client.KeepsTo P) (hnext : client.rest = .call request next) (reply : request.Reply) :
    let made := client.made ++ [⟨request, reply⟩]
    (Client.proceed (next reply) client.resource made).KeepsTo P := by
  have hcalls := h.rest
  rw [hnext] at hcalls
  refine .proceed ?_ (hcalls.2 reply)
  exact List.forall_mem_append.mpr ⟨h.made, by simpa using hcalls.1⟩

end

namespace Configuration

variable {ι : Type*} [DecidableEq ι] {mayBegin : Operation → Resource → Prop} {P : Call → Prop}
  {start before after : Configuration ι}

theorem Step.keepsTo (hstep : Step mayBegin before after)
    (hpermits : ∀ operation resource, mayBegin operation resource → operation.Permits P resource)
    (h : ∀ index, (before.clients index).KeepsTo P) (index : ι) :
    (after.clients index).KeepsTo P := by
  have hset {configuration : Configuration ι} {acting : ι} {client : Client}
      (hsame : configuration.clients = before.clients) (hclient : client.KeepsTo P) :
      ((configuration.setClient acting client).clients index).KeepsTo P := by
    by_cases hacting : index = acting
    · rw [hacting, setClient_self]
      exact hclient
    · rw [setClient_of_ne _ _ hacting, hsame]
      exact h index
  cases hstep with
  | plan acting attr value hidle => exact hset rfl ⟨(h acting).made, (h acting).rest⟩
  | begin acting operation hidle hmay =>
    exact hset rfl (.proceed nofun (Operation.calls (hpermits _ _ hmay)))
  | call acting request next hnext => exact hset rfl ((h acting).call hnext _)
  | interfere server hschemas => exact h index

theorem Reachable.keepsTo (h : Reachable mayBegin start after)
    (hpermits : ∀ operation resource, mayBegin operation resource → operation.Permits P resource)
    (hstart : ∀ index, (start.clients index).KeepsTo P) (index : ι) :
    (after.clients index).KeepsTo P := by
  induction h generalizing index with
  | start => exact hstart index
  | step hbefore hstep ih => exact hstep.keepsTo hpermits ih index

/-- Clients that have not begun an operation. -/
def ofResources (server : CatalogServer) (resources : ι → Resource) : Configuration ι where
  server
  clients index := { resource := resources index }

end Configuration

/-! ## What is kept -/

theorem not_asksForCascade_of_mem {trace : List Exchange}
    (hcalls : ∀ exchange ∈ trace, exchange.call.IsRestrained) {statement : Statement}
    (hsent : statement ∈ statementsSent trace) : ¬AsksForCascade statement.render := by
  obtain ⟨reply, hmem⟩ := mem_statementsSent_iff.mp hsent
  rw [Statement.asksForCascade_render_iff]
  rintro ⟨name, rfl⟩
  exact hcalls _ hmem name rfl

/-- Against any server, operations that are no deletes with cascade send no text that asks for
it. -/
theorem not_asksForCascade_of_mem_runAll {σ : Type} {server : Server σ}
    {tasks : List (Operation × Resource)} {state : σ}
    (htasks : ∀ task ∈ tasks, task.1 ≠ .delete .cascade) {run : Run σ}
    (hrun : run ∈ Operation.runAll server tasks state) {statement : Statement}
    (hsent : statement ∈ statementsSent run.trace) : ¬AsksForCascade statement.render := by
  induction tasks generalizing state with
  | nil => cases hrun
  | cons task rest ih =>
    obtain ⟨htask, hothers⟩ := List.forall_mem_cons.mp htasks
    rcases List.mem_cons.mp hrun with rfl | hrest
    · exact not_asksForCascade_of_mem
        (Operation.calls_of_run (Operation.permits_isRestrained htask task.2) server state) hsent
    · exact ih hothers hrest

namespace Configuration

variable {ι : Type*} [DecidableEq ι] {mayBegin : Operation → Resource → Prop}
  {before after : Configuration ι}

/-- In a step of the clients no occupied schema is lost: there are no fewer of them after it, and
one that is no longer under its name was renamed by a call of that step, and is occupied under the
new name. -/
structure KeepsObjects (before after : Configuration ι) : Prop where
  card : before.server.catalog.occupied.card ≤ after.server.catalog.occupied.card
  renamed : ∀ name ∈ before.server.catalog.occupied, name ∈ after.server.catalog.occupied ∨
    ∃ index target, (after.clients index).made = (before.clients index).made ++
        [Statement.carriedOut (.rename name target)] ∧
      name ∉ after.server.catalog.schemas ∧ target ∈ after.server.catalog.occupied

omit [DecidableEq ι] in
theorem KeepsObjects.of_catalog_eq
    (h : after.server.catalog = before.server.catalog) : before.KeepsObjects after where
  card := by rw [h]
  renamed name hname := .inl (by rwa [h])

theorem Step.keepsObjects (hstep : Step mayBegin before after)
    (hcalls : ∀ index, (before.clients index).KeepsTo Call.IsRestrained)
    (hown : after.clients = before.clients → after.server = before.server) :
    before.KeepsObjects after := by
  cases hstep with
  | plan index attr value hidle => exact .of_catalog_eq rfl
  | begin index operation hidle hmay => exact .of_catalog_eq rfl
  | interfere server hschemas => exact .of_catalog_eq (congrArg _ (hown rfl))
  | call index request next hnext =>
    have hrestrained : request.IsRestrained := by
      have hrest := (hcalls index).rest
      rw [hnext] at hrest
      exact hrest.1
    rcases before.server.answer_catalog_cases request with hsame | ⟨statement, hexecute, hdone⟩
    · exact .of_catalog_eq hsame
    · obtain rfl : request = .execute statement := congrArg Exchange.call hdone
      have hkeeps :=
        Catalog.keeps_execute (fun name heq => hrestrained name (congrArg _ heq)) hexecute
      refine ⟨hkeeps.card, fun name hname => ?_⟩
      refine (hkeeps.renamed name hname).imp_right fun ⟨target, hrename, hgone, htarget⟩ => ?_
      subst hrename
      refine ⟨index, target, ?_, hgone, htarget⟩
      rw [Configuration.call, setClient_self, ← hdone]
      rfl

end Configuration

open Schemata.Configuration in
/-- As long as nobody deletes with cascade: no statement that is sent to any server asks for it, by
whatever names; and on the catalog, with any number of clients that take turns, each step of theirs
keeps what holds objects, under its name or under the one that it is renamed to.  Marks may be set
and cleared from outside before and between such steps. -/
theorem restricted_drops_keep_objects :
    (∀ {σ : Type} (server : Server σ) (tasks : List (Operation × Resource)) (state : σ),
      (∀ task ∈ tasks, task.1 ≠ .delete .cascade) →
      ∀ run ∈ Operation.runAll server tasks state,
        ∀ statement ∈ statementsSent run.trace, ¬AsksForCascade statement.render) ∧
    ∀ {ι : Type} [DecidableEq ι] (server : CatalogServer) (resources : ι → Resource)
      {reached after : Configuration ι},
      let mayBegin := fun operation (_ : Resource) => operation ≠ .delete .cascade
      Reachable mayBegin (ofResources server resources) reached →
      Step mayBegin reached after →
      (∀ index, ∀ statement ∈ statementsSent (after.clients index).made,
        ¬AsksForCascade statement.render) ∧
      ((after.clients = reached.clients → after.server = reached.server) →
        reached.KeepsObjects after) := by
  constructor
  · intro σ server tasks state htasks run hrun statement
    exact not_asksForCascade_of_mem_runAll htasks hrun
  · intro ι _ server resources reached after mayBegin hreached hstep
    have hpermits (operation : Operation) (resource : Resource)
        (hmay : mayBegin operation resource) : operation.Permits Call.IsRestrained resource :=
      Operation.permits_isRestrained hmay resource
    have hstart (index : ι) :
        ((ofResources server resources).clients index).KeepsTo Call.IsRestrained :=
      ⟨nofun, trivial⟩
    have hcalls := hreached.keepsTo hpermits hstart
    refine ⟨fun index statement hsent => ?_, hstep.keepsObjects hcalls⟩
    exact not_asksForCascade_of_mem (hstep.keepsTo hpermits hcalls index).made hsent

open Schemata.Configuration in
/-- A drop of a schema whose name spells the clause; and a rename of a schema that holds objects. -/
theorem restricted_drops_keep_objects_drop_and_rename :
    let dropping : Operation × Resource :=
      (.delete .restrict, .ofRecord ⟨"a\" CASCADE", "alice"⟩)
    let server : CatalogServer :=
      { CatalogServer.fresh with
        catalog.schemas := .ofList [("a", "alice")], catalog.nonEmpty := .ofList ["a"] }
    let planned := (Resource.ofRecord ⟨"a", "alice"⟩).plan .name "b"
    (∀ run ∈ Operation.runAll scriptedServer [dropping] {},
      ∀ statement ∈ statementsSent run.trace, ¬AsksForCascade statement.render) ∧
    ∃ reached after : Configuration Unit,
      Reachable (fun operation _ => operation ≠ .delete .cascade)
        (ofResources server fun _ => planned) reached ∧
      reached.KeepsObjects after ∧
      reached.server.catalog.occupied = {"a"} ∧ after.server.catalog.occupied = {"b"} := by
  intro dropping server planned
  refine ⟨restricted_drops_keep_objects.1 _ _ _ (by simp [dropping]), ?_⟩
  have hstart : Reachable (fun operation _ => operation ≠ .delete .cascade)
      (ofResources server fun _ : Unit => planned) _ := .start
  have hconnected := (hstart.step (.begin () .update rfl nofun)).step (.call () .connect _ rfl)
  refine ⟨_, _, hconnected, (restricted_drops_keep_objects.2 server (fun _ => planned) hconnected
    (.call () (.execute (.rename "a" "b")) _ rfl)).2 fun hsame => ?_, ?_, ?_⟩
  · have hmade : 2 = 1 := congrArg (fun clients => (clients ()).made.length) hsame
    cases hmade
  · decide
  · decide

end Schemata
