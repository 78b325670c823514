import Schemata.Proofs.Moves

/-!
# Updates converge

An update reads three sources that need not agree: the identity, the recorded values
and the wanted ones.  `Resource.reached` says which entry one undisturbed update makes
of the one that the identity names, whatever is recorded.  After it the recorded values
are the catalog's, so a second update reaches the wanted entry, and no further one has
anything to do.
-/

namespace Schemata

/-- The change from one name to another, if they differ. -/
def Change.renaming (source target : String) : List Change :=
  if source = target then [] else [.rename source target]

@[simp]
theorem Change.renaming_self (name : String) : Change.renaming name name = [] :=
  if_pos rfl

theorem Change.renaming_of_ne {source target : String} (hne : source ≠ target) :
    Change.renaming source target = [.rename source target] :=
  if_neg hne

namespace Resource

/-- The value of an attribute after one update, when it is the given one before. -/
def reachedValue (resource : Resource) (attr : Attr) (current : String) : String :=
  ((resource.change attr).map Prod.snd).getD current

/-- The value of an attribute that is wanted, the given one where nothing is said. -/
def wantedValue (resource : Resource) (attr : Attr) (current : String) : String :=
  (resource.planned.get attr).getD current

/-- The entry that one update makes of the given one. -/
def reached (resource : Resource) (current : Record) : Record where
  name := resource.reachedValue .name current.name
  owner := resource.reachedValue .owner current.owner

/-- The entry that is wanted in place of the given one. -/
def wanted (resource : Resource) (current : Record) : Record where
  name := resource.wantedValue .name current.name
  owner := resource.wantedValue .owner current.owner

/-- The changes of an update whose identity names the given entry. -/
def changesFrom (resource : Resource) (current : Record) : List Change :=
  Change.renaming current.name (resource.reached current).name ++
    match resource.change .owner with
    | none => []
    | some (_, role) => [.changeOwner (resource.reached current).name role]

variable {resource : Resource} {current : Record}

theorem diff_eq_changesFrom (hid : resource.id = some current.name) (hcurrent : current.name ≠ "")
    (hname : ∀ target, resource.planned.name = some target → target ≠ "")
    (howner : ∀ role, resource.planned.owner = some role → role ≠ "") :
    resource.diff = .ok (resource.changesFrom current) := by
  refine ResourceView.diff_eq_ok_iff.mpr
    ⟨_, (resource.reached current).name, _, ResourceView.renames_eq_ok_iff.mpr ?_,
      ResourceView.ownerChanges_eq_ok_iff.mpr ?_, rfl⟩
  · cases hchange : resource.change .name with
    | none => simp [view, hchange, hid, reached, reachedValue, Change.renaming]
    | some change =>
      obtain ⟨recorded, target⟩ := change
      have htarget := hname target (change_eq_some_iff.mp hchange).1
      exact .inr ⟨recorded, target, hchange, htarget, by simpa [view, hid] using hcurrent,
        by simp [reached, reachedValue, hchange],
        by simp [view, reached, reachedValue, hid, hchange, Change.renaming]⟩
  · cases hchange : resource.change .owner with
    | none => simp [view, hchange]
    | some change =>
      obtain ⟨recorded, role⟩ := change
      have hrole := howner role (change_eq_some_iff.mp hchange).1
      simp [view, hchange, hrole]

theorem observe_eq (resource : Resource) (record : Record) :
    resource.observe record =
      { id := some record.name, recorded := .ofRecord record, planned := resource.planned } :=
  rfl

theorem reachedValue_cases (resource : Resource) (attr : Attr) (value : String) :
    resource.reachedValue attr value = value ∨
      resource.planned.get attr = some (resource.reachedValue attr value) := by
  unfold reachedValue
  cases hchange : resource.change attr with
  | none => exact .inl rfl
  | some change => exact .inr (change_eq_some_iff.mp hchange).1

/-- An update reaches the wanted value, unless the recorded value says that it holds
already and that is not so. -/
theorem reachedValue_eq_wantedValue (resource : Resource) (attr : Attr) {value : String}
    (hrecorded : ∀ wanted, resource.planned.get attr = some wanted →
      (resource.recorded.get attr).getD "" = wanted → value = wanted) :
    resource.reachedValue attr value = resource.wantedValue attr value := by
  unfold reachedValue wantedValue
  cases hchange : resource.change attr with
  | none =>
    cases hplanned : resource.planned.get attr with
    | none => rfl
    | some wanted =>
      exact hrecorded wanted hplanned (change_eq_none_iff.mp hchange wanted hplanned)
  | some change => rw [(change_eq_some_iff.mp hchange).1]; rfl

theorem wantedValue_reachedValue (resource : Resource) (attr : Attr) (value : String) :
    resource.wantedValue attr (resource.reachedValue attr value) =
      resource.wantedValue attr value := by
  unfold wantedValue
  rcases resource.reachedValue_cases attr value with hsame | hplanned
  · rw [hsame]
  · rw [hplanned]; rfl

/-- The recorded values never say that a wanted value holds which does not. -/
structure IsTruthful (resource : Resource) (current : Record) : Prop where
  name : ∀ target, resource.planned.name = some target →
    resource.recorded.name.getD "" = target → current.name = target
  owner : ∀ role, resource.planned.owner = some role →
    resource.recorded.owner.getD "" = role → current.owner = role

theorem IsTruthful.of_recorded (hrecorded : resource.recorded = .ofRecord current) :
    resource.IsTruthful current where
  name _ _ hsame := by rw [hrecorded] at hsame; exact hsame
  owner _ _ hsame := by rw [hrecorded] at hsame; exact hsame

/-- A value that is absent counts as empty, and no wanted value is. -/
theorem IsTruthful.of_absent_or_recorded
    (hname : resource.recorded.name = none ∨ resource.recorded.name = some current.name)
    (howner : resource.recorded.owner = none ∨ resource.recorded.owner = some current.owner)
    (htarget : ∀ target, resource.planned.name = some target → target ≠ "")
    (hrole : ∀ role, resource.planned.owner = some role → role ≠ "") :
    resource.IsTruthful current where
  name target hplanned hsame := by
    rcases hname with hnone | hrecorded
    · rw [hnone] at hsame
      exact absurd hsame.symm (htarget target hplanned)
    · rw [hrecorded] at hsame
      exact hsame
  owner role hplanned hsame := by
    rcases howner with hnone | hrecorded
    · rw [hnone] at hsame
      exact absurd hsame.symm (hrole role hplanned)
    · rw [hrecorded] at hsame
      exact hsame

/-- From a truthful record one update reaches what is wanted. -/
theorem IsTruthful.reached_eq_wanted (h : resource.IsTruthful current) :
    resource.reached current = resource.wanted current := by
  unfold reached wanted
  rw [reachedValue_eq_wantedValue resource .name h.name,
    reachedValue_eq_wantedValue resource .owner h.owner]

/-- What is wanted does not depend on how far an update came. -/
theorem wanted_reached (resource : Resource) (current : Record) :
    resource.wanted (resource.reached current) = resource.wanted current := by
  simp only [wanted, reached, wantedValue_reachedValue]

theorem wanted_wanted (resource : Resource) (current : Record) :
    resource.wanted (resource.wanted current) = resource.wanted current := by
  have hvalue (attr : Attr) (value : String) :
      resource.wantedValue attr (resource.wantedValue attr value) =
        resource.wantedValue attr value := by
    unfold wantedValue
    cases resource.planned.get attr <;> rfl
  simp only [wanted, hvalue]

theorem wanted_congr {other : Resource} (hplanned : other.planned = resource.planned)
    (current : Record) : other.wanted current = resource.wanted current := by
  simp only [wanted, wantedValue, hplanned]

theorem afterChanges_changesFrom_id (hid : resource.id = some current.name) :
    (resource.afterChanges (resource.changesFrom current)).id =
      some (resource.reached current).name := by
  rw [changesFrom]
  by_cases hsame : current.name = (resource.reached current).name
  · rw [← hsame, Change.renaming_self, ← hid]
    cases resource.change .owner <;> rfl
  · rw [Change.renaming_of_ne hsame]
    cases resource.change .owner <;> rfl

end Resource

/-! ## One update against a catalog -/

section

variable {server : CatalogServer} {resource : Resource} {current : Record}

theorem carries_singleton_iff {statement : Statement} {final : CatalogServer} :
    catalogServer.Carries [statement] server final ↔
      ∃ after, server.catalog.execute statement = .ok after ∧
        final = { server with catalog := after } := by
  constructor
  · intro hcarries
    cases hcarries with
    | cons hdone hrest =>
      cases hrest
      rcases server.answer_execute_cases statement with
        ⟨after, hexecute, hanswer⟩ | ⟨fault, hanswer⟩
      · exact ⟨after, hexecute, congrArg (·.state) hanswer⟩
      · exact absurd (hdone.symm.trans (congrArg (·.reply) hanswer)) (by simp)
  · rintro ⟨after, hexecute, rfl⟩
    have hanswer : catalogServer.answer server (.execute statement) =
        { reply := .ok (), state := { server with catalog := after } } := by
      simp only [catalogServer, CatalogServer.answer, hexecute]
    apply Server.Carries.cons
    · rw [hanswer]
    · rw [hanswer]
      exact .nil _

theorem carries_renaming {source target owner : String}
    (hsource : server.catalog.schemas[source]? = some owner)
    (htarget : target = source ∨ target ∉ server.catalog.schemas) :
    ∃ after, catalogServer.Carries ((Change.renaming source target).map Change.toStatement)
        server { server with catalog := after } ∧
      server.catalog.Moved after source target owner := by
  by_cases hsame : source = target
  · subst hsame
    rw [Change.renaming_self]
    exact ⟨server.catalog, .nil _, .refl hsource⟩
  · rw [Change.renaming_of_ne hsame]
    have hexecute := Catalog.execute_rename_eq_ok_iff.mpr
      ⟨owner, hsource, htarget.resolve_left (Ne.symm hsame), rfl⟩
    exact ⟨_, carries_singleton_iff.mpr ⟨_, hexecute, rfl⟩, .of_rename hsource hexecute⟩

/-- Nothing stands in the way of the changes of an update: the name that they lead to is
free, and the role is there. -/
theorem carries_changesFrom (server : CatalogServer)
    (hcurrent : server.catalog.schemas[current.name]? = some current.owner)
    (hname : (resource.reached current).name = current.name ∨
      (resource.reached current).name ∉ server.catalog.schemas)
    (howner : ∀ role, resource.planned.owner = some role → role ∈ server.catalog.roles) :
    ∃ after, catalogServer.Carries ((resource.changesFrom current).map Change.toStatement) server
        { server with catalog := after } ∧
      server.catalog.Moved after current.name (resource.reached current).name
        (resource.reached current).owner := by
  obtain ⟨renamed, hrename, hmoved⟩ := carries_renaming hcurrent hname
  unfold Resource.changesFrom
  cases hchange : resource.change .owner with
  | none =>
    refine ⟨renamed, by simpa using hrename, ?_⟩
    simpa [Resource.reached, Resource.reachedValue, hchange] using hmoved
  | some change =>
    obtain ⟨recorded, role⟩ := change
    have hrole := howner role (Resource.change_eq_some_iff.mp hchange).1
    have hexecute := Catalog.execute_changeOwner_eq_ok_iff.mpr
      ⟨hmoved.mem_target, hmoved.roles ▸ hrole, rfl⟩
    have howned : (resource.reached current).owner = role := by
      simp [Resource.reached, Resource.reachedValue, hchange]
    rw [howned, List.map_append]
    exact ⟨_, hrename.append (carries_singleton_iff.mpr ⟨_, hexecute, rfl⟩),
      hmoved.trans (.of_changeOwner hexecute) (.inr rfl)⟩

theorem run_readBack_of_found (server : CatalogServer) (hid : resource.id = some current.name)
    (hlooks : server.failsLookups = false)
    (hentry : server.catalog.schemas[current.name]? = some current.owner) :
    (Procedure.readBack resource).run catalogServer resource server =
      { state := { server with closed := server.closed + 1 }
        resource := resource.observe current
        result := .ok ()
        events := []
        trace := [⟨.lookup current.name, .ok (some current)⟩, ⟨.close, ()⟩] } := by
  simp [Procedure.readBack, hid, Procedure.run, catalogServer, CatalogServer.answer, hlooks,
    Catalog.lookup, hentry, Procedure.finish]

theorem run_withSession_of_accepts (body : Procedure) (resource : Resource)
    (haccepts : server.refusesSessions = false) :
    (Procedure.withSession body).run catalogServer resource server =
      (body.run catalogServer resource { server with opened := server.opened + 1 }).prepend []
        [⟨.connect, .ok ()⟩] := by
  simp [Procedure.withSession, Procedure.run, catalogServer, CatalogServer.answer, haccepts,
    Run.prepend]

/-- Nothing stands in the way of an update: sessions and lookups succeed, the identity
names the given entry, and what is wanted can be had. -/
structure Undisturbed (server : CatalogServer) (resource : Resource) (current : Record) :
    Prop where
  accepts : server.refusesSessions = false
  looks : server.failsLookups = false
  id : resource.id = some current.name
  name_ne : current.name ≠ ""
  entry : server.catalog.schemas[current.name]? = some current.owner
  target : ∀ target, resource.planned.name = some target →
    target ≠ "" ∧ (target = current.name ∨ target ∉ server.catalog.schemas)
  role : ∀ role, resource.planned.owner = some role →
    role ≠ "" ∧ role ∈ server.catalog.roles

theorem Undisturbed.reached_name_ne (h : Undisturbed server resource current) :
    (resource.reached current).name ≠ "" := by
  rcases resource.reachedValue_cases .name current.name with hsame | hplanned
  · exact fun hempty => h.name_ne (hsame.symm.trans hempty)
  · exact (h.target _ hplanned).1

theorem Undisturbed.reached_name_free (h : Undisturbed server resource current) :
    (resource.reached current).name = current.name ∨
      (resource.reached current).name ∉ server.catalog.schemas := by
  rcases resource.reachedValue_cases .name current.name with hsame | hplanned
  · exact .inl hsame
  · exact (h.target _ hplanned).2

/-- After an undisturbed update the next one is undisturbed, too. -/
theorem Undisturbed.next (h : Undisturbed server resource current) {server' : CatalogServer}
    {resource' : Resource} (haccepts : server'.refusesSessions = false)
    (hlooks : server'.failsLookups = false)
    (hid : resource'.id = some (resource.reached current).name)
    (hplanned : resource'.planned = resource.planned)
    (hmoved : server.catalog.Moved server'.catalog current.name (resource.reached current).name
      (resource.reached current).owner) :
    Undisturbed server' resource' (resource.reached current) where
  accepts := haccepts
  looks := hlooks
  id := hid
  name_ne := h.reached_name_ne
  entry := by rw [hmoved.schemas, if_pos rfl]
  target target htarget := by
    rw [hplanned] at htarget
    obtain ⟨hne, hfree⟩ := h.target target htarget
    refine ⟨hne, ?_⟩
    by_cases hsame : target = (resource.reached current).name
    · exact .inl hsame
    rcases resource.reachedValue_cases .name current.name with hstays | hreached
    · have hother : target ≠ current.name := fun heq => hsame (heq.trans hstays.symm)
      exact .inr (hmoved.notMem (hfree.resolve_left hother) hsame)
    · exact absurd (Option.some.inj (htarget.symm.trans hreached)) hsame
  role role hrole := by
    rw [hplanned] at hrole
    rw [hmoved.roles]
    exact h.role role hrole

/-- What an undisturbed update does. -/
theorem Undisturbed.run (h : Undisturbed server resource current) :
    let run := Operation.update.run catalogServer resource server
    let statements := (resource.changesFrom current).map Change.toStatement
    run.result = .ok () ∧
    run.resource = { id := some (resource.reached current).name
                     recorded := .ofRecord (resource.reached current)
                     planned := resource.planned } ∧
    server.catalog.Moved run.state.catalog current.name (resource.reached current).name
      (resource.reached current).owner ∧
    Undisturbed run.state run.resource (resource.reached current) ∧
    statementsSent run.trace = statements ∧ statementsDone run.trace = statements ∧
    (statements = [] → run.state.catalog = server.catalog) := by
  have hdiff := Resource.diff_eq_changesFrom h.id h.name_ne
    (fun target htarget => (h.target target htarget).1) (fun role hrole => (h.role role hrole).1)
  obtain ⟨after, hcarries, hmoved⟩ :=
    carries_changesFrom { server with opened := server.opened + 1 } h.entry h.reached_name_free
      (fun role hrole => (h.role role hrole).2)
  obtain ⟨events, hrun⟩ := run_makeChanges_append hcarries [] resource
  have hread := run_readBack_of_found
    { server with opened := server.opened + 1, catalog := after }
    (Resource.afterChanges_changesFrom_id h.id) h.looks (by rw [hmoved.schemas, if_pos rfl])
  rw [List.append_nil] at hrun
  have hupdate := run_withSession_of_accepts
    (Procedure.makeChanges (resource.changesFrom current) resource) resource h.accepts
  rw [hrun, Procedure.makeChanges, hread] at hupdate
  simp only [Operation.run, Operation.procedure, Procedure.update, hdiff, hupdate]
  refine ⟨rfl, ?_, hmoved, ?_, ?_, ?_, ?_⟩
  · simp only [Run.prepend, Resource.observe_eq, Resource.afterChanges_planned]
  · refine h.next h.accepts h.looks rfl ?_ hmoved
    simp only [Run.prepend, Resource.observe_eq, Resource.afterChanges_planned]
  · simp [Run.prepend, statementsSent]
  · simp [Run.prepend, statementsDone]
  · intro hnone
    rw [hnone] at hcarries
    cases hcarries
    rfl

/-- Two undisturbed updates in a row reach what is wanted, whatever was recorded. -/
theorem Undisturbed.run_twice (h : Undisturbed server resource current) :
    let first := Operation.update.run catalogServer resource server
    let second := Operation.update.run catalogServer first.resource first.state
    let wanted := resource.wanted current
    first.result = .ok () ∧ second.result = .ok () ∧
    server.catalog.Moved second.state.catalog current.name wanted.name wanted.owner ∧
    second.resource = { id := some wanted.name
                        recorded := .ofRecord wanted
                        planned := resource.planned } ∧
    Undisturbed second.state second.resource wanted := by
  dsimp only
  obtain ⟨hresult, hresource, hmoved, hnext, -⟩ := h.run
  obtain ⟨hresult', hresource', hmoved', hnext', -⟩ := hnext.run
  generalize Operation.update.run catalogServer resource server = first at *
  have hplanned : first.resource.planned = resource.planned := congrArg (·.planned) hresource
  have htruthful : first.resource.IsTruthful (resource.reached current) :=
    .of_recorded (congrArg (·.recorded) hresource)
  have hreached : first.resource.reached (resource.reached current) = resource.wanted current :=
    calc
      first.resource.reached (resource.reached current)
          = first.resource.wanted (resource.reached current) := htruthful.reached_eq_wanted
      _ = resource.wanted (resource.reached current) := Resource.wanted_congr hplanned _
      _ = resource.wanted current := resource.wanted_reached current
  have hkeeps : current.name = (resource.reached current).name ∨
      (resource.reached current).name = (resource.wanted current).name := by
    rcases resource.reachedValue_cases .name current.name with hsame | hname
    · exact .inl hsame.symm
    · exact .inr (congrArg (·.getD current.name) hname).symm
  rw [hreached] at hresource' hmoved' hnext'
  rw [hplanned] at hresource'
  exact ⟨hresult, hresult', hmoved.trans hmoved' hkeeps, hresource', hnext'⟩

/-- When the catalog's entry is recorded and is what is wanted, an update only reads. -/
theorem Undisturbed.run_of_settled (h : Undisturbed server resource current)
    (hrecorded : resource.recorded = .ofRecord current)
    (hwanted : resource.wanted current = current) :
    let run := Operation.update.run catalogServer resource server
    run.result = .ok () ∧ statementsSent run.trace = [] ∧
      run.state.catalog = server.catalog ∧ run.resource = resource ∧
      Undisturbed run.state run.resource current := by
  have hsame (attr : Attr) : resource.change attr = none := by
    rw [Resource.change_eq_none_iff, hrecorded]
    intro value hvalue
    cases attr with
    | name =>
      have hname := congrArg Record.name hwanted
      simp only [Resource.wanted, Resource.wantedValue, hvalue, Option.getD_some] at hname
      exact hname.symm
    | owner =>
      have howner := congrArg Record.owner hwanted
      simp only [Resource.wanted, Resource.wantedValue, hvalue, Option.getD_some] at howner
      exact howner.symm
  have hreached : resource.reached current = current := by
    simp only [Resource.reached, Resource.reachedValue, hsame, Option.map_none, Option.getD_none]
  have hnone : resource.changesFrom current = [] := by
    simp [Resource.changesFrom, Change.renaming, hreached, hsame]
  obtain ⟨hresult, hresource, -, hnext, hsent, -, hcatalog⟩ := h.run
  rw [hreached] at hresource hnext
  rw [hnone] at hsent hcatalog
  refine ⟨hresult, hsent, hcatalog rfl, ?_, hnext⟩
  rw [hresource, ← hrecorded, ← h.id]

end

/-! ## Updates over and over -/

/-- The runs of an operation that is repeated, each from where the last one ended. -/
def Operation.repeated {σ : Type} (operation : Operation) (server : Server σ)
    (resource : Resource) (state : σ) : Nat → Run σ
  | 0 => operation.run server resource state
  | count + 1 =>
    let last := operation.repeated server resource state count
    operation.run server last.resource last.state

theorem Operation.repeated_succ {σ : Type} (operation : Operation) (server : Server σ)
    (resource : Resource) (state : σ) (count : Nat) :
    let first := operation.run server resource state
    operation.repeated server resource state (count + 1) =
      operation.repeated server first.resource first.state count := by
  induction count with
  | zero => rfl
  | succ count ih =>
    rw [Operation.repeated, ih]
    rfl

/-- Once what is wanted is reached, updates only read. -/
theorem Undisturbed.repeated_of_settled {server : CatalogServer} {resource : Resource}
    {current : Record} (h : Undisturbed server resource current)
    (hrecorded : resource.recorded = .ofRecord current)
    (hwanted : resource.wanted current = current) (count : Nat) :
    let run := Operation.update.repeated catalogServer resource server count
    run.result = .ok () ∧ statementsSent run.trace = [] ∧
      run.state.catalog = server.catalog ∧ run.resource = resource := by
  induction count generalizing server with
  | zero =>
    obtain ⟨hresult, hsent, hcatalog, hresource, -⟩ := h.run_of_settled hrecorded hwanted
    exact ⟨hresult, hsent, hcatalog, hresource⟩
  | succ count ih =>
    obtain ⟨-, -, hcatalog, hresource, hnext⟩ := h.run_of_settled hrecorded hwanted
    rw [hresource] at hnext
    rw [Operation.repeated_succ, hresource, ← hcatalog]
    exact ih hnext

/-- Two updates reach what is wanted from any recorded values, and every further update
sends no statement and changes nothing. -/
theorem update_converges {server : CatalogServer} {resource : Resource} {current : Record}
    (h : Undisturbed server resource current) :
    let run := Operation.update.repeated catalogServer resource server
    let wanted := resource.wanted current
    (run 0).result = .ok () ∧ (run 1).result = .ok () ∧
    server.catalog.Moved (run 1).state.catalog current.name wanted.name wanted.owner ∧
    (run 1).resource.id = some wanted.name ∧ (run 1).resource.record = some wanted ∧
    (run 1).resource.planned = resource.planned ∧
    ∀ count, (run (count + 2)).result = .ok () ∧
      statementsSent (run (count + 2)).trace = [] ∧
      (run (count + 2)).state.catalog = (run 1).state.catalog ∧
      (run (count + 2)).resource = (run 1).resource := by
  intro run wanted
  obtain ⟨hresult, hresult', hmoved, hresource, hsettled⟩ := h.run_twice
  refine ⟨hresult, hresult', hmoved, congrArg (·.id) hresource,
    congrArg (·.record) hresource, congrArg (·.planned) hresource, fun count => ?_⟩
  have hrecorded := congrArg (·.recorded) hresource
  have hwanted := (Resource.wanted_congr (congrArg (·.planned) hresource) wanted).trans
    (Resource.wanted_wanted resource current)
  have hlater := hsettled.repeated_of_settled hrecorded hwanted count
  simp only [run]
  rw [Operation.repeated_succ, Operation.repeated_succ]
  exact hlater

/-- The record claims already what is wanted, so the first update only reads. -/
theorem update_converges_from_stale :
    let server : CatalogServer :=
      { catalog := { CatalogServer.fresh.catalog with schemas := .ofList [("a", "alice")] } }
    let resource : Resource :=
      { id := some "a", recorded := .ofRecord ⟨"b", "bob"⟩, planned := .ofRecord ⟨"b", "bob"⟩ }
    let run := Operation.update.repeated catalogServer resource server
    Undisturbed server resource ⟨"a", "alice"⟩ ∧ (run 0).resource.id = some "a" ∧
      (run 1).resource.record = some ⟨"b", "bob"⟩ ∧ statementsSent (run 2).trace = [] := by
  intro server resource run
  have h : Undisturbed server resource ⟨"a", "alice"⟩ :=
    ⟨rfl, rfl, rfl, by decide, by decide, by decide, by decide⟩
  obtain ⟨-, -, -, -, hrecord, -, hlater⟩ := update_converges h
  exact ⟨h, by decide, hrecord, (hlater 0).2.1⟩

end Schemata
