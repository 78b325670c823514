import Schemata.Proofs.CommandEffects

/-!
# What a success leaves

Create, import, read and update succeed exactly if they end with one lookup that is answered, of
the name that the schema has once the statements before it were carried out.  The name may have
changed on the way: `Operation.LeavesNamed` says for each operation where it comes from.  Whatever
the lookup finds, under whatever name, is then all that the resource records, with what was
planned beside it (`success_leaves_what_was_found`).
-/

namespace Schemata

/-! ## Resources that were just read -/

namespace Resource

/-- A resource whose lookup was answered with `found`, and which records nothing else. -/
def ofFound (planned : Values) : Option Record → Resource
  | some record => { id := some record.name, recorded := .ofRecord record, planned }
  | none => { planned }

@[simp]
theorem ofFound_planned (planned : Values) (found : Option Record) :
    (ofFound planned found).planned = planned := by
  cases found <;> rfl

@[simp]
theorem ofFound_none_get (planned : Values) (attr : Attr) :
    (ofFound planned none).get attr = planned.get attr := by
  cases attr <;> simp [ofFound, get, Values.get]

/-! ## The end of a session -/

variable {resource : Resource} {statements : List Statement} {episode : Episode} {name : String}

/-- A lookup that succeeds leaves nothing of what was recorded before. -/
theorem ReadsBack.of_ok (hid : resource.id = some name) (h : resource.ReadsBack episode)
    (hok : episode.result = .ok ()) :
    ∃ found, episode.trace = [⟨.lookup name, .ok found⟩, ⟨.close, ()⟩] ∧
      episode.resource = ofFound episode.resource.planned found := by
  cases h with
  | unnamed hnone => cases hid.symm.trans hnone
  | found record hname =>
    cases hid.symm.trans hname
    exact ⟨some record, rfl, rfl⟩
  | missing hname =>
    cases hid.symm.trans hname
    exact ⟨none, rfl, rfl⟩
  | failed fault hname => cases hok

/-- A session that succeeds has carried out all its statements before the lookup. -/
theorem Sends.of_ok (hid : (resource.afterStatements statements).id = some name)
    (h : Sends statements resource episode) (hok : episode.result = .ok ()) :
    ∃ found, episode.trace =
        statements.map Statement.carriedOut ++ [⟨.lookup name, .ok found⟩, ⟨.close, ()⟩] ∧
      episode.resource = ofFound episode.resource.planned found := by
  induction h with
  | readBack hread => exact hread.of_ok hid hok
  | refused statement rest resource fault => cases hok
  | carriedOut statement hrest ih =>
    obtain ⟨found, htrace, hresource⟩ := ih hid hok
    exact ⟨found, congrArg (List.cons _) htrace, hresource⟩

end Resource

/-! ## The name that is looked up -/

/-- A rename starts at the identity, or at the recorded name without one. -/
theorem ResourceView.source_of_rename_mem {view : ResourceView} {changes : List Change}
    {source target : String} (hdiff : view.diff = .ok changes)
    (hmem : .rename source target ∈ changes) :
    ∃ recorded, view.nameChange = some (recorded, target) ∧ source = view.id.getD recorded := by
  obtain ⟨renames, schema, owners, hrenames, howners, rfl⟩ := diff_eq_ok_iff.mp hdiff
  rcases List.mem_append.mp hmem with hmem | hmem
  · rcases renames_eq_ok_iff.mp hrenames with ⟨-, rfl, -⟩ | ⟨recorded, wanted, hchange, -, -, -, rfl⟩
    · cases hmem
    · split_ifs at hmem
      · cases hmem
      · cases List.mem_singleton.mp hmem
        exact ⟨recorded, hchange, rfl⟩
  · rcases ownerChanges_eq_ok_iff.mp howners with ⟨-, rfl⟩ | ⟨_, _, -, -, rfl⟩
    · cases hmem
    · cases List.mem_singleton.mp hmem

namespace Operation

variable {operation : Operation} {resource : Resource} {statements : List Statement}

/-- The operation comes to a lookup when no call fails, as it gives the resource a name or finds
one there. -/
def LooksUp : Operation → Resource → Prop
  | .create, _ | .adopt _, _ => True
  | .read, resource | .update, resource => resource.id ≠ none
  | .delete _, _ => False

/-- The schema has the name once the statements of the operation were carried out: it was created
or adopted under it, renamed to it, or had it all along. -/
def LeavesNamed (operation : Operation) (resource : Resource) (statements : List Statement)
    (name : String) : Prop :=
  match operation with
  | .create => resource.get .name = some name ∧
      statements = [.creating name (resource.get .owner)]
  | .read => resource.id = some name ∧ statements = []
  | .update =>
    (∃ source, resource.id = some source ∧ resource.planned.name = some name ∧
      .rename source name ∈ statements) ∨
      resource.id = some name ∧ ∀ source target, .rename source target ∉ statements
  | .delete _ => False
  | .adopt adopted => name = adopted ∧ statements = []

theorem agenda_ne_nothing (hlooks : operation.LooksUp resource) :
    operation.agenda resource ≠ .nothing := by
  intro hnothing
  cases operation with
  | create =>
    rw [agenda] at hnothing
    split at hnothing <;> cases hnothing
  | read =>
    rw [agenda, if_neg hlooks] at hnothing
    cases hnothing
  | update =>
    rw [agenda] at hnothing
    split at hnothing <;> cases hnothing
  | delete behavior => exact hlooks
  | adopt name => cases hnothing

/-- A rename of an update is one from the identity to the planned name. -/
theorem rename_of_mem {changes : List Change} {identity source target : String}
    (hid : resource.id = some identity) (hdiff : resource.diff = .ok changes)
    (hmem : Statement.rename source target ∈ changes.map Change.toStatement) :
    source = identity ∧ resource.planned.name = some target := by
  obtain ⟨change, hchange, heq⟩ := List.mem_map.mp hmem
  cases change with
  | rename start wanted =>
    cases heq
    obtain ⟨recorded, hwanted, hstart⟩ := ResourceView.source_of_rename_mem hdiff hchange
    constructor
    · exact hstart.trans (by rw [Resource.view, hid, Option.getD_some])
    · exact (Resource.change_eq_some_iff.mp hwanted).1
  | changeOwner schema role => cases heq

/-- The identity follows the rename of an update. -/
theorem leavesNamed_update {changes : List Change} {identity : String}
    (hid : resource.id = some identity) (hdiff : resource.diff = .ok changes) :
    ∃ name, (resource.afterStatements (changes.map Change.toStatement)).id = some name ∧
      update.LeavesNamed resource (changes.map Change.toStatement) name := by
  obtain ⟨hrenamed, hkept⟩ := Resource.afterStatements_of_diff_eq_ok hdiff (List.prefix_refl _)
  by_cases hrename : ∃ source target,
      Statement.rename source target ∈ changes.map Change.toStatement
  · obtain ⟨source, target, hmem⟩ := hrename
    obtain ⟨rfl, hwanted⟩ := rename_of_mem hid hdiff hmem
    refine ⟨target, ?_, .inl ⟨source, hid, hwanted, hmem⟩⟩
    rw [(hrenamed source target hmem).1]
  · have hnone : ∀ source target,
        Statement.rename source target ∉ changes.map Change.toStatement := by
      intro source target hmem
      exact hrename ⟨source, target, hmem⟩
    refine ⟨identity, ?_, .inr ⟨hid, hnone⟩⟩
    rw [hkept hnone, hid]

/-- What an operation has to send leaves the resource with the name of the schema as its
identity. -/
theorem exists_leavesNamed (hlooks : operation.LooksUp resource)
    (hagenda : operation.agenda resource = .send statements) :
    ∃ name, ((operation.begun resource).afterStatements statements).id = some name ∧
      operation.LeavesNamed resource statements name := by
  cases operation with
  | create =>
    obtain ⟨name, hname, -, rfl⟩ := agenda_create_eq_send_iff.mp hagenda
    exact ⟨name, rfl, hname, rfl⟩
  | read =>
    obtain ⟨-, rfl⟩ := agenda_read_eq_send_iff.mp hagenda
    obtain ⟨name, hid⟩ := Option.ne_none_iff_exists'.mp hlooks
    exact ⟨name, hid, hid, rfl⟩
  | update =>
    obtain ⟨changes, hdiff, rfl⟩ := agenda_update_eq_send_iff.mp hagenda
    obtain ⟨identity, hid⟩ := Option.ne_none_iff_exists'.mp hlooks
    exact leavesNamed_update hid hdiff
  | delete behavior => cases hlooks
  | adopt name =>
    cases hagenda
    exact ⟨name, rfl, rfl, rfl⟩

end Operation

/-! ## What an operation leaves -/

/-- The calls of a session whose statements were all carried out and whose lookup was answered. -/
def answeredSession (statements : List Statement) (name : String) (found : Option Record) :
    List Exchange :=
  ⟨.connect, .ok ()⟩ :: statements.map Statement.carriedOut ++
    [⟨.lookup name, .ok found⟩, ⟨.close, ()⟩]

theorem error?_of_mem_answeredSession {statements : List Statement} {name : String}
    {found : Option Record} :
    ∀ exchange ∈ answeredSession statements name found, exchange.error? = none := by
  rw [answeredSession, List.forall_mem_append, List.forall_mem_cons, List.forall_mem_map]
  exact ⟨⟨rfl, fun _ _ => rfl⟩, by simp [Exchange.error?]⟩

namespace Operation

variable {operation : Operation} {resource : Resource} {episode : Episode}

/-- An operation that fails has no such session. -/
theorem Admits.ok_of_answeredSession {statements : List Statement} {name : String}
    {found : Option Record} (h : operation.Admits resource episode)
    (htrace : episode.trace = answeredSession statements name found) :
    episode.result = .ok () := by
  cases hagenda : operation.agenda resource with
  | reject error =>
    rw [(h.of_reject hagenda).1] at htrace
    cases htrace
  | nothing =>
    cases h with
    | rejected hagenda' => cases hagenda.symm.trans hagenda'
    | settled hagenda' => rfl
    | unconnected fault hagenda' => cases hagenda.symm.trans hagenda'
    | session hagenda' hsends => cases hagenda.symm.trans hagenda'
  | send sent =>
    rw [(h.sending hagenda).isOk, htrace]
    exact error?_of_mem_answeredSession

/-- An operation that succeeds where there is a name has such a session. -/
theorem Admits.exists_answeredSession (hlooks : operation.LooksUp resource)
    (h : operation.Admits resource episode) (hok : episode.result = .ok ()) :
    ∃ statements name found, episode.trace = answeredSession statements name found ∧
      operation.LeavesNamed resource statements name ∧
      episode.resource = .ofFound resource.planned found := by
  have hplanned := h.planned
  cases h with
  | rejected hagenda => cases hok
  | settled hagenda => exact absurd hagenda (agenda_ne_nothing hlooks)
  | unconnected fault hagenda => cases hok
  | @session statements episode hagenda hsends =>
    obtain ⟨name, hid, hnamed⟩ := exists_leavesNamed hlooks hagenda
    obtain ⟨found, htrace, hresource⟩ := hsends.of_ok hid hok
    refine ⟨statements, name, found, congrArg (List.cons _) htrace, hnamed, ?_⟩
    rw [← hplanned]
    exact hresource

end Operation

/-- An operation that looks the schema up, against any server, succeeds exactly if it has carried
out its statements one after the other and then made one lookup that was answered, of the name
that the schema has at that point.  The record that was found, under whatever name, is then the
identity and all that is recorded; when nothing was found there is no identity, and only what is
planned is left. -/
theorem success_leaves_what_was_found {σ : Type} {operation : Operation} {resource : Resource}
    (hlooks : operation.LooksUp resource) (server : Server σ) (state : σ) :
    let run := operation.run server resource state
    run.result = .ok () ↔ ∃ statements name found,
      run.trace = answeredSession statements name found ∧
      operation.LeavesNamed resource statements name ∧
      run.resource.planned = resource.planned ∧
      (∀ record, found = some record →
        run.resource.id = some record.name ∧ run.resource.record = some record ∧
          run.resource.recorded = .ofRecord record) ∧
      (found = none →
        run.resource.id = none ∧ run.resource.record = none ∧
          ∀ attr, run.resource.get attr = resource.planned.get attr) := by
  intro run
  obtain ⟨episode, hadmits, hfollows⟩ := operation.exists_episode resource server state
  simp only [run, hfollows.trace, hfollows.resource, hfollows.result]
  constructor
  · intro hok
    obtain ⟨statements, name, found, htrace, hnamed, hresource⟩ :=
      hadmits.exists_answeredSession hlooks hok
    rw [hresource]
    refine ⟨statements, name, found, htrace, hnamed, ?_, ?_, ?_⟩
    · exact Resource.ofFound_planned _ _
    · rintro record rfl
      exact ⟨rfl, rfl, rfl⟩
    · rintro rfl
      exact ⟨rfl, rfl, Resource.ofFound_none_get _⟩
  · rintro ⟨statements, name, found, htrace, -⟩
    exact hadmits.ok_of_answeredSession htrace

/-- The schema that an update has renamed is found under yet another name. -/
theorem success_leaves_record_of_another_name :
    let resource := (Resource.ofRecord ⟨"a", "alice"⟩).plan .name "b"
    let record : Record := ⟨"c", "carol"⟩
    let run := Operation.update.run scriptedServer resource { lookups := [.ok (some record)] }
    run.result = .ok () ∧ namesLookedUp run.trace = ["b"] ∧
      run.resource.id = some "c" ∧ run.resource.record = some record := by
  intro resource record run
  have hlooks : Operation.update.LooksUp resource := nofun
  have hok : run.result = .ok () := rfl
  obtain ⟨statements, name, found, htrace, -, -, hfound, -⟩ :=
    (success_leaves_what_was_found hlooks scriptedServer { lookups := [.ok (some record)] }).mp hok
  have hcalls : answeredSession [.rename "a" "b"] "b" (some record) = run.trace := rfl
  have hlast : "b" = name ∧ some record = found := by
    simpa [answeredSession] using
      congrArg (fun trace => trace.reverse.take 2) (hcalls.trans htrace)
  obtain ⟨hid, hrecord, -⟩ := hfound record hlast.2.symm
  exact ⟨hok, rfl, hid, hrecord⟩

end Schemata
