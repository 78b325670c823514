import Schemata.Proofs.Diff
import Schemata.Proofs.Episodes
import Schemata.Script

/-!
# What a failure leaves

An operation that fails has failed at its last call before the close, or before any call, and
its error names that call.  In the resource it leaves exactly what the statements before that
call have made true, and nothing of what it wanted (`failure_leaves_what_succeeded`).
-/

namespace Schemata

/-- The error that an operation fails with when the call fails. -/
def Exchange.error? : Exchange → Option Error
  | ⟨.connect, .error fault⟩ => some (.connection fault)
  | ⟨.execute statement, .error fault⟩ =>
    some (.execution statement.action statement.schema fault)
  | ⟨.lookup name, .error fault⟩ => some (.execution .read name fault)
  | _ => none

theorem statementsDone_of_failed {failed : Exchange} {error : Error}
    (hfailed : failed.error? = some error) (rest : List Exchange) :
    statementsDone (failed :: rest) = statementsDone rest := by
  obtain ⟨call, reply⟩ := failed
  cases call with
  | connect => rfl
  | execute statement =>
    cases reply with
    | ok _ => cases hfailed
    | error fault => rfl
  | lookup name => rfl
  | close => rfl

namespace Resource

variable {resource : Resource} {statements done : List Statement} {episode : Episode}
  {error : Error}

/-! ## Where a session fails -/

theorem ReadsBack.planned (h : resource.ReadsBack episode) :
    episode.resource.planned = resource.planned := by
  cases h <;> rfl

theorem Sends.planned (h : Sends statements resource episode) :
    episode.resource.planned = resource.planned := by
  induction h with
  | readBack hread => exact hread.planned
  | refused statement rest resource fault => rfl
  | carriedOut statement hrest ih => cases statement <;> exact ih

/-- Of the statements for a session some were carried out, and the call that failed is the next
one, or the lookup if there is none left. -/
def FailsAt (resource : Resource) (statements done : List Statement) (failed : Exchange) : Prop :=
  (∃ statement rest fault, statements = done ++ statement :: rest ∧
    failed = ⟨.execute statement, .error fault⟩) ∨
  ∃ name fault, statements = done ∧ (resource.afterStatements done).id = some name ∧
    failed = ⟨.lookup name, .error fault⟩

theorem Sends.exists_failed (h : Sends statements resource episode)
    (herror : episode.result = .error error) :
    ∃ done failed, episode.trace = done.map Statement.carriedOut ++ [failed, ⟨.close, ()⟩] ∧
      failed.error? = some error ∧ episode.resource = resource.afterStatements done ∧
      resource.FailsAt statements done failed := by
  induction h with
  | readBack hread =>
    cases hread with
    | unnamed hid => cases herror
    | found record hid => cases herror
    | missing hid => cases herror
    | failed fault hid =>
      cases herror
      exact ⟨[], _, rfl, rfl, rfl, .inr ⟨_, fault, rfl, hid, rfl⟩⟩
  | refused statement rest resource fault =>
    cases herror
    exact ⟨[], _, rfl, rfl, rfl, .inl ⟨statement, rest, fault, rfl, rfl⟩⟩
  | carriedOut statement hrest ih =>
    obtain ⟨done, failed, htrace, hfailed, hresource, hat⟩ := ih herror
    refine ⟨statement :: done, failed, congrArg _ htrace, hfailed, hresource, ?_⟩
    rcases hat with ⟨next, left, fault, hsplit, hcall⟩ | ⟨name, fault, hall, hid, hcall⟩
    · exact .inl ⟨next, left, fault, congrArg _ hsplit, hcall⟩
    · exact .inr ⟨name, fault, congrArg _ hall, hid, hcall⟩

theorem FailsAt.isPrefix {failed : Exchange} (h : resource.FailsAt statements done failed) :
    done <+: statements := by
  rcases h with ⟨statement, rest, fault, rfl, -⟩ | ⟨name, fault, rfl, -, -⟩
  · exact List.prefix_append done _
  · exact List.prefix_refl statements

theorem FailsAt.isExecution {failed : Exchange} (h : resource.FailsAt statements done failed)
    (hfailed : failed.error? = some error) : error.isExecution = true := by
  rcases h with ⟨statement, rest, fault, -, rfl⟩ | ⟨name, fault, -, -, rfl⟩
  · cases hfailed
    rfl
  · cases hfailed
    rfl

theorem isExecution_of_diff_eq_error (hdiff : resource.diff = .error error) :
    error.isExecution = false := by
  rcases ResourceView.diff_eq_error_iff.mp hdiff with hrenames | ⟨_, _, -, howners⟩
  · obtain ⟨_, _, -, ⟨-, rfl⟩ | ⟨-, -, rfl⟩⟩ := ResourceView.renames_eq_error_iff.mp hrenames
    · rfl
    · rfl
  · obtain ⟨_, -, rfl⟩ := ResourceView.ownerChanges_eq_error_iff.mp howners
    rfl

/-! ## What an update notes down -/

/-- Owner changes are left to the read-back. -/
theorem afterStatements_map_changeOwner {owners : List Change}
    (howners : ∀ change ∈ owners, ∃ schema target, change = .changeOwner schema target)
    (hdone : done <+: owners.map Change.toStatement) :
    resource.afterStatements done = resource := by
  have hkept : ∀ statement ∈ done, resource.afterStatement statement = resource := by
    intro statement hmem
    obtain ⟨change, hchange, rfl⟩ := List.mem_map.mp (hdone.subset hmem)
    obtain ⟨schema, target, rfl⟩ := howners change hchange
    rfl
  clear hdone
  induction done with
  | nil => rfl
  | cons statement rest ih =>
    obtain ⟨hhead, hrest⟩ := List.forall_mem_cons.mp hkept
    rw [afterStatements, List.foldl_cons, hhead]
    exact ih hrest

/-- Of the changes of an update only the rename shows in the resource before the read-back. -/
theorem afterStatements_of_diff_eq_ok {changes : List Change}
    (hdiff : resource.diff = .ok changes) (hdone : done <+: changes.map Change.toStatement) :
    (∀ source target, .rename source target ∈ done →
      resource.afterStatements done = { resource with
        id := some target
        recorded := { resource.recorded with name := some target } } ∧
      resource.id ≠ some target ∧ resource.recorded.name ≠ some target) ∧
    ((∀ source target, .rename source target ∉ done) →
      resource.afterStatements done = resource) := by
  obtain ⟨renames, owners, rfl, howners, hrenames⟩ := changes_of_diff_eq_ok hdiff
  have hnone {rest : List Statement} (hrest : rest <+: owners.map Change.toStatement)
      (source target : String) : .rename source target ∉ rest := by
    intro hmem
    obtain ⟨change, hchange, heq⟩ := List.mem_map.mp (hrest.subset hmem)
    obtain ⟨schema, role, rfl⟩ := howners change hchange
    cases heq
  rcases hrenames with rfl | ⟨source, target, rfl, hid, hname⟩
  · exact ⟨fun source target hmem => absurd hmem (hnone hdone source target),
      fun _ => afterStatements_map_changeOwner howners hdone⟩
  · cases done with
    | nil => exact ⟨nofun, fun _ => rfl⟩
    | cons statement rest =>
      obtain ⟨rfl, hrest⟩ := List.cons_prefix_cons.mp hdone
      constructor
      · intro source' target' hmem
        rcases List.mem_cons.mp hmem with hhead | hmem
        · cases hhead
          exact ⟨afterStatements_map_changeOwner howners hrest, hid, hname⟩
        · exact absurd hmem (hnone hrest source' target')
      · intro habsent
        exact absurd List.mem_cons_self (habsent source target)

end Resource

/-! ## What an operation leaves -/

namespace Operation

/-- How an operation that fails has changed the resource, told from its calls and its error. -/
def Leaves (resource left : Resource) (trace : List Exchange) (error : Error) : Operation → Prop
  | .create =>
    match error with
    | .execution .read name _ =>
      left = { resource with id := some name } ∧
        ∃ owner, ⟨.execute (.create name owner), .ok ()⟩ ∈ trace
    | _ => left = resource
  | .read | .delete _ => left = resource
  | .update =>
    (∀ source target, ⟨.execute (.rename source target), .ok ()⟩ ∈ trace →
      left = { resource with
        id := some target
        recorded := { resource.recorded with name := some target } } ∧
      resource.id ≠ some target ∧ resource.recorded.name ≠ some target) ∧
    ((∀ source target, ⟨.execute (.rename source target), .ok ()⟩ ∉ trace) → left = resource)
  | .adopt name => left = { resource with id := some name }

variable {operation : Operation} {resource : Resource} {episode : Episode} {error : Error}

theorem begun_planned (operation : Operation) (resource : Resource) :
    (operation.begun resource).planned = resource.planned := by
  cases operation <;> rfl

theorem Admits.planned (h : operation.Admits resource episode) :
    episode.resource.planned = resource.planned := by
  cases h with
  | rejected hagenda => exact operation.begun_planned resource
  | settled hagenda => exact operation.begun_planned resource
  | unconnected fault hagenda => exact operation.begun_planned resource
  | session hagenda hsends => exact hsends.planned.trans (operation.begun_planned resource)

/-- What is rejected before contact is no failure of a call. -/
theorem isExecution_of_agenda_eq_reject (hagenda : operation.agenda resource = .reject error) :
    error.isExecution = false := by
  rcases agenda_eq_reject hagenda with ⟨-, rfl⟩ | ⟨-, hdiff⟩
  · rfl
  · exact Resource.isExecution_of_diff_eq_error hdiff

theorem leaves_begun {trace : List Exchange} (hexecution : error.isExecution = false)
    (hdone : statementsDone trace = []) :
    operation.Leaves resource (operation.begun resource) trace error := by
  cases operation with
  | create =>
    cases error with
    | execution action schema fault => cases hexecution
    | connection fault => rfl
    | emptyValue attr => rfl
    | noIdentity => rfl
  | read => rfl
  | update =>
    refine ⟨fun source target hmem => ?_, fun _ => rfl⟩
    rw [← mem_statementsDone_iff, hdone] at hmem
    cases hmem
  | delete behavior => rfl
  | adopt name => rfl

/-- What a session leaves that has failed with its next statement, or with its lookup. -/
theorem leaves_session {statements done : List Statement} {failed : Exchange}
    {trace : List Exchange} (hagenda : operation.agenda resource = .send statements)
    (hdone : statementsDone trace = done) (hfailed : failed.error? = some error)
    (hat : (operation.begun resource).FailsAt statements done failed) :
    operation.Leaves resource ((operation.begun resource).afterStatements done) trace error := by
  have hprefix := hat.isPrefix
  cases operation with
  | create =>
    obtain ⟨created, hname, -, rfl⟩ := agenda_create_eq_send_iff.mp hagenda
    rcases hat with ⟨statement, rest, fault, hsplit, rfl⟩ | ⟨name, fault, rfl, hid, rfl⟩
    · rcases List.singleton_eq_append_iff.mp hsplit with ⟨rfl, hhead⟩ | ⟨-, hnil⟩
      · cases hhead
        cases hfailed
        rfl
      · cases hnil
    · cases hfailed
      obtain rfl := Option.some.inj hid
      exact ⟨rfl, _, mem_statementsDone_iff.mp (hdone ▸ List.mem_cons_self)⟩
  | read =>
    obtain ⟨-, rfl⟩ := agenda_read_eq_send_iff.mp hagenda
    rw [List.prefix_nil.mp hprefix]
    rfl
  | update =>
    obtain ⟨changes, hdiff, rfl⟩ := agenda_update_eq_send_iff.mp hagenda
    simp only [Leaves, ← mem_statementsDone_iff, hdone]
    exact Resource.afterStatements_of_diff_eq_ok hdiff hprefix
  | delete behavior =>
    obtain ⟨name, -, rfl⟩ := agenda_delete_eq_send_iff.mp hagenda
    rcases hat with ⟨statement, rest, fault, hsplit, -⟩ | ⟨_, _, rfl, hid, -⟩
    · rcases List.singleton_eq_append_iff.mp hsplit with ⟨rfl, -⟩ | ⟨-, hnil⟩
      · rfl
      · cases hnil
    · -- After a drop there is no identity left to look up.
      cases hid
  | adopt name =>
    cases hagenda
    rw [List.prefix_nil.mp hprefix]
    rfl

end Operation

/-- Whatever the replies, an operation leaves what is planned alone.  When it fails, the resource
is left as the statements that were carried out have made it, after the name was taken in an
adoption; the last call before the close is the one that the error names, and all calls before
it succeeded. -/
theorem failure_leaves_what_succeeded {σ : Type} (operation : Operation) (resource : Resource)
    (server : Server σ) (state : σ) :
    let run := operation.run server resource state
    run.resource.planned = resource.planned ∧
    ∀ error, run.result = .error error →
      run.resource = (operation.begun resource).afterStatements (statementsDone run.trace) ∧
      operation.Leaves resource run.resource run.trace error ∧
      (error.isExecution = false →
        run.resource = operation.begun resource ∧ statementsSent run.trace = []) ∧
      (error.isExecution = true → ∃ earlier failed,
        run.trace = earlier ++ [failed, ⟨.close, ()⟩] ∧ failed.error? = some error ∧
        ∀ exchange ∈ earlier, exchange.error? = none) := by
  intro run
  obtain ⟨episode, hadmits, hfollows⟩ := operation.exists_episode resource server state
  simp only [run, hfollows.trace, hfollows.resource, hfollows.result]
  refine ⟨hadmits.planned, fun error herror => ?_⟩
  cases hadmits with
  | rejected hagenda =>
    cases herror
    have hexecution := Operation.isExecution_of_agenda_eq_reject hagenda
    exact ⟨rfl, Operation.leaves_begun hexecution rfl, fun _ => ⟨rfl, rfl⟩, by simp [hexecution]⟩
  | settled hagenda => cases herror
  | unconnected fault hagenda =>
    cases herror
    exact ⟨rfl, Operation.leaves_begun rfl rfl, fun _ => ⟨rfl, rfl⟩, nofun⟩
  | @session statements episode hagenda hsends =>
    obtain ⟨done, failed, htrace, hfailed, hresource, hat⟩ := hsends.exists_failed herror
    have hdone : statementsDone (⟨.connect, .ok ()⟩ :: episode.trace) = done := by
      rw [htrace]
      change statementsDone (done.map Statement.carriedOut ++ [failed, ⟨.close, ()⟩]) = done
      rw [statementsDone_append, statementsDone_map_carriedOut, statementsDone_of_failed hfailed]
      exact List.append_nil done
    refine ⟨?_, ?_, by simp [hat.isExecution hfailed], fun _ => ?_⟩
    · exact hresource.trans (congrArg _ hdone.symm)
    · exact hresource ▸ Operation.leaves_session hagenda hdone hfailed hat
    · refine ⟨⟨.connect, .ok ()⟩ :: done.map Statement.carriedOut, failed, congrArg _ htrace,
        hfailed, ?_⟩
      rw [List.forall_mem_cons, List.forall_mem_map]
      exact ⟨rfl, fun _ _ => rfl⟩

/-- The second statement of an update fails: the name has changed, the owner has not. -/
theorem failure_leaves_rename_before_refused_owner :
    let resource := ((Resource.ofRecord ⟨"a", "alice"⟩).plan .name "b").plan .owner "mallory"
    let fault : Fault := { message := "role \"mallory\" does not exist" }
    let error : Error := .execution .changeOwner "b" fault
    let run := Operation.update.run scriptedServer resource { executes := [.ok (), .error fault] }
    run.result = .error error ∧
      run.resource = { resource with
        id := some "b"
        recorded := { resource.recorded with name := some "b" } } ∧
      ∃ earlier failed, run.trace = earlier ++ [failed, ⟨.close, ()⟩] ∧
        failed.error? = some error ∧ ∀ exchange ∈ earlier, exchange.error? = none := by
  intro resource fault error run
  have hresult : run.result = .error error := rfl
  have hrenamed : ⟨.execute (.rename "a" "b"), .ok ()⟩ ∈ run.trace :=
    mem_statementsDone_iff.mp List.mem_cons_self
  obtain ⟨-, hfails⟩ := failure_leaves_what_succeeded .update resource scriptedServer
    { executes := [.ok (), .error fault] }
  obtain ⟨-, ⟨hleft, -⟩, -, htrace⟩ := hfails error hresult
  exact ⟨hresult, (hleft "a" "b" hrenamed).1, htrace rfl⟩

end Schemata
