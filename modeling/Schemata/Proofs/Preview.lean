import Schemata.Proofs.Episodes
import Schemata.Proofs.Refusal

/-!
# The previewed script is the script that runs

A host can show the script of a difference before it updates.  The update sends the texts of
that script in order, although it gives the resource another name and identity between two of
them; it stops early only when it gets no session or when a statement fails
(`update_sends_previewed_script`).
-/

namespace Schemata

theorem Change.script_eq_join (changes : List Change) :
    script changes =
      String.join (changes.map fun change => change.toStatement.render ++ ";\n") := by
  induction changes with
  | nil => rfl
  | cons change rest ih => rw [script, ih, List.map_cons, String.join_cons]

/-- A session in which no statement fails sends all its statements. -/
theorem Resource.Sends.statementsSent_eq {statements : List Statement} {resource : Resource}
    {episode : Episode} (h : Sends statements resource episode)
    (hdone : ∀ statement fault, ⟨.execute statement, .error fault⟩ ∉ episode.trace) :
    statementsSent episode.trace = statements := by
  induction h with
  | readBack hread => cases hread <;> rfl
  | refused statement rest resource fault =>
    exact absurd List.mem_cons_self (hdone statement fault)
  | carriedOut statement hrest ih =>
    have hrest := ih fun other fault hmem => hdone other fault (List.mem_cons_of_mem _ hmem)
    exact congrArg (statement :: ·) hrest

namespace Resource

variable {resource : Resource} {changes : List Change}

theorem statementsSent_update_eq {σ : Type} (hdiff : resource.diff = .ok changes)
    (server : Server σ) (state : σ) :
    let run := Operation.update.run server resource state
    (∃ fault, run.trace = [⟨.connect, .error fault⟩]) ∨
      ((∀ statement fault, ⟨.execute statement, .error fault⟩ ∉ run.trace) →
        statementsSent run.trace = changes.map Change.toStatement) := by
  intro run
  have hsend := Operation.agenda_update_eq_send_iff.mpr ⟨changes, hdiff, rfl⟩
  obtain ⟨episode, hadmits, hfollows⟩ := Operation.update.exists_episode resource server state
  simp only [run, hfollows.trace]
  cases hadmits with
  | rejected hagenda => cases hsend.symm.trans hagenda
  | settled hagenda => cases hsend.symm.trans hagenda
  | unconnected fault hagenda => exact .inl ⟨fault, rfl⟩
  | session hagenda hsends =>
    cases hsend.symm.trans hagenda
    refine .inr fun hdone => ?_
    exact hsends.statementsSent_eq fun statement fault hmem =>
      hdone statement fault (List.mem_cons_of_mem _ hmem)

/-- When the difference cannot be made, the update fails with the same error and makes no call.
Otherwise the texts it sends are those of the difference in order, up to one that fails; and
once it has a session and none fails, they make up the script of the difference. -/
theorem update_sends_previewed_script {σ : Type} (resource : Resource) (server : Server σ)
    (state : σ) :
    let run := Operation.update.run server resource state
    let sent := (statementsSent run.trace).map Statement.render
    (∀ error, resource.diff = .error error → run = .refused error resource state) ∧
    ∀ changes, resource.diff = .ok changes →
      let previewed := changes.map fun change => change.toStatement.render
      sent <+: previewed ∧
      ((∃ fault, run.trace = [⟨.connect, .error fault⟩]) ∨
        ((∀ statement fault, ⟨.execute statement, .error fault⟩ ∉ run.trace) →
          sent = previewed ∧ String.join (sent.map (· ++ ";\n")) = Change.script changes)) := by
  intro run sent
  refine ⟨fun error hdiff => run_update_of_diff_eq_error hdiff server state,
    fun changes hdiff => ?_⟩
  intro previewed
  have hpreviewed : previewed = (changes.map Change.toStatement).map Statement.render := by
    rw [List.map_map]
    rfl
  constructor
  · obtain ⟨first, hfirst, hsent⟩ := statementsSent_update hdiff server state
    have htexts : sent = (first.map Change.toStatement).map Statement.render := congrArg _ hsent
    rw [htexts, hpreviewed]
    exact (hfirst.map Change.toStatement).map Statement.render
  · refine (statementsSent_update_eq hdiff server state).imp_right fun hall hdone => ?_
    have hsent : sent = previewed := by
      rw [hpreviewed]
      exact congrArg _ (hall hdone)
    refine ⟨hsent, ?_⟩
    rw [hsent, Change.script_eq_join, List.map_map]
    rfl

/-- The second statement of the script addresses the name that the first has given. -/
theorem update_sends_previewed_rename_and_owner :
    let resource := ((Resource.ofRecord ⟨"a", "alice"⟩).plan .name "b").plan .owner "bob"
    let changes := [.rename "a" "b", .changeOwner "b" "bob"]
    let run := Operation.update.run scriptedServer resource
      { lookups := [.ok (some ⟨"b", "bob"⟩)] }
    let sent := (statementsSent run.trace).map Statement.render
    resource.diff = .ok changes ∧
      (∀ statement fault, ⟨.execute statement, .error fault⟩ ∉ run.trace) ∧
      String.join (sent.map (· ++ ";\n")) = Change.script changes := by
  intro resource changes run sent
  have hdiff : resource.diff = .ok changes := rfl
  have htrace : run.trace = [⟨.connect, .ok ()⟩, ⟨.execute (.rename "a" "b"), .ok ()⟩,
    ⟨.execute (.changeOwner "b" "bob"), .ok ()⟩, ⟨.lookup "b", .ok (some ⟨"b", "bob"⟩)⟩,
    ⟨.close, ()⟩] := rfl
  have hdone : ∀ statement fault, ⟨.execute statement, .error fault⟩ ∉ run.trace := by
    simp [htrace]
  obtain ⟨-, hsent⟩ := update_sends_previewed_script resource scriptedServer
    { lookups := [.ok (some ⟨"b", "bob"⟩)] }
  rcases (hsent changes hdiff).2 with ⟨fault, hrefused⟩ | hall
  · cases htrace.symm.trans hrefused
  · exact ⟨hdiff, hdone, (hall hdone).2⟩

end Resource

end Schemata
