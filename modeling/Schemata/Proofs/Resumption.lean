import Schemata.Proofs.Convergence

/-!
# Updates can be resumed

An update may stop anywhere: no session, a name that is taken, a role that is missing, a
lookup that fails.  Whatever it has done by then, it leaves a resource whose identity
names the entry and whose recorded values never claim more than what holds
(`update_underway`).  So once nothing stands in the way, the next update makes exactly
the changes that are left.
-/

namespace Schemata

def Statement.isRename (statement : Statement) : Bool :=
  statement.action = .rename

/-- The renames among the calls of a run that the server carried out. -/
def renamesDone (trace : List Exchange) : List Statement :=
  (statementsDone trace).filter Statement.isRename

@[simp]
theorem renamesDone_append (left right : List Exchange) :
    renamesDone (left ++ right) = renamesDone left ++ renamesDone right := by
  simp [renamesDone]

theorem Change.filter_isRename_renaming (source target : String) :
    ((Change.renaming source target).map Change.toStatement).filter Statement.isRename =
      (Change.renaming source target).map Change.toStatement := by
  by_cases hsame : source = target
  · rw [hsame, Change.renaming_self]
    rfl
  · rw [Change.renaming_of_ne hsame]
    rfl

/-- Of the changes of an update only the first can be a rename. -/
theorem Resource.filter_isRename_changesFrom (resource : Resource) (current : Record) :
    ((resource.changesFrom current).map Change.toStatement).filter Statement.isRename =
      (Change.renaming current.name (resource.reached current).name).map Change.toStatement := by
  rw [changesFrom, List.map_append, List.filter_append, Change.filter_isRename_renaming]
  cases resource.change .owner with
  | none => exact List.append_nil _
  | some change => exact List.append_nil _

/-- A rename that is made early is not made again. -/
theorem Change.renaming_append {source mid target : String}
    (hmid : mid = source ∨ mid = target) :
    Change.renaming source mid ++ Change.renaming mid target = Change.renaming source target := by
  rcases hmid with rfl | rfl
  · rw [Change.renaming_self, List.nil_append]
  · rw [Change.renaming_self, List.append_nil]

theorem Change.eq_nil_or_eq_renaming {source target : String} {made rest : List Change}
    (hsplit : Change.renaming source target = made ++ rest) :
    made = [] ∨ made = Change.renaming source target := by
  by_cases hsame : source = target
  · rw [hsame, Change.renaming_self] at hsplit
    exact .inl (List.append_eq_nil_iff.mp hsplit.symm).1
  · rw [Change.renaming_of_ne hsame] at hsplit ⊢
    rcases List.singleton_eq_append_iff.mp hsplit with ⟨hnone, -⟩ | ⟨hall, -⟩
    · exact .inl hnone
    · exact .inr hall

/-- How far an update has come with the entry of `source`: it is now `reached`, the
resource says no more than that, and the name is the old one or a wanted one that was
free. -/
structure Underway (before after : Catalog) (source : String) (resource : Resource)
    (reached : Record) : Prop where
  moved : before.Moved after source reached.name reached.owner
  id : resource.id = some reached.name
  truthful : resource.IsTruthful reached
  name : reached.name = source ∨
    (resource.planned.name = some reached.name ∧ reached.name ∉ before.schemas)

section

variable {server : CatalogServer} {resource : Resource} {current : Record}

theorem underway_refl (hid : resource.id = some current.name)
    (hentry : server.catalog.schemas[current.name]? = some current.owner)
    (htruthful : resource.IsTruthful current) :
    Underway server.catalog server.catalog current.name resource current where
  moved := .refl hentry
  id := hid
  truthful := htruthful
  name := .inl rfl

theorem underway_of_renaming {target : String} {final : CatalogServer}
    (hid : resource.id = some current.name)
    (hentry : server.catalog.schemas[current.name]? = some current.owner)
    (htruthful : resource.IsTruthful current)
    (htarget : target = current.name ∨ resource.planned.name = some target)
    (hcarries : catalogServer.Carries
      ((Change.renaming current.name target).map Change.toStatement) server final) :
    Underway server.catalog final.catalog current.name
      (resource.afterChanges (Change.renaming current.name target))
      { name := target, owner := current.owner } := by
  by_cases hsame : current.name = target
  · subst hsame
    rw [Change.renaming_self] at hcarries ⊢
    cases hcarries
    exact underway_refl hid hentry htruthful
  · rw [Change.renaming_of_ne hsame] at hcarries ⊢
    obtain ⟨after, hexecute, rfl⟩ := carries_singleton_iff.mp hcarries
    obtain ⟨_, -, hfree, -⟩ := Catalog.execute_rename_eq_ok_iff.mp hexecute
    exact ⟨.of_rename hentry hexecute, rfl, ⟨fun _ _ h => h, htruthful.owner⟩,
      .inr ⟨htarget.resolve_left (Ne.symm hsame), hfree⟩⟩

theorem Underway.changeOwner {before : Catalog} {source role : String} {reached : Record}
    {final : CatalogServer} (h : Underway before server.catalog source resource reached)
    (hrole : resource.planned.owner = some role)
    (hcarries : catalogServer.Carries [.changeOwner reached.name role] server final) :
    Underway before final.catalog source resource { reached with owner := role } := by
  obtain ⟨after, hexecute, rfl⟩ := carries_singleton_iff.mp hcarries
  refine ⟨h.moved.trans (.of_changeOwner hexecute) (.inr rfl), h.id, ⟨h.truthful.name, ?_⟩,
    h.name⟩
  intro role' hrole' _
  exact Option.some.inj (hrole.symm.trans hrole')

/-- However many of its changes an update has made, it is under way, and it has renamed
exactly if the name is another one now. -/
theorem underway_of_carries {made rest : List Change} {final : CatalogServer}
    (hsplit : resource.changesFrom current = made ++ rest)
    (hcarries : catalogServer.Carries (made.map Change.toStatement) server final)
    (hid : resource.id = some current.name)
    (hentry : server.catalog.schemas[current.name]? = some current.owner)
    (htruthful : resource.IsTruthful current) :
    ∃ reached, Underway server.catalog final.catalog current.name
        (resource.afterChanges made) reached ∧
      (made.map Change.toStatement).filter Statement.isRename =
        (Change.renaming current.name reached.name).map Change.toStatement := by
  have htarget := resource.reachedValue_cases .name current.name
  -- The update stopped after the rename, or before it.
  rcases List.append_eq_append_iff.mp hsplit with
    ⟨owners, rfl, howners⟩ | ⟨unmade, hrenaming, rfl⟩
  · rw [List.map_append] at hcarries ⊢
    obtain ⟨mid, hrenamed, howned⟩ := hcarries.of_append
    have hunderway := underway_of_renaming hid hentry htruthful htarget hrenamed
    rw [List.filter_append, Change.filter_isRename_renaming, Resource.afterChanges_append]
    cases hchange : resource.change .owner with
    | none =>
      rw [hchange] at howners
      obtain ⟨rfl, -⟩ := List.append_eq_nil_iff.mp howners.symm
      cases howned
      exact ⟨_, hunderway, List.append_nil _⟩
    | some change =>
      rw [hchange] at howners
      rcases List.singleton_eq_append_iff.mp howners with ⟨rfl, -⟩ | ⟨rfl, -⟩
      · cases howned
        exact ⟨_, hunderway, List.append_nil _⟩
      · refine ⟨_, hunderway.changeOwner ?_ howned, List.append_nil _⟩
        rw [Resource.afterChanges_planned]
        exact (Resource.change_eq_some_iff.mp hchange).1
  · rcases Change.eq_nil_or_eq_renaming hrenaming with rfl | rfl
    · cases hcarries
      exact ⟨current, underway_refl hid hentry htruthful, by rw [Change.renaming_self]; rfl⟩
    · exact ⟨_, underway_of_renaming hid hentry htruthful htarget hcarries,
        Change.filter_isRename_renaming _ _⟩

/-- A read-back keeps an update under way, whether the lookup succeeds or not. -/
theorem Underway.readBack {before : Catalog} {source : String} {reached : Record}
    (h : Underway before server.catalog source resource reached) :
    let run := (Procedure.readBack resource).run catalogServer resource server
    Underway before run.state.catalog source run.resource reached ∧
      run.resource.planned = resource.planned ∧ statementsDone run.trace = [] := by
  cases hlooks : server.failsLookups with
  | true =>
    simp [Procedure.readBack, h.id, Procedure.run, catalogServer, CatalogServer.answer, hlooks,
      Procedure.finish, statementsDone, h]
  | false =>
    have hentry : server.catalog.schemas[reached.name]? = some reached.owner := by
      rw [h.moved.schemas, if_pos rfl]
    rw [run_readBack_of_found server h.id hlooks hentry]
    exact ⟨⟨h.moved, rfl, .of_recorded rfl, h.name⟩, rfl, rfl⟩

/-- A refused change keeps an update under way. -/
theorem Underway.refused {before : Catalog} {source : String} {reached : Record}
    (h : Underway before server.catalog source resource reached) {change : Change}
    {rest : List Change} {fault : Fault}
    (hrefused : (catalogServer.answer server (.execute change.toStatement)).reply =
      .error fault) :
    let run := (Procedure.makeChanges (change :: rest) resource).run catalogServer resource server
    Underway before run.state.catalog source run.resource reached ∧
      run.resource.planned = resource.planned ∧ statementsDone run.trace = [] := by
  have hanswer : catalogServer.answer server (.execute change.toStatement) =
      { reply := .error fault, state := server } := by
    rcases server.answer_execute_cases change.toStatement with
      ⟨after, -, hdone⟩ | ⟨fault', hfailed⟩
    · exact absurd ((congrArg (·.reply) hdone).symm.trans hrefused) (by simp)
    · rw [← hrefused]
      exact hfailed.trans (by simp [catalogServer, hfailed])
  obtain ⟨hstate, hresource, -, htrace⟩ := run_makeChanges_of_error rest resource hrefused
  dsimp only
  rw [hstate, hresource, htrace, hanswer]
  exact ⟨h, rfl, rfl⟩

/-- Making changes that stops anywhere leaves the update under way. -/
theorem makeChanges_underway (hid : resource.id = some current.name)
    (hentry : server.catalog.schemas[current.name]? = some current.owner)
    (htruthful : resource.IsTruthful current) :
    let run := (Procedure.makeChanges (resource.changesFrom current) resource).run catalogServer
      resource server
    ∃ reached, Underway server.catalog run.state.catalog current.name run.resource reached ∧
      run.resource.planned = resource.planned ∧
      renamesDone run.trace =
        (Change.renaming current.name reached.name).map Change.toStatement := by
  obtain ⟨made, rest, final, hsplit, hcarries, hrest⟩ :=
    exists_carries catalogServer (resource.changesFrom current) server
  obtain ⟨reached, hunderway, hrenames⟩ :=
    underway_of_carries hsplit hcarries hid hentry htruthful
  obtain ⟨events, hrun⟩ := run_makeChanges_append hcarries rest resource
  have hend :
      let run := (Procedure.makeChanges rest (resource.afterChanges made)).run catalogServer
        (resource.afterChanges made) final
      Underway server.catalog run.state.catalog current.name run.resource reached ∧
        run.resource.planned = (resource.afterChanges made).planned ∧
        statementsDone run.trace = [] := by
    cases rest with
    | nil => exact hunderway.readBack
    | cons change rest =>
      obtain ⟨fault, hrefused⟩ := hrest change rfl
      exact hunderway.refused hrefused
  obtain ⟨hunderway', hplanned, hdone⟩ := hend
  rw [hsplit, hrun]
  refine ⟨reached, hunderway', hplanned.trans (resource.afterChanges_planned made), ?_⟩
  simp [Run.prepend, renamesDone, hdone, hrenames]

/-- An update that stops anywhere is under way. -/
theorem update_underway (hid : resource.id = some current.name) (hcurrent : current.name ≠ "")
    (hentry : server.catalog.schemas[current.name]? = some current.owner)
    (htruthful : resource.IsTruthful current)
    (hname : ∀ target, resource.planned.name = some target → target ≠ "")
    (howner : ∀ role, resource.planned.owner = some role → role ≠ "") :
    let run := Operation.update.run catalogServer resource server
    ∃ reached, Underway server.catalog run.state.catalog current.name run.resource reached ∧
      run.resource.planned = resource.planned ∧
      renamesDone run.trace =
        (Change.renaming current.name reached.name).map Change.toStatement := by
  have hdiff := Resource.diff_eq_changesFrom hid hcurrent hname howner
  simp only [Operation.run, Operation.procedure, Procedure.update, hdiff]
  cases haccepts : server.refusesSessions with
  | true =>
    refine ⟨current, ?_, ?_, ?_⟩
    all_goals
      simp [Procedure.withSession, Procedure.run, catalogServer, CatalogServer.answer, haccepts]
    · exact underway_refl hid hentry htruthful
    · simp [renamesDone, statementsDone]
  | false =>
    have hentry' : ({ server with opened := server.opened + 1 } :
        CatalogServer).catalog.schemas[current.name]? = some current.owner := hentry
    obtain ⟨reached, hunderway, hplanned, hrenames⟩ := makeChanges_underway hid hentry' htruthful
    rw [run_withSession_of_accepts _ _ haccepts]
    exact ⟨reached, hunderway, hplanned, hrenames⟩

end

/-! ## The next update -/

/-- What stood in the way of an update is gone, and nothing else: sessions and lookups
succeed, the wanted owner is a role, and the schema that had taken the wanted name before
the update has been removed. -/
structure Unblocked (before blocked cleared : CatalogServer) (source target role : String) :
    Prop where
  accepts : cleared.refusesSessions = false
  looks : cleared.failsLookups = false
  role : role ∈ cleared.catalog.roles
  schemas : ∀ name, cleared.catalog.schemas[name]? =
    if name = target ∧ target ≠ source ∧ target ∈ before.catalog.schemas then none
    else blocked.catalog.schemas[name]?

section

variable {server blocked cleared : CatalogServer} {resource : Resource} {reached wanted : Record}
  {source : String}

/-- The entry has its old name still or the wanted one already, which was free then. -/
theorem Underway.name_cases {before after : Catalog}
    (h : Underway before after source resource reached)
    (hplanned : resource.planned = .ofRecord wanted) :
    reached.name = source ∨ (reached.name = wanted.name ∧ wanted.name ∉ before.schemas) := by
  rcases h.name with hsame | ⟨htarget, hfree⟩
  · exact .inl hsame
  · rw [hplanned] at htarget
    have hname : wanted.name = reached.name := Option.some.inj htarget
    rw [← hname] at hfree
    exact .inr ⟨hname.symm, hfree⟩

/-- The entry that is updated is not the one that has been removed. -/
theorem Underway.entry_cleared
    (h : Underway server.catalog blocked.catalog source resource reached)
    (hunblocked : Unblocked server blocked cleared source wanted.name wanted.owner)
    (hplanned : resource.planned = .ofRecord wanted) :
    cleared.catalog.schemas[reached.name]? = some reached.owner := by
  have hspared : ¬(reached.name = wanted.name ∧ wanted.name ≠ source ∧
      wanted.name ∈ server.catalog.schemas) := by
    rintro ⟨hsame, hother, hmem⟩
    rcases h.name_cases hplanned with hsource | ⟨-, hfree⟩
    · exact hother (hsame.symm.trans hsource)
    · exact hfree hmem
  rw [hunblocked.schemas, if_neg hspared, h.moved.schemas, if_pos rfl]

/-- Nothing has the wanted name but the entry that is updated. -/
theorem Underway.wanted_name_free
    (h : Underway server.catalog blocked.catalog source resource reached)
    (hunblocked : Unblocked server blocked cleared source wanted.name wanted.owner) :
    wanted.name = reached.name ∨ wanted.name ∉ cleared.catalog.schemas := by
  by_cases hsame : wanted.name = reached.name
  · exact .inl hsame
  right
  rw [Catalog.notMem_schemas_iff, hunblocked.schemas]
  split_ifs with htaken
  · rfl
  · rw [h.moved.schemas, if_neg hsame]
    split_ifs with hsource
    · rfl
    · rw [← Catalog.notMem_schemas_iff]
      intro hmem
      exact htaken ⟨rfl, hsource, hmem⟩

/-- Once nothing stands in the way, the next update is undisturbed. -/
theorem Underway.undisturbed
    (h : Underway server.catalog blocked.catalog source resource reached)
    (hunblocked : Unblocked server blocked cleared source wanted.name wanted.owner)
    (hsource : source ≠ "") (hplanned : resource.planned = .ofRecord wanted)
    (hname : wanted.name ≠ "") (howner : wanted.owner ≠ "") :
    Undisturbed cleared resource reached where
  accepts := hunblocked.accepts
  looks := hunblocked.looks
  id := h.id
  name_ne := by
    rcases h.name_cases hplanned with hsame | ⟨hsame, -⟩
    · rw [hsame]
      exact hsource
    · rw [hsame]
      exact hname
  entry := h.entry_cleared hunblocked hplanned
  target target htarget := by
    rw [hplanned] at htarget
    obtain rfl : wanted.name = target := Option.some.inj htarget
    exact ⟨hname, h.wanted_name_free hunblocked⟩
  role role hrole := by
    rw [hplanned] at hrole
    obtain rfl : wanted.owner = role := Option.some.inj hrole
    exact ⟨howner, hunblocked.role⟩

/-- The next update makes the changes that are left. -/
theorem Underway.resume
    (h : Underway server.catalog blocked.catalog source resource reached)
    (hunblocked : Unblocked server blocked cleared source wanted.name wanted.owner)
    (hsource : source ≠ "") (hplanned : resource.planned = .ofRecord wanted)
    (hname : wanted.name ≠ "") (howner : wanted.owner ≠ "") :
    let run := Operation.update.run catalogServer resource cleared
    run.result = .ok () ∧ run.resource.id = some wanted.name ∧
    run.resource.record = some wanted ∧
    (∀ name, run.state.catalog.schemas[name]? =
      if name = wanted.name then some wanted.owner
      else if name = source then none else server.catalog.schemas[name]?) ∧
    renamesDone run.trace =
      (Change.renaming reached.name wanted.name).map Change.toStatement := by
  have hreached : resource.reached reached = wanted := by
    rw [h.truthful.reached_eq_wanted]
    simp only [Resource.wanted, Resource.wantedValue, hplanned, Values.get, Values.ofRecord,
      Option.getD_some]
  obtain ⟨hresult, hresource, hmoved, -, -, hdone, -⟩ :=
    (h.undisturbed hunblocked hsource hplanned hname howner).run
  rw [hreached] at hresource hmoved
  refine ⟨hresult, congrArg (·.id) hresource, congrArg (·.record) hresource, ?_, ?_⟩
  · intro name
    have hmid := h.name_cases hplanned
    rw [hmoved.schemas, hunblocked.schemas, h.moved.schemas]
    grind
  · rw [renamesDone, hdone, Resource.filter_isRename_changesFrom, hreached]

end

/-- An update that failed anywhere can be resumed: once nothing stands in its way any more, the
next one reaches what is wanted, and the two together rename at most once. -/
theorem update_resumes {server cleared : CatalogServer} {resource : Resource}
    {current wanted : Record} (hid : resource.id = some current.name)
    (hcurrent : current.name ≠ "")
    (hentry : server.catalog.schemas[current.name]? = some current.owner)
    (hname : resource.recorded.name = none ∨ resource.recorded.name = some current.name)
    (howner : resource.recorded.owner = none ∨ resource.recorded.owner = some current.owner)
    (hplanned : resource.planned = .ofRecord wanted) (hwanted : wanted.name ≠ "")
    (hrole : wanted.owner ≠ "")
    (hunblocked : Unblocked server (Operation.update.run catalogServer resource server).state
      cleared current.name wanted.name wanted.owner) :
    let first := Operation.update.run catalogServer resource server
    let second := Operation.update.run catalogServer first.resource cleared
    second.result = .ok () ∧ second.resource.id = some wanted.name ∧
    second.resource.record = some wanted ∧
    (∀ name, second.state.catalog.schemas[name]? =
      if name = wanted.name then some wanted.owner
      else if name = current.name then none else server.catalog.schemas[name]?) ∧
    renamesDone (first.trace ++ second.trace) =
      if current.name = wanted.name then [] else [.rename current.name wanted.name] := by
  have htarget : ∀ target, resource.planned.name = some target → target ≠ "" := by
    rw [hplanned]
    rintro _ ⟨rfl⟩
    exact hwanted
  have hrole' : ∀ role, resource.planned.owner = some role → role ≠ "" := by
    rw [hplanned]
    rintro _ ⟨rfl⟩
    exact hrole
  have htruthful : resource.IsTruthful current :=
    .of_absent_or_recorded hname howner htarget hrole'
  obtain ⟨reached, hunderway, hplanned', hrenames⟩ :=
    update_underway hid hcurrent hentry htruthful htarget hrole'
  generalize Operation.update.run catalogServer resource server = first at *
  have hfirst : first.resource.planned = .ofRecord wanted := hplanned'.trans hplanned
  obtain ⟨hresult, hid', hrecord, hschemas, hrenames'⟩ :=
    hunderway.resume hunblocked hcurrent hfirst hwanted hrole
  refine ⟨hresult, hid', hrecord, hschemas, ?_⟩
  have hmid : reached.name = current.name ∨ reached.name = wanted.name :=
    (hunderway.name_cases hfirst).imp_right And.left
  rw [renamesDone_append, hrenames, hrenames', ← List.map_append, Change.renaming_append hmid]
  split_ifs with hsame
  · rw [hsame, Change.renaming_self, List.map_nil]
  · rw [Change.renaming_of_ne hsame]
    rfl

/-- The role is missing, so the first update stops between the rename and the owner. -/
theorem update_resumes_after_missing_role :
    let server : CatalogServer :=
      { catalog := { CatalogServer.fresh.catalog with
          schemas := .ofList [("a", "alice"), ("b", "bob")] } }
    let resource : Resource := { id := some "a", planned := .ofRecord ⟨"c", "carol"⟩ }
    let first := Operation.update.run catalogServer resource server
    let cleared := { first.state with catalog := { first.state.catalog with
      roles := first.state.catalog.roles.insert "carol" } }
    let second := Operation.update.run catalogServer first.resource cleared
    Unblocked server first.state cleared "a" "c" "carol" ∧ ¬first.result.isOk ∧
      first.resource.id = some "c" ∧ second.resource.record = some ⟨"c", "carol"⟩ ∧
      renamesDone (first.trace ++ second.trace) = [.rename "a" "c"] := by
  intro server resource first cleared second
  have hunblocked : Unblocked server first.state cleared "a" "c" "carol" := by
    refine ⟨by decide, by decide, by decide, fun name => ?_⟩
    have hfree : "c" ∉ server.catalog.schemas := by decide
    rw [if_neg fun htaken => hfree htaken.2.2]
  have hresumed := @update_resumes server cleared resource ⟨"a", "alice"⟩ ⟨"c", "carol"⟩ rfl
    (by decide) (by decide) (.inl rfl) (.inl rfl) rfl (by decide) (by decide) hunblocked
  obtain ⟨-, -, hrecord, -, hrenames⟩ := hresumed
  exact ⟨hunblocked, by decide, by decide, hrecord, hrenames⟩

end Schemata
