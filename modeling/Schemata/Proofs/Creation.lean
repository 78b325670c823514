import Schemata.Proofs.Convergence

/-!
# Creating a schema in the catalog

A creation either adds exactly one entry to the catalog or leaves it alone.  It can go wrong
before any contact, at the session, at the statement and at the read-back; only the last of
these comes after the entry was added.  `Creatable` names what has to hold for the first three
to go well, and everything about the outcome is told from it and from whether lookups fail
(`create_is_exact`).
-/

namespace Schemata

/-! ## The added entry -/

namespace Catalog

/-- The second catalog is the first with an entry for a name that had none. -/
structure Added (before after : Catalog) (name owner : String) : Prop where
  absent : name ∉ before.schemas
  schemas : ∀ other, after.schemas[other]? =
    if other = name then some owner else before.schemas[other]?
  roles : after.roles = before.roles
  nonEmpty : after.nonEmpty = before.nonEmpty

variable {before after : Catalog} {name owner : String}

theorem Added.getElem?_name (h : before.Added after name owner) :
    after.schemas[name]? = some owner := by
  rw [h.schemas, if_pos rfl]

theorem Added.getElem?_ne (h : before.Added after name owner) :
    after.schemas[name]? ≠ before.schemas[name]? := by
  rw [h.getElem?_name, notMem_schemas_iff.mp h.absent]
  exact Option.some_ne_none owner

/-- Whom a schema belongs to that is created for the given owner. -/
def grantee (owner : Option String) : String :=
  (owner.filter (· ≠ "")).getD connectingRole

/-- An empty owner is not looked for among the roles. -/
theorem execute_creating_eq_ok_iff {owner : Option String} :
    before.execute (.creating name owner) = .ok after ↔
      name ∉ before.schemas ∧ (∀ role, owner = some role → role = "" ∨ role ∈ before.roles) ∧
        after = { before with schemas := before.schemas.insert name (grantee owner) } := by
  rw [Statement.creating, execute_create_eq_ok_iff]
  refine and_congr_right fun _ => and_congr_left fun _ => ?_
  simp only [Option.filter_eq_some_iff, decide_eq_true_eq, and_imp]
  constructor
  · intro hroles role howner
    by_cases hempty : role = ""
    · exact .inl hempty
    · exact .inr (hroles role howner hempty)
  · intro hroles role howner hne
    exact (hroles role howner).resolve_left hne

theorem Added.of_creating {owner : Option String}
    (hexecute : before.execute (.creating name owner) = .ok after) :
    before.Added after name (grantee owner) := by
  obtain ⟨hfree, -, rfl⟩ := execute_creating_eq_ok_iff.mp hexecute
  refine ⟨hfree, fun other => ?_, rfl, rfl⟩
  simp only [Std.TreeMap.getElem?_insert, Std.compare_eq_iff_eq, @eq_comm _ name]

end Catalog

/-! ## One creation against a catalog -/

/-- The server can create the schema that the resource describes, and it has the given name. -/
structure Creatable (server : CatalogServer) (resource : Resource) (name : String) : Prop where
  accepts : server.refusesSessions = false
  wanted : resource.get .name = some name
  name_ne : name ≠ ""
  free : name ∉ server.catalog.schemas
  role : ∀ role, resource.get .owner = some role → role = "" ∨ role ∈ server.catalog.roles

/-- The owner of the schema once it is created. -/
def Resource.newOwner (resource : Resource) : String :=
  Catalog.grantee (resource.get .owner)

section

variable {server : CatalogServer} {resource : Resource} {name : String}

theorem run_readBack_of_failing (server : CatalogServer) (hid : resource.id = some name)
    (hfails : server.failsLookups = true) :
    ∃ fault, (Procedure.readBack resource).run catalogServer resource server =
      { state := { server with closed := server.closed + 1 }
        resource
        result := .error (.execution .read name fault)
        events := []
        trace := [⟨.lookup name, .error fault⟩, ⟨.close, ()⟩] } := by
  refine ⟨{ message := "permission denied for table pg_namespace" }, ?_⟩
  simp [Procedure.readBack, hid, Procedure.run, catalogServer, CatalogServer.answer, hfails,
    Procedure.finish]

theorem run_create_of_get_eq (hname : resource.get .name = some name) (hne : name ≠ "") :
    Operation.create.run catalogServer resource server =
      (Procedure.withSession <| .execute (.creating name (resource.get .owner)) <|
        .log (.schemaCreated name) <| .store (resource.setId (some name)) <|
          .readBack (resource.setId (some name))).run catalogServer resource server := by
  simp only [Operation.run, Operation.procedure, Procedure.create, hname, Option.getD_some,
    if_neg hne]

/-- A statement that is refused ends the run, and nothing has changed. -/
theorem run_execute_of_refused {statement : Statement} {next : Procedure}
    (hrefused : ∀ after, server.catalog.execute statement ≠ .ok after) :
    let run := (Procedure.execute statement next).run catalogServer resource server
    run.state.catalog = server.catalog ∧ run.resource = resource ∧ run.result ≠ .ok () := by
  rcases server.answer_execute_cases statement with ⟨after, hexecute, -⟩ | ⟨fault, hanswer⟩
  · exact absurd hexecute (hrefused after)
  · have hreply : (catalogServer.answer server (.execute statement)).reply = .error fault :=
      congrArg (·.reply) hanswer
    have hstate : (catalogServer.answer server (.execute statement)).state = server :=
      congrArg (·.state) hanswer
    rw [run_execute_of_error hreply, hstate]
    exact ⟨rfl, rfl, nofun⟩

theorem run_create_of_creatable (h : Creatable server resource name) :
    ∃ after events, server.catalog.Added after name resource.newOwner ∧
      Operation.create.run catalogServer resource server =
        ((Procedure.readBack (resource.setId (some name))).run catalogServer
          (resource.setId (some name))
          { server with opened := server.opened + 1, catalog := after }).prepend events
          [⟨.connect, .ok ()⟩, ⟨.execute (.creating name (resource.get .owner)), .ok ()⟩] := by
  have hexecute := Catalog.execute_creating_eq_ok_iff.mpr ⟨h.free, h.role, rfl⟩
  refine ⟨_, [.schemaCreated name], .of_creating hexecute, ?_⟩
  rw [run_create_of_get_eq h.wanted h.name_ne, run_withSession_of_accepts _ _ h.accepts,
    run_execute_of_ok]
  · simp [catalogServer, CatalogServer.answer, hexecute, Procedure.run, Run.prepend]
  · simp [catalogServer, CatalogServer.answer, hexecute]

/-- What is in the way of a creation is found out before anything has changed. -/
theorem create_of_not_creatable (h : ∀ name, ¬Creatable server resource name) :
    let run := Operation.create.run catalogServer resource server
    run.state.catalog = server.catalog ∧ run.resource = resource ∧ run.result ≠ .ok () := by
  cases hname : resource.get .name with
  | none => simp [Operation.run, Operation.procedure, Procedure.create, hname, Procedure.run]
  | some name =>
    by_cases hempty : name = ""
    · simp [Operation.run, Operation.procedure, Procedure.create, hname, hempty, Procedure.run]
    rw [run_create_of_get_eq hname hempty]
    cases haccepts : server.refusesSessions with
    | true =>
      simp [Procedure.withSession, Procedure.run, catalogServer, CatalogServer.answer, haccepts]
    | false =>
      rw [run_withSession_of_accepts _ _ haccepts]
      apply run_execute_of_refused
      intro after hexecute
      obtain ⟨hfree, hrole, -⟩ := Catalog.execute_creating_eq_ok_iff.mp hexecute
      exact h name ⟨haccepts, hname, hempty, hfree, hrole⟩

/-- A creation that the server can carry out adds the entry, and the lookup after it decides
what the resource is left with. -/
theorem Creatable.run (h : Creatable server resource name) :
    let run := Operation.create.run catalogServer resource server
    server.catalog.Added run.state.catalog name resource.newOwner ∧
    (run.result = .ok () ↔ server.failsLookups = false) ∧
    run.resource.id = some name ∧ run.resource.planned = resource.planned ∧
    (server.failsLookups = false →
      run.resource.record = some { name, owner := resource.newOwner }) ∧
    (server.failsLookups = true → run.resource.recorded = resource.recorded) := by
  obtain ⟨after, events, hadded, hrun⟩ := run_create_of_creatable h
  let created : CatalogServer := { server with opened := server.opened + 1, catalog := after }
  let record : Record := { name, owner := resource.newOwner }
  have hid : (resource.setId (some name)).id = some record.name := rfl
  simp only [hrun]
  cases hlooks : server.failsLookups with
  | false =>
    have hentry : created.catalog.schemas[record.name]? = some record.owner :=
      hadded.getElem?_name
    have hread := run_readBack_of_found created hid hlooks hentry
    simp only [created, hlooks] at hread
    rw [hread]
    exact ⟨hadded, iff_of_true rfl rfl, rfl, rfl, fun _ => rfl, nofun⟩
  | true =>
    obtain ⟨fault, hread⟩ := run_readBack_of_failing created hid hlooks
    simp only [created, hlooks] at hread
    rw [hread]
    exact ⟨hadded, iff_of_false nofun nofun, rfl, rfl, nofun, fun _ => rfl⟩

theorem Creatable.name_eq {other : String} (h : Creatable server resource name)
    (hother : Creatable server resource other) : other = name :=
  Option.some.inj (hother.wanted.symm.trans h.wanted)

end

/-- A creation changes the schemas exactly if sessions are accepted, the wanted name is neither
empty nor taken, and the wanted owner is a role, or else absent or empty.  It then adds the one
entry and no more.  It succeeds exactly if lookups do not fail either, with the added entry as
identity and record; when the lookup alone fails, the identity is the new name and all else is as
it was, and in every other case nothing has changed at all. -/
theorem create_is_exact (server : CatalogServer) (resource : Resource) :
    let run := Operation.create.run catalogServer resource server
    ((∃ name : String, run.state.catalog.schemas[name]? ≠ server.catalog.schemas[name]?) ↔
      ∃ name, Creatable server resource name) ∧
    (run.result = .ok () ↔
      (∃ name, Creatable server resource name) ∧ server.failsLookups = false) ∧
    (∀ name, Creatable server resource name →
      server.catalog.Added run.state.catalog name resource.newOwner ∧
      run.resource.id = some name ∧ run.resource.planned = resource.planned ∧
      (server.failsLookups = false →
        run.resource.record = some { name, owner := resource.newOwner }) ∧
      (server.failsLookups = true → run.resource.recorded = resource.recorded)) ∧
    ((¬∃ name, Creatable server resource name) →
      run.resource = resource ∧ run.state.catalog = server.catalog) := by
  intro run
  by_cases hcreatable : ∃ name, Creatable server resource name
  · obtain ⟨name, h⟩ := hcreatable
    obtain ⟨hadded, hresult, hresource⟩ := h.run
    refine ⟨?_, ?_, ?_, absurd ⟨name, h⟩⟩
    · exact iff_of_true ⟨name, hadded.getElem?_ne⟩ ⟨name, h⟩
    · exact hresult.trans (and_iff_right ⟨name, h⟩).symm
    · intro other hother
      obtain rfl := h.name_eq hother
      exact ⟨hadded, hresource⟩
  · obtain ⟨hcatalog, hresource, hresult⟩ := create_of_not_creatable (not_exists.mp hcreatable)
    refine ⟨?_, ?_, ?_, fun _ => ⟨hresource, hcatalog⟩⟩
    · apply iff_of_false
      · rintro ⟨name, hchanged⟩
        exact hchanged (by rw [hcatalog])
      · exact hcreatable
    · exact iff_of_false hresult fun h => hcreatable h.1
    · intro name h
      exact absurd ⟨name, h⟩ hcreatable

/-- The entry is added for the connecting role, and the lookup after it fails. -/
theorem create_is_exact_when_lookup_fails :
    let server : CatalogServer := { CatalogServer.fresh with failsLookups := true }
    let resource : Resource :=
      { recorded := .ofRecord ⟨"a", "alice"⟩, planned := { name := some "b", owner := some "" } }
    let run := Operation.create.run catalogServer resource server
    Creatable server resource "b" ∧ server.catalog.Added run.state.catalog "b" "postgres" ∧
      run.result ≠ .ok () ∧ run.resource.id = some "b" ∧
      run.resource.recorded = .ofRecord ⟨"a", "alice"⟩ := by
  intro server resource run
  have h : Creatable server resource "b" := by
    refine ⟨rfl, rfl, by decide, by decide, fun role hrole => ?_⟩
    cases hrole
    exact .inl rfl
  obtain ⟨-, hok, hcreated, -⟩ := create_is_exact server resource
  obtain ⟨hadded, hid, -, -, hrecorded⟩ := hcreated "b" h
  refine ⟨h, hadded, ?_, hid, hrecorded rfl⟩
  intro hresult
  obtain ⟨-, hlooks⟩ := hok.mp hresult
  cases hlooks

end Schemata
