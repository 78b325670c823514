import Mathlib.Data.Set.Lattice
import Mathlib.Order.CompletePartialOrder
import Schemata.Proofs.Catalog
import Schemata.Proofs.Footprint

/-!
# Calls reach no further than their names

What a catalog answers to a call depends on the entries of the schemas that the call is about,
and only these can change (`CatalogServer.AgreeOn.answer`, `CatalogServer.agreeOn_answer_off`).
So a run depends on what the catalog holds under the names of its calls and on nothing else, and
leaves everything else as it was.
-/

namespace Schemata

variable {names : Set String}

/-! ## Statements -/

namespace Catalog

/-- The catalogs have the same schemas under the given names, with the same owners and marks, and
know the same roles. -/
structure AgreeOn (names : Set String) (left right : Catalog) : Prop where
  schemas : ∀ name ∈ names, left.schemas[name]? = right.schemas[name]?
  nonEmpty : ∀ name ∈ names, name ∈ left.nonEmpty ↔ name ∈ right.nonEmpty
  roles : left.roles = right.roles

variable {left mid right catalog after : Catalog} {statement : Statement}

theorem AgreeOn.refl (names : Set String) (catalog : Catalog) : catalog.AgreeOn names catalog :=
  ⟨fun _ _ => rfl, fun _ _ => Iff.rfl, rfl⟩

theorem AgreeOn.symm (h : left.AgreeOn names right) : right.AgreeOn names left where
  schemas name hname := (h.schemas name hname).symm
  nonEmpty name hname := (h.nonEmpty name hname).symm
  roles := h.roles.symm

theorem AgreeOn.trans (h : left.AgreeOn names mid) (h' : mid.AgreeOn names right) :
    left.AgreeOn names right where
  schemas name hname := (h.schemas name hname).trans (h'.schemas name hname)
  nonEmpty name hname := (h.nonEmpty name hname).trans (h'.nonEmpty name hname)
  roles := h.roles.trans h'.roles

theorem AgreeOn.mem_iff (h : left.AgreeOn names right) {name : String} (hname : name ∈ names) :
    name ∈ left.schemas ↔ name ∈ right.schemas := by
  rw [Std.TreeMap.mem_iff_isSome_getElem?, h.schemas name hname,
    ← Std.TreeMap.mem_iff_isSome_getElem?]

/-- A statement has the same effect on catalogs that agree on its names, or is refused by both for
the same reason. -/
theorem AgreeOn.execute (h : left.AgreeOn names right)
    (hwithin : Call.Within names (.execute statement)) :
    (∃ left' right', left.execute statement = .ok left' ∧ right.execute statement = .ok right' ∧
      left'.AgreeOn names right') ∨
    ∃ refusal, left.execute statement = .error refusal ∧
      right.execute statement = .error refusal := by
  cases statement with
  | create name owner =>
    have hname : name ∈ names := hwithin name List.mem_cons_self
    simp only [Catalog.execute, h.mem_iff hname, h.roles]
    split_ifs
    · exact .inr ⟨_, rfl, rfl⟩
    · exact .inr ⟨_, rfl, rfl⟩
    · refine .inl ⟨_, _, rfl, rfl, ?_, h.nonEmpty, rfl⟩
      intro other hother
      simp only [Std.TreeMap.getElem?_insert, h.schemas other hother]
  | rename source target =>
    have hsource : source ∈ names := hwithin source List.mem_cons_self
    have htarget : target ∈ names := hwithin target (by simp [Call.schemas])
    simp only [Catalog.execute, h.schemas source hsource, h.mem_iff htarget]
    cases right.schemas[source]? with
    | none => exact .inr ⟨_, rfl, rfl⟩
    | some owner =>
      dsimp only
      split_ifs
      · exact .inr ⟨_, rfl, rfl⟩
      · refine .inl ⟨_, _, rfl, rfl, ?_, ?_, h.roles⟩
        · intro other hother
          simp only [Std.TreeMap.getElem?_insert, Std.TreeMap.getElem?_erase,
            h.schemas other hother]
        · intro other hother
          have hother := h.nonEmpty other hother
          simp only [moveMark, h.nonEmpty source hsource]
          split_ifs
          · simp only [Std.TreeSet.mem_insert, Std.TreeSet.mem_erase, hother]
          · exact hother
  | changeOwner name owner =>
    have hname : name ∈ names := hwithin name List.mem_cons_self
    simp only [Catalog.execute, h.mem_iff hname, h.roles]
    split_ifs
    · refine .inl ⟨_, _, rfl, rfl, ?_, h.nonEmpty, rfl⟩
      intro other hother
      simp only [Std.TreeMap.getElem?_insert, h.schemas other hother]
    · exact .inr ⟨_, rfl, rfl⟩
    · exact .inr ⟨_, rfl, rfl⟩
  | drop name behavior =>
    have hname : name ∈ names := hwithin name List.mem_cons_self
    simp only [Catalog.execute, h.mem_iff hname, h.nonEmpty name hname]
    split_ifs
    · exact .inr ⟨_, rfl, rfl⟩
    · refine .inl ⟨_, _, rfl, rfl, ?_, ?_, h.roles⟩
      · intro other hother
        simp only [Std.TreeMap.getElem?_erase, h.schemas other hother]
      · intro other hother
        simp only [Std.TreeSet.mem_erase, h.nonEmpty other hother]
    · exact .inr ⟨_, rfl, rfl⟩

/-- A statement about other names leaves the catalog as it was. -/
theorem agreeOn_execute_off (hoff : Call.Within namesᶜ (.execute statement))
    (hexecute : catalog.execute statement = .ok after) : catalog.AgreeOn names after := by
  cases statement with
  | create name owner =>
    have hname : name ∉ names := hoff name List.mem_cons_self
    obtain ⟨-, -, rfl⟩ := execute_create_eq_ok_iff.mp hexecute
    refine ⟨fun other hother => ?_, fun _ _ => Iff.rfl, rfl⟩
    have hne : name ≠ other := fun heq => hname (heq ▸ hother)
    simp [Std.TreeMap.getElem?_insert, hne]
  | rename source target =>
    have hsource : source ∉ names := hoff source List.mem_cons_self
    have htarget : target ∉ names := hoff target (by simp [Call.schemas])
    obtain ⟨owner, -, -, rfl⟩ := execute_rename_eq_ok_iff.mp hexecute
    refine ⟨fun other hother => ?_, fun other hother => ?_, rfl⟩
    all_goals
      have hne : source ≠ other := fun heq => hsource (heq ▸ hother)
      have hne' : target ≠ other := fun heq => htarget (heq ▸ hother)
    · simp [Std.TreeMap.getElem?_insert, Std.TreeMap.getElem?_erase, hne, hne']
    · simp only [moveMark]
      split_ifs
      · simp [hne, hne']
      · rfl
  | changeOwner name owner =>
    have hname : name ∉ names := hoff name List.mem_cons_self
    obtain ⟨-, -, rfl⟩ := execute_changeOwner_eq_ok_iff.mp hexecute
    refine ⟨fun other hother => ?_, fun _ _ => Iff.rfl, rfl⟩
    have hne : name ≠ other := fun heq => hname (heq ▸ hother)
    simp [Std.TreeMap.getElem?_insert, hne]
  | drop name behavior =>
    have hname : name ∉ names := hoff name List.mem_cons_self
    obtain ⟨-, -, rfl⟩ := execute_drop_eq_ok_iff.mp hexecute
    refine ⟨fun other hother => ?_, fun other hother => ?_, rfl⟩
    all_goals have hne : name ≠ other := fun heq => hname (heq ▸ hother)
    · simp [Std.TreeMap.getElem?_erase, hne]
    · simp [hne]

end Catalog

/-! ## Calls -/

namespace CatalogServer

/-- The servers have catalogs that agree on the given names, and refuse the same calls. -/
structure AgreeOn (names : Set String) (left right : CatalogServer) : Prop where
  catalog : left.catalog.AgreeOn names right.catalog
  refusesSessions : left.refusesSessions = right.refusesSessions
  failsLookups : left.failsLookups = right.failsLookups

variable {left mid right server : CatalogServer} {call : Call}

theorem AgreeOn.refl (names : Set String) (server : CatalogServer) : server.AgreeOn names server :=
  ⟨.refl names server.catalog, rfl, rfl⟩

theorem AgreeOn.symm (h : left.AgreeOn names right) : right.AgreeOn names left :=
  ⟨h.catalog.symm, h.refusesSessions.symm, h.failsLookups.symm⟩

theorem AgreeOn.trans (h : left.AgreeOn names mid) (h' : mid.AgreeOn names right) :
    left.AgreeOn names right :=
  ⟨h.catalog.trans h'.catalog, h.refusesSessions.trans h'.refusesSessions,
    h.failsLookups.trans h'.failsLookups⟩

/-- Names that lie in one of some sets, or in none of them, are all names. -/
theorem AgreeOn.univ {ι : Type*} {names : ι → Set String}
    (h : ∀ index, left.AgreeOn (names index) right)
    (helsewhere : left.AgreeOn {name | ∀ index, name ∉ names index} right) :
    left.AgreeOn Set.univ right where
  catalog :=
    { schemas name _ := by
        by_cases hname : ∃ index, name ∈ names index
        · obtain ⟨index, hmem⟩ := hname
          exact (h index).catalog.schemas name hmem
        · exact helsewhere.catalog.schemas name (not_exists.mp hname)
      nonEmpty name _ := by
        by_cases hname : ∃ index, name ∈ names index
        · obtain ⟨index, hmem⟩ := hname
          exact (h index).catalog.nonEmpty name hmem
        · exact helsewhere.catalog.nonEmpty name (not_exists.mp hname)
      roles := helsewhere.catalog.roles }
  refusesSessions := helsewhere.refusesSessions
  failsLookups := helsewhere.failsLookups

/-- Servers that agree on the names of a call answer it alike, and agree afterwards. -/
theorem AgreeOn.answer (h : left.AgreeOn names right) (hwithin : call.Within names) :
    (left.answer call).reply = (right.answer call).reply ∧
      (left.answer call).state.AgreeOn names (right.answer call).state := by
  cases call with
  | connect =>
    simp only [CatalogServer.answer, h.refusesSessions]
    split_ifs
    · exact ⟨rfl, h⟩
    · exact ⟨rfl, h.catalog, rfl, h.failsLookups⟩
  | execute statement =>
    rcases h.catalog.execute hwithin with
      ⟨left', right', hleft, hright, hagree⟩ | ⟨refusal, hleft, hright⟩
    · simp only [CatalogServer.answer, hleft, hright]
      exact ⟨trivial, hagree, h.refusesSessions, h.failsLookups⟩
    · simp only [CatalogServer.answer, hleft, hright]
      exact ⟨trivial, h⟩
  | lookup name =>
    have hname : name ∈ names := hwithin name List.mem_cons_self
    simp only [CatalogServer.answer, Catalog.lookup, h.failsLookups, h.catalog.schemas name hname]
    split_ifs
    · exact ⟨rfl, h⟩
    · exact ⟨rfl, h⟩
  | close => exact ⟨rfl, h.catalog, h.refusesSessions, h.failsLookups⟩

/-- A call about other names changes nothing. -/
theorem agreeOn_answer_off (hoff : call.Within namesᶜ) :
    server.AgreeOn names (server.answer call).state := by
  cases call with
  | connect =>
    simp only [CatalogServer.answer]
    split_ifs
    · exact .refl names server
    · exact ⟨.refl names server.catalog, rfl, rfl⟩
  | execute statement =>
    rcases server.answer_execute_cases statement with
      ⟨after, hexecute, hanswer⟩ | ⟨fault, hanswer⟩
    · rw [hanswer]
      exact ⟨Catalog.agreeOn_execute_off hoff hexecute, rfl, rfl⟩
    · rw [hanswer]
      exact .refl names server
  | lookup name =>
    simp only [CatalogServer.answer]
    split_ifs
    · exact .refl names server
    · exact .refl names server
  | close => exact ⟨.refl names server.catalog, rfl, rfl⟩

end CatalogServer

/-! ## Runs -/

namespace Procedure

variable {procedure : Procedure}

/-- A procedure leaves alone what no call of it is about. -/
theorem Calls.agreeOn_run_off (hcalls : procedure.Calls (Call.Within namesᶜ))
    (resource : Resource) (server : CatalogServer) :
    server.AgreeOn names (procedure.run catalogServer resource server).state := by
  induction procedure generalizing resource server with
  | done result => exact .refl names server
  | store stored next ih => exact ih hcalls stored server
  | log event next ih => exact ih hcalls resource server
  | call request next ih =>
    obtain ⟨hoff, hnext⟩ := hcalls
    exact (CatalogServer.agreeOn_answer_off hoff).trans (ih _ (hnext _) resource _)

end Procedure

namespace Operation

variable {operation : Operation} {resource : Resource}

/-- An operation depends on what the catalog holds under the names of its footprint. -/
theorem run_agreeOn {left right : CatalogServer}
    (h : left.AgreeOn {name | name ∈ operation.footprint resource} right) :
    let run := operation.run catalogServer resource left
    let run' := operation.run catalogServer resource right
    run.Alike run' ∧
      run.state.AgreeOn {name | name ∈ operation.footprint resource} run'.state :=
  (operation.calls_within_footprint resource).run_alike
    (fun _ _ _ hagree hwithin => hagree.answer hwithin) resource h

/-- An operation leaves alone what is not in its footprint. -/
theorem agreeOn_run_off (hoff : Disjoint {name | name ∈ operation.footprint resource} names)
    (server : CatalogServer) :
    server.AgreeOn names (operation.run catalogServer resource server).state := by
  have hcalls : (operation.procedure resource).Calls (Call.Within namesᶜ) := by
    refine (operation.calls_within_footprint resource).mono fun call hwithin name hname => ?_
    exact Set.disjoint_left.mp hoff (hwithin name hname)
  exact hcalls.agreeOn_run_off resource server

end Operation

end Schemata
