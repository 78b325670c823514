import Schemata.Catalog
import Std.Data.TreeMap.Lemmas
import Std.Data.TreeSet.Lemmas

/-!
# What the catalog accepts

For each statement, exactly when the catalog carries it out and which catalog it
leaves.  What follows about runs against a catalog rests on these four lemmas and
never opens `Catalog.execute` again.
-/

namespace Schemata.Catalog

variable {catalog after : Catalog} {name owner source target : String}

theorem mem_schemas_iff :
    name ∈ catalog.schemas ↔ ∃ owner, catalog.schemas[name]? = some owner := by
  rw [Std.TreeMap.mem_iff_isSome_getElem?, Option.isSome_iff_exists]

theorem notMem_schemas_iff : name ∉ catalog.schemas ↔ catalog.schemas[name]? = none := by
  rw [mem_schemas_iff]
  cases catalog.schemas[name]? <;> simp

theorem execute_create_eq_ok_iff {owner : Option String} :
    catalog.execute (.create name owner) = .ok after ↔
      name ∉ catalog.schemas ∧ (∀ role, owner = some role → role ∈ catalog.roles) ∧
        after = { catalog with
          schemas := catalog.schemas.insert name (owner.getD connectingRole) } := by
  simp only [execute]
  by_cases hname : name ∈ catalog.schemas
  · simp [hname]
  · cases owner with
    | none => simp [hname, eq_comm]
    | some role =>
      by_cases hrole : role ∈ catalog.roles <;> simp [hname, hrole, eq_comm]

theorem execute_rename_eq_ok_iff :
    catalog.execute (.rename source target) = .ok after ↔
      ∃ owner, catalog.schemas[source]? = some owner ∧ target ∉ catalog.schemas ∧
        after = { catalog with
          schemas := (catalog.schemas.erase source).insert target owner
          nonEmpty := moveMark catalog.nonEmpty source target } := by
  simp only [execute]
  cases hsource : catalog.schemas[source]? with
  | none => simp
  | some owner =>
    by_cases htarget : target ∈ catalog.schemas <;> simp [htarget, eq_comm]

theorem execute_changeOwner_eq_ok_iff :
    catalog.execute (.changeOwner name owner) = .ok after ↔
      name ∈ catalog.schemas ∧ owner ∈ catalog.roles ∧
        after = { catalog with schemas := catalog.schemas.insert name owner } := by
  simp only [execute]
  by_cases hname : name ∈ catalog.schemas
  · by_cases howner : owner ∈ catalog.roles <;> simp [hname, howner, eq_comm]
  · simp [hname]

theorem execute_drop_eq_ok_iff {behavior : DropBehavior} :
    catalog.execute (.drop name behavior) = .ok after ↔
      name ∈ catalog.schemas ∧ ¬(behavior = .restrict ∧ name ∈ catalog.nonEmpty) ∧
        after = { catalog with
          schemas := catalog.schemas.erase name
          nonEmpty := catalog.nonEmpty.erase name } := by
  simp only [execute]
  by_cases hname : name ∈ catalog.schemas
  · by_cases hobjects : behavior = .restrict ∧ name ∈ catalog.nonEmpty <;>
      simp [hname, hobjects, eq_comm]
  · simp [hname]

end Schemata.Catalog

namespace Schemata.CatalogServer

variable {server : CatalogServer} {name : String}

/-- A statement either takes effect, or is refused and changes nothing. -/
theorem answer_execute_cases (server : CatalogServer) (statement : Statement) :
    (∃ after, server.catalog.execute statement = .ok after ∧
      server.answer (.execute statement) =
        { reply := .ok (), state := { server with catalog := after } }) ∨
    ∃ fault, server.answer (.execute statement) =
      { reply := .error fault, state := server } := by
  simp only [answer]
  cases server.catalog.execute statement with
  | ok after => exact .inl ⟨after, rfl, rfl⟩
  | error refusal => exact .inr ⟨_, rfl⟩

/-- A lookup of a schema that is there finds it, unless it fails. -/
theorem answer_lookup_cases (hname : name ∈ server.catalog.schemas) :
    (∃ owner, server.answer (.lookup name) =
      { reply := .ok (some { name, owner }), state := server }) ∨
    ∃ fault, server.answer (.lookup name) = { reply := .error fault, state := server } := by
  obtain ⟨owner, howner⟩ := Catalog.mem_schemas_iff.mp hname
  simp only [answer, Catalog.lookup, howner, Option.map_some]
  split
  · exact .inr ⟨_, rfl⟩
  · exact .inl ⟨owner, rfl⟩

@[simp]
theorem answer_connect_catalog :
    (server.answer .connect).state.catalog = server.catalog := by
  simp only [answer]
  split <;> rfl

end Schemata.CatalogServer
