import Mathlib.Tactic.SplitIfs
import Schemata.Proofs.Catalog
import Schemata.Proofs.Changes
import Schemata.Proofs.Diff

/-!
# Moving an entry of the catalog

All that an update can do to a catalog is to move one entry to another name and to give
it another owner.  `Catalog.Moved` says exactly that, with everything else as it was;
each statement of an update makes such a move, and moves compose as long as one of
them keeps the name.
-/

namespace Schemata

namespace Catalog

/-- The second catalog is the first with the entry of `source` moved to the name `target`
and given to `owner`.  Marks go with the name. -/
structure Moved (before after : Catalog) (source target owner : String) : Prop where
  schemas : ∀ name, after.schemas[name]? =
    if name = target then some owner else if name = source then none else before.schemas[name]?
  roles : after.roles = before.roles
  nonEmpty : ∀ name, name ∈ after.nonEmpty ↔
    if name = target then source ∈ before.nonEmpty ∨ target ∈ before.nonEmpty
    else name ≠ source ∧ name ∈ before.nonEmpty

variable {before mid after : Catalog} {source target owner current role : String}

theorem Moved.mem_target (h : before.Moved after source target owner) :
    target ∈ after.schemas :=
  mem_schemas_iff.mpr ⟨owner, by rw [h.schemas, if_pos rfl]⟩

/-- A name that is free stays free, unless it is the one moved to. -/
theorem Moved.notMem (h : before.Moved after source target owner) {name : String}
    (hname : name ∉ before.schemas) (hne : name ≠ target) : name ∉ after.schemas := by
  rw [notMem_schemas_iff] at hname ⊢
  rw [h.schemas, if_neg hne, hname, ite_self]

theorem Moved.refl (hsource : before.schemas[source]? = some owner) :
    before.Moved before source source owner where
  schemas name := by
    split_ifs with hname
    · rw [hname, hsource]
    · rfl
  roles := rfl
  nonEmpty name := by
    split_ifs with hname
    · rw [hname, or_self]
    · exact ⟨fun h => ⟨hname, h⟩, And.right⟩

theorem Moved.trans (hfirst : before.Moved mid source current owner)
    (hsecond : mid.Moved after current target role)
    (hkeeps : source = current ∨ current = target) :
    before.Moved after source target role where
  schemas name := by
    rw [hsecond.schemas, hfirst.schemas]
    grind
  roles := hsecond.roles.trans hfirst.roles
  nonEmpty name := by
    rw [hsecond.nonEmpty, hfirst.nonEmpty, hfirst.nonEmpty, hfirst.nonEmpty]
    grind

theorem Moved.of_rename (hsource : before.schemas[source]? = some owner)
    (hexecute : before.execute (.rename source target) = .ok after) :
    before.Moved after source target owner := by
  obtain ⟨owner', howner, hfree, rfl⟩ := execute_rename_eq_ok_iff.mp hexecute
  obtain rfl : owner' = owner := Option.some.inj (howner.symm.trans hsource)
  have hne : target ≠ source := by
    rintro rfl
    exact hfree (mem_schemas_iff.mpr ⟨_, hsource⟩)
  constructor
  · intro name
    simp only [Std.TreeMap.getElem?_insert, Std.TreeMap.getElem?_erase,
      Std.compare_eq_iff_eq]
    grind
  · rfl
  · intro name
    simp only [moveMark]
    by_cases hmark : source ∈ before.nonEmpty
    · rw [if_pos hmark]
      simp only [Std.TreeSet.mem_insert, Std.TreeSet.mem_erase, Std.compare_eq_iff_eq]
      grind
    · rw [if_neg hmark]
      grind

theorem Moved.of_changeOwner
    (hexecute : before.execute (.changeOwner source role) = .ok after) :
    before.Moved after source source role := by
  obtain ⟨hsource, -, rfl⟩ := execute_changeOwner_eq_ok_iff.mp hexecute
  constructor
  · intro name
    simp only [Std.TreeMap.getElem?_insert, Std.compare_eq_iff_eq]
    grind
  · rfl
  · intro name
    grind

end Catalog

end Schemata
