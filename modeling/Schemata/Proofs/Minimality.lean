import Mathlib.Data.Finset.Card
import Mathlib.Logic.Equiv.Finset
import Schemata.Proofs.Convergence
import Schemata.Proofs.Identity

/-!
# The difference is minimal

A change of owner leaves the names of a catalog alone, and a rename leaves it alone how many
schemas each role owns.  So whatever list of changes moves an entry to another name has a rename,
and whatever list gives it to another role has a change of owner.  The difference of a resource
that records its entry as it is has each of them at most once, and only where it is needed
(`diff_reaches_wanted_in_fewest_changes`).
-/

namespace Schemata

def Change.isRename : Change → Bool
  | .rename .. => true
  | .changeOwner .. => false

namespace Catalog

variable {catalog after : Catalog} {name source target owner role : String}
  {changes : List Change}

/-! ## Runs of statements -/

/-- Carries statements out one after the other, up to one that is refused. -/
def executeAll (catalog : Catalog) (statements : List Statement) : Except Refusal Catalog :=
  statements.foldlM execute catalog

/-- The catalog after a statement that may be refused, and then changes nothing. -/
def attempt (catalog : Catalog) (statement : Statement) : Catalog :=
  match catalog.execute statement with
  | .ok after => after
  | .error _ => catalog

def attemptAll (catalog : Catalog) (statements : List Statement) : Catalog :=
  statements.foldl attempt catalog

theorem executeAll_cons_of_ok {statement : Statement} (rest : List Statement)
    (h : catalog.execute statement = .ok after) :
    catalog.executeAll (statement :: rest) = after.executeAll rest := by
  rw [executeAll, List.foldlM_cons, h]
  rfl

/-- A statement is either carried out or changes nothing. -/
theorem attempt_cases (catalog : Catalog) (statement : Statement) :
    catalog.execute statement = .ok (catalog.attempt statement) ∨
      catalog.attempt statement = catalog := by
  rw [attempt]
  cases catalog.execute statement with
  | ok after => exact .inl rfl
  | error refusal => exact .inr rfl

/-- A run that is carried out comes to the same as its attempts. -/
theorem attemptAll_of_executeAll_eq_ok {statements : List Statement}
    (h : catalog.executeAll statements = .ok after) :
    catalog.attemptAll statements = after := by
  induction statements generalizing catalog with
  | nil => exact Except.ok.inj h
  | cons statement rest ih =>
    cases hexecute : catalog.execute statement with
    | error refusal =>
      rw [executeAll, List.foldlM_cons, hexecute] at h
      cases h
    | ok next =>
      rw [executeAll_cons_of_ok rest hexecute] at h
      have hattempt : catalog.attempt statement = next := by rw [attempt, hexecute]
      rw [attemptAll, List.foldl_cons, hattempt]
      exact ih h

/-! ## What changes of owner keep -/

theorem mem_attempt_changeOwner :
    name ∈ (catalog.attempt (.changeOwner source role)).schemas ↔ name ∈ catalog.schemas := by
  rcases catalog.attempt_cases (.changeOwner source role) with hexecute | hsame
  · obtain ⟨hsource, -, hafter⟩ := execute_changeOwner_eq_ok_iff.mp hexecute
    rw [hafter, Std.TreeMap.mem_insert, Std.compare_eq_iff_eq]
    constructor
    · rintro (rfl | hname)
      · exact hsource
      · exact hname
    · exact .inr
  · rw [hsame]

/-- Without a rename the names stay. -/
theorem mem_attemptAll_of_no_rename (h : ∀ change ∈ changes, change.isRename = false) :
    name ∈ (catalog.attemptAll (changes.map Change.toStatement)).schemas ↔
      name ∈ catalog.schemas := by
  induction changes generalizing catalog with
  | nil => rfl
  | cons change rest ih =>
    obtain ⟨hchange, hrest⟩ := List.forall_mem_cons.mp h
    cases change with
    | rename source target => cases hchange
    | changeOwner schema role => exact (ih hrest).trans mem_attempt_changeOwner

/-! ## What renames keep -/

/-- The schemas that the role owns. -/
def ownedBy (catalog : Catalog) (role : String) : Finset String :=
  catalog.schemas.keys.toFinset.filter fun name => catalog.schemas[name]? = some role

@[simp]
theorem mem_ownedBy : name ∈ catalog.ownedBy role ↔ catalog.schemas[name]? = some role := by
  rw [ownedBy, Finset.mem_filter, List.mem_toFinset, Std.TreeMap.mem_keys, mem_schemas_iff]
  exact and_iff_right_of_imp fun h => ⟨role, h⟩

/-- A rename swaps two names, one of which is free. -/
theorem getElem?_of_rename (h : catalog.execute (.rename source target) = .ok after)
    (name : String) :
    after.schemas[name]? = catalog.schemas[Equiv.swap source target name]? := by
  obtain ⟨owner, hsource, htarget, -⟩ := execute_rename_eq_ok_iff.mp h
  rw [(Moved.of_rename hsource h).schemas]
  split_ifs with hnew hold
  · rw [hnew, Equiv.swap_apply_right, hsource]
  · rw [hold, Equiv.swap_apply_left, notMem_schemas_iff.mp htarget]
  · rw [Equiv.swap_apply_of_ne_of_ne hold hnew]

theorem card_ownedBy_attempt_rename :
    ((catalog.attempt (.rename source target)).ownedBy role).card =
      (catalog.ownedBy role).card := by
  rcases catalog.attempt_cases (.rename source target) with hexecute | hsame
  · have hswapped : (catalog.attempt (.rename source target)).ownedBy role =
        (catalog.ownedBy role).map (Equiv.swap source target).toEmbedding := by
      ext name
      rw [mem_ownedBy, Finset.mem_map_equiv, mem_ownedBy, Equiv.symm_swap,
        getElem?_of_rename hexecute]
    rw [hswapped, Finset.card_map]
  · rw [hsame]

/-- Without a change of owner each role owns as many schemas as before. -/
theorem card_ownedBy_attemptAll_of_renames (h : ∀ change ∈ changes, change.isRename = true) :
    ((catalog.attemptAll (changes.map Change.toStatement)).ownedBy role).card =
      (catalog.ownedBy role).card := by
  induction changes generalizing catalog with
  | nil => rfl
  | cons change rest ih =>
    obtain ⟨hchange, hrest⟩ := List.forall_mem_cons.mp h
    cases change with
    | rename source target => exact (ih hrest).trans card_ownedBy_attempt_rename
    | changeOwner schema role => cases hchange

/-! ## What a target needs -/

/-- The two catalogs have the same entries. -/
def SameEntries (left right : Catalog) : Prop :=
  ∀ name : String, left.schemas[name]? = right.schemas[name]?

section

variable (hsource : catalog.schemas[source]? = some owner)
  (hmoved : catalog.Moved after source target role)
  (hreached : (catalog.attemptAll (changes.map Change.toStatement)).SameEntries after)
include hsource hmoved hreached

/-- To move an entry to another name takes a rename. -/
theorem exists_rename (hne : source ≠ target) : ∃ change ∈ changes, change.isRename = true := by
  by_contra hnone
  have howners : ∀ change ∈ changes, change.isRename = false := by
    intro change hmem
    rw [← Bool.not_eq_true]
    exact fun hrename => hnone ⟨change, hmem, hrename⟩
  have hkept : source ∈ (catalog.attemptAll (changes.map Change.toStatement)).schemas :=
    (mem_attemptAll_of_no_rename howners).mpr (mem_schemas_iff.mpr ⟨owner, hsource⟩)
  have hgone : (catalog.attemptAll (changes.map Change.toStatement)).schemas[source]? = none := by
    rw [hreached source, hmoved.schemas, if_neg hne, if_pos rfl]
  exact notMem_schemas_iff.mpr hgone hkept

/-- To give an entry to another role takes a change of owner. -/
theorem exists_changeOwner (hne : role ≠ owner) : ∃ change ∈ changes, change.isRename = false := by
  by_contra hnone
  have hrenames : ∀ change ∈ changes, change.isRename = true := by
    intro change hmem
    rw [← Bool.not_eq_false]
    exact fun howner => hnone ⟨change, hmem, howner⟩
  have hmem : source ∈ catalog.ownedBy owner := mem_ownedBy.mpr hsource
  have hfewer : (catalog.attemptAll (changes.map Change.toStatement)).ownedBy owner ⊆
      (catalog.ownedBy owner).erase source := by
    intro name hname
    rw [mem_ownedBy, hreached name, hmoved.schemas] at hname
    rw [Finset.mem_erase, mem_ownedBy]
    split_ifs at hname with hnew hold
    · exact absurd (Option.some.inj hname) hne
    · exact ⟨hold, hname⟩
  have hcard := Finset.card_le_card hfewer
  rw [card_ownedBy_attemptAll_of_renames hrenames, Finset.card_erase_of_mem hmem] at hcard
  have hpos := Finset.card_pos.mpr ⟨source, hmem⟩
  omega

/-- So every list of changes that leads there is at least as long as there are differences. -/
theorem differences_le_length :
    (if source = target then 0 else 1) + (if role = owner then 0 else 1) ≤ changes.length := by
  have hrename : (if source = target then 0 else 1) ≤ changes.countP Change.isRename := by
    split_ifs with hsame
    · exact Nat.zero_le _
    · exact List.countP_pos_iff.mpr (exists_rename hsource hmoved hreached hsame)
  have howner : (if role = owner then 0 else 1) ≤
      changes.countP fun change => decide ¬change.isRename = true := by
    split_ifs with hsame
    · exact Nat.zero_le _
    · obtain ⟨change, hmem, hchange⟩ := exists_changeOwner hsource hmoved hreached hsame
      exact List.countP_pos_iff.mpr ⟨change, hmem, by simp [hchange]⟩
  calc
    (if source = target then 0 else 1) + (if role = owner then 0 else 1)
        ≤ changes.countP Change.isRename +
          changes.countP (fun change => decide ¬change.isRename = true) :=
      Nat.add_le_add hrename howner
    _ = changes.length := (List.length_eq_countP_add_countP Change.isRename).symm

end

end Catalog

/-! ## The difference -/

/-- What the server carries out is carried out in its catalog. -/
theorem executeAll_of_carries {server final : CatalogServer} {statements : List Statement}
    (h : catalogServer.Carries statements server final) :
    server.catalog.executeAll statements = .ok final.catalog := by
  induction h with
  | nil state => rfl
  | @cons statement rest state final hdone hrest ih =>
    rcases state.answer_execute_cases statement with ⟨after, hexecute, hanswer⟩ | ⟨fault, hanswer⟩
    · change catalogServer.answer state (.execute statement) = _ at hanswer
      rw [hanswer] at ih
      rw [Catalog.executeAll_cons_of_ok rest hexecute]
      exact ih
    · exact absurd (hdone.symm.trans (congrArg (·.reply) hanswer)) (by simp)

variable {resource : Resource} {current : Record}

/-- A difference has one change for each attribute that is wanted otherwise. -/
theorem Resource.length_changesFrom (hrecorded : resource.recorded = .ofRecord current) :
    (resource.changesFrom current).length =
      (if current.name = (resource.wanted current).name then 0 else 1) +
        if (resource.wanted current).owner = current.owner then 0 else 1 := by
  have hreached := (IsTruthful.of_recorded hrecorded).reached_eq_wanted
  rw [changesFrom, List.length_append, hreached]
  congr 1
  · rw [Change.renaming]
    split_ifs <;> rfl
  · have howner : (resource.reached current).owner =
        ((resource.change .owner).map Prod.snd).getD current.owner := rfl
    rw [← hreached, howner]
    cases hchange : resource.change .owner with
    | none => exact (if_pos rfl).symm
    | some change =>
      obtain ⟨recorded, role⟩ := change
      obtain ⟨-, hold, hne⟩ := change_eq_some_iff.mp hchange
      rw [hrecorded] at hold
      have hother : role ≠ current.owner := fun hsame => hne (hold.symm.trans hsame.symm)
      exact (if_neg hother).symm

/-- For a resource that records the entry of its identity as it is, and wants a name that is free
and a role that is there, there is a difference.  Its changes are carried out one after the other
and take the entry to what is wanted, with everything else as it was; and no shorter list of
changes takes the catalog to the same entries, not even one of which some changes are refused. -/
theorem diff_reaches_wanted_in_fewest_changes {catalog : Catalog} {resource : Resource}
    {current : Record} (hid : resource.id = some current.name) (hnamed : current.name ≠ "")
    (hrecord : resource.record = some current)
    (hentry : catalog.schemas[current.name]? = some current.owner)
    (htarget : ∀ target, resource.planned.name = some target →
      target ≠ "" ∧ (target = current.name ∨ target ∉ catalog.schemas))
    (hrole : ∀ role, resource.planned.owner = some role →
      role ≠ "" ∧ role ∈ catalog.roles) :
    ∃ changes after, resource.diff = .ok changes ∧
      catalog.executeAll (changes.map Change.toStatement) = .ok after ∧
      catalog.Moved after current.name (resource.wanted current).name
        (resource.wanted current).owner ∧
      ∀ others : List Change,
        (catalog.attemptAll (others.map Change.toStatement)).SameEntries after →
          changes.length ≤ others.length := by
  have hrecorded := (Resource.record_eq_some_iff.mp hrecord).2
  have hreached := (Resource.IsTruthful.of_recorded hrecorded).reached_eq_wanted
  have hundisturbed : Undisturbed { catalog } resource current :=
    { accepts := rfl, looks := rfl, id := hid, name_ne := hnamed, entry := hentry
      target := htarget, role := hrole }
  have hdiff := Resource.diff_eq_changesFrom hid hnamed (fun target h => (htarget target h).1)
    (fun role h => (hrole role h).1)
  obtain ⟨after, hcarries, hmoved⟩ := carries_changesFrom { catalog } hentry
    hundisturbed.reached_name_free (fun role h => (hrole role h).2)
  rw [hreached] at hmoved
  refine ⟨_, after, hdiff, executeAll_of_carries hcarries, hmoved, ?_⟩
  intro others hothers
  rw [Resource.length_changesFrom hrecorded]
  exact Catalog.differences_le_length hentry hmoved hothers

/-- Another name and another owner take two changes, although another schema has that owner. -/
theorem diff_reaches_wanted_in_two_changes :
    let catalog : Catalog :=
      { CatalogServer.fresh.catalog with schemas := .ofList [("a", "alice"), ("c", "bob")] }
    let resource := ((Resource.ofRecord ⟨"a", "alice"⟩).plan .name "b").plan .owner "bob"
    resource.record = some ⟨"a", "alice"⟩ ∧
      ∃ after, catalog.executeAll [.rename "a" "b", .changeOwner "b" "bob"] = .ok after ∧
        after.schemas["b"]? = some "bob" ∧ after.schemas["a"]? = none ∧
        ∀ (others : List Change) (result : Catalog),
          catalog.executeAll (others.map Change.toStatement) = .ok result →
            result.SameEntries after → 2 ≤ others.length := by
  intro catalog resource
  have hentry : catalog.schemas["a"]? = some "alice" := by decide
  obtain ⟨changes, after, hdiff, hrun, hmoved, hfewest⟩ :=
    @diff_reaches_wanted_in_fewest_changes catalog resource ⟨"a", "alice"⟩ rfl (by decide) rfl
      hentry (by decide) (by decide)
  have hchanges : resource.diff = .ok [.rename "a" "b", .changeOwner "b" "bob"] := rfl
  obtain rfl := Except.ok.inj (hdiff.symm.trans hchanges)
  refine ⟨rfl, after, hrun, ?_, ?_, ?_⟩
  · exact hmoved.schemas "b"
  · exact hmoved.schemas "a"
  · intro others result hothers hsame
    rw [← Catalog.attemptAll_of_executeAll_eq_ok hothers] at hsame
    exact hfewest others hsame

end Schemata
