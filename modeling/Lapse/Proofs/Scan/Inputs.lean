import Mathlib
import Lapse.Proofs.Scan.Collected
import Lapse.Proofs.Scan.TextPaths

/-!
# The order of the inputs

Which files are collected depends only on which inputs there are, not on their order and not on how
often each is given. Only the path under which a file is collected may differ, so files are compared
by their absolute forms.
-/
namespace Lapse

theorem Path.bytes_join_ne_nil {p : Path} (hp : p.bytes ≠ []) (q : Path) :
    (p.join q).bytes ≠ [] := by
  rw [join]
  split
  · next hq => exact bytes_ne_nil_of_isAbsolute hq
  · split <;> simp [hp]

theorem Path.bytes_below_ne_nil {p : Path} (hp : p.bytes ≠ []) (names : List FileName) :
    (p.below names).bytes ≠ [] := by
  induction names generalizing p with
  | nil => exact hp
  | cons name names ih => exact ih (bytes_join_ne_nil hp ⟨name⟩)

theorem FileTree.bytes_ne_nil_of_node {t : FileTree} {p : Path} {node : Node}
    (h : t.node p = .ok node) : p.bytes ≠ [] := by
  intro hnil
  rw [FileTree.node, locate, place, if_neg (by simp [hnil]), if_pos hnil] at h
  cases h

namespace Scanner

variable {s : Scanner} {t : FileTree} {p q : Path} {inputs others files paths : List Path}

theorem exists_node_of_mem_expand (h : s.expand t p = .ok paths) (hq : q ∈ paths) :
    ∃ node, t.node p = .ok node := by
  rw [expand] at h
  split at h
  · cases h
    cases hq
  cases hnode : t.node p with
  | error cause =>
    rw [hnode] at h
    cases h
  | ok node => exact ⟨node, rfl⟩

/-- What is collected has an absolute form. -/
theorem isSome_absolute?_of_mem_collect (h : s.collect t inputs = .ok files) (hq : q ∈ files) :
    (t.absolute? q).isSome := by
  obtain ⟨found, hfound, rfl⟩ := collect_eq_ok h
  obtain ⟨paths, hpaths, hq⟩ :=
    List.mem_flatten.1 (mem_of_mem_keepFirst (List.mem_mergeSort.1 hq))
  obtain ⟨p, -, hexpand⟩ := exists_of_mem_mapM hfound hpaths
  obtain ⟨node, hnode⟩ := exists_node_of_mem_expand hexpand hq
  have hp := FileTree.bytes_ne_nil_of_node hnode
  have hne : q.bytes ≠ [] := by
    rcases eq_or_below_of_mem_expand hexpand hq with rfl | ⟨-, names, -, -, -, rfl⟩
    · exact hp
    · exact Path.bytes_below_ne_nil hp names
  rw [FileTree.absolute?, Option.isSome_iff_ne_none, ne_eq, Path.absolute?_eq_none_iff,
    ← Path.bytes_eq_nil_iff]
  exact hne

theorem sameFile_iff :
    sameFile t p q ↔
      ((t.absolute? p).getD p).components = ((t.absolute? q).getD q).components := by
  rw [sameFile, decide_eq_true_iff, Path.Same]

/-- The absolute forms of some paths, each told by its components. -/
def absoluteForms (t : FileTree) (paths : List Path) : Set (List Component) :=
  {form | ∃ p ∈ paths, ((t.absolute? p).getD p).components = form}

theorem absoluteForms_mono {more : List Path} (h : paths ⊆ more) :
    absoluteForms t paths ⊆ absoluteForms t more := by
  rintro form ⟨p, hp, hform⟩
  exact ⟨p, h hp, hform⟩

/-- Sorting paths and keeping the first of each file loses none of the files. -/
theorem absoluteForms_mergeSort_keepFirst (paths : List Path) :
    absoluteForms t ((keepFirst (sameFile t) paths).mergeSort Path.le) = absoluteForms t paths := by
  apply Set.Subset.antisymm
  · exact absoluteForms_mono fun p hp => mem_of_mem_keepFirst (List.mem_mergeSort.1 hp)
  · rintro form ⟨p, hp, rfl⟩
    obtain ⟨q, hq, hsame⟩ := exists_mem_keepFirst (sameFile_refl t) (sameFile_trans t) hp
    exact ⟨q, List.mem_mergeSort.2 hq, sameFile_iff.1 hsame⟩

theorem expand_eq_ok_added (h : (s.expand t p).isOk) : s.expand t p = .ok (s.added t p) := by
  rw [added]
  cases hp : s.expand t p with
  | error e =>
    rw [hp] at h
    cases h
  | ok paths => rfl

theorem collect_eq_ok_of_expand (h : ∀ p ∈ inputs, (s.expand t p).isOk) :
    s.collect t inputs = .ok
      ((keepFirst (sameFile t) (inputs.map (s.added t)).flatten).mergeSort Path.le) := by
  rw [collect, mapM_eq_ok_map fun p hp => expand_eq_ok_added (h p hp)]
  rfl

/-- Collecting succeeds exactly when every input on its own can be expanded, wherever it stands
among the others. -/
theorem isOk_collect_iff : (s.collect t inputs).isOk ↔ ∀ p ∈ inputs, (s.expand t p).isOk := by
  constructor
  · intro hok p hp
    cases hexpand : s.expand t p with
    | ok paths => rfl
    | error e =>
      obtain ⟨-, -, e, -, hrun⟩ := mapM_eq_error ⟨p, hp, e, hexpand⟩
      rw [collect, hrun] at hok
      cases hok
  · intro h
    rw [collect_eq_ok_of_expand h]
    rfl

/-- The collected files are those that the inputs add. -/
theorem mem_absoluteForms_collect (h : s.collect t inputs = .ok files) {form : List Component} :
    form ∈ absoluteForms t files ↔ ∃ p ∈ inputs, form ∈ absoluteForms t (s.added t p) := by
  have hok : (s.collect t inputs).isOk := by
    rw [h]
    rfl
  rw [collect_eq_ok_of_expand (isOk_collect_iff.1 hok)] at h
  cases h
  rw [absoluteForms_mergeSort_keepFirst]
  constructor
  · rintro ⟨q, hq, hform⟩
    obtain ⟨_, hadded, hq⟩ := List.mem_flatten.1 hq
    obtain ⟨p, hp, rfl⟩ := List.mem_map.1 hadded
    exact ⟨p, hp, q, hq, hform⟩
  · rintro ⟨p, hp, q, hq, hform⟩
    exact ⟨q, List.mem_flatten.2 ⟨_, List.mem_map.2 ⟨p, hp, rfl⟩, hq⟩, hform⟩

/-- What is collected is in strictly ascending order, and all paths have absolute forms, no two the
same. The same inputs in another order, or given several times, are collected just as well and give the
same files, and if they fail in one order they fail in every order. -/
theorem collect_of_same_inputs (s : Scanner) (t : FileTree) (h : ∀ p, p ∈ others ↔ p ∈ inputs) :
    ((s.collect t others).isOk ↔ (s.collect t inputs).isOk) ∧
    ∀ files, s.collect t inputs = .ok files →
      files.Pairwise (fun p q => p.cmp q = .lt ∧
        ((t.absolute? p).getD p).components ≠ ((t.absolute? q).getD q).components) ∧
      (∀ p ∈ files, (t.absolute? p).isSome) ∧
      ∃ found, s.collect t others = .ok found ∧ absoluteForms t found = absoluteForms t files := by
  have hok : (s.collect t others).isOk ↔ (s.collect t inputs).isOk := by
    rw [isOk_collect_iff, isOk_collect_iff]
    simp only [h]
  refine ⟨hok, fun files hfiles =>
    ⟨?_, fun p hp => isSome_absolute?_of_mem_collect hfiles hp, ?_⟩⟩
  · refine (ascending_collect hfiles).imp fun {p q} hpq => ⟨hpq.1, fun hsame => ?_⟩
    have hdifferent := hpq.2
    rw [sameFile_iff.2 hsame] at hdifferent
    cases hdifferent
  · cases hfound : s.collect t others with
    | error e =>
      rw [hfound, hfiles] at hok
      cases hok.2 rfl
    | ok found =>
      refine ⟨found, rfl, Set.ext fun form => ?_⟩
      rw [mem_absoluteForms_collect hfound, mem_absoluteForms_collect hfiles]
      simp only [h]

/-- A file under two of its paths and the directory that holds it, once more in another order. -/
theorem collect_of_same_inputs_of_two_paths :
    let s : Scanner := ⟨true, [], ["target"], false⟩
    let t : FileTree :=
      { root := [("src".toUTF8.data.toList, .dir
          [("a.rs".toUTF8.data.toList, .file "".toUTF8),
            ("b.rs".toUTF8.data.toList, .file "".toUTF8)])]
        here := []
        home := none }
    let inputs := ["src//a.rs", "src"].map Path.ofString
    let others := ["src", "src//a.rs", "src"].map Path.ofString
    let files := ["src//a.rs", "src/b.rs"].map Path.ofString
    (∀ p, p ∈ others ↔ p ∈ inputs) ∧ s.collect t inputs = .ok files ∧
      ∃ found, s.collect t others = .ok found ∧ absoluteForms t found = absoluteForms t files := by
  intro s t inputs others files
  have hsame : ∀ p, p ∈ others ↔ p ∈ inputs := by
    intro p
    simp only [others, inputs, List.map_cons, List.map_nil, List.mem_cons]
    tauto
  have hfiles : s.collect t inputs = .ok files := by cbv
  exact ⟨hsame, hfiles, ((collect_of_same_inputs s t hsame).2 files hfiles).2.2⟩

end Scanner

end Lapse
