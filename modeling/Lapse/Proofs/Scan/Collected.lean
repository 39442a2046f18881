import Mathlib
import Lapse.Proofs.Scan.Findings
import Lapse.Proofs.Scan.Walk
import Lapse.Regex.Size

/-!
# Which files are collected

Without ignore files, what is collected can be told from the tree: the paths that are given and are
no directories, and the files below the directories that are given, whatever is excluded or ignored
being left out with all that is below it.
-/
namespace Lapse

namespace Scan.Options

/-- The path can be searched: if it is not excluded, it leads to something, and to a directory only
where directories are searched. -/
def Searches [Regex.SizeLimit] (o : Options) (t : FileTree) (p : Path) : Prop :=
  ¬ o.Excludes t p → ∃ node, t.node p = .ok node ∧ ∀ entries, node = .dir entries → o.recursive

/-- What a path that is given stands for, unless it is excluded: itself, if it leads to no
directory, and otherwise the files that names lead to from there, nothing on the way being left
out. -/
inductive Gives [Regex.SizeLimit] (o : Options) (t : FileTree) (p : Path) : Path → Prop
  | itself {node : Node} (hkept : ¬ o.Excludes t p) (hnode : t.node p = .ok node)
    (hother : ∀ entries, node ≠ .dir entries) : Gives o t p p
  | below {entries : Entries} {names : List FileName} {content : ByteArray}
    (hkept : ¬ o.Excludes t p) (hnode : t.node p = .ok (.dir entries))
    (hleads : entries.Leads names (.file content)) (hpasses : o.Passes t p names) :
    Gives o t p (p.below names)

end Scan.Options

namespace Scanner

open Scan

section Limited

variable [Regex.SizeLimit] {o : Options} {t : FileTree} {p q : Path} {inputs : List Path}

theorem readExclude_eq_ok {pattern : String}
    (h : pattern ≠ "" → (Regex.ofText? pattern.toList).isSome) :
    readExclude pattern = .ok
      (if pattern = "" then [] else (Regex.ofText? pattern.toList).toList) := by
  rw [readExclude]
  split
  · rfl
  · next hne =>
    obtain ⟨regex, hregex⟩ := Option.isSome_iff_exists.1 (h hne)
    rw [hregex]
    rfl

theorem ofOptions_eq_ok (h : o.Valid) : ofOptions o = .ok o.scanner := by
  rw [ofOptions, mapM_eq_ok_map fun pattern hpattern => readExclude_eq_ok (h pattern hpattern)]
  rfl

/-- The directory that is taken for the standard input. -/
def IsInputDirectory (t : FileTree) (p : Path) : Prop :=
  p.Same standardInput ∧ ∃ entries, t.node p = .ok (.dir entries)

theorem walk_scanner (h : o.useIgnoreFiles = false) (entries : Entries) :
    o.scanner.walk t p entries = .ok
      (if p.Same standardInput then [] else o.scanner.walkEntries t none p entries) := by
  rw [walk, Options.scanner, h]
  split <;> rfl

theorem expand_of_excludes (h : o.Excludes t p) :
    o.scanner.expand t p = .ok [] := by
  rw [expand, if_pos (Options.excludes?_scanner.2 h)]

theorem expand_of_kept (h : ¬ o.Excludes t p) :
    o.scanner.expand t p =
      match t.node p with
      | .error cause => .error (.noSuchFile p cause)
      | .ok (.dir entries) =>
        if o.recursive then o.scanner.walk t p entries else .error (.directoryGiven p)
      | .ok _ => .ok [p] := by
  rw [expand, if_neg fun hexcluded => h (Options.excludes?_scanner.1 hexcluded)]
  rfl

theorem expand_of_other {node : Node} (h : ¬ o.Excludes t p)
    (hnode : t.node p = .ok node) (hother : ∀ entries, node ≠ .dir entries) :
    o.scanner.expand t p = .ok [p] := by
  rw [expand_of_kept h, hnode]
  cases node with
  | dir entries => exact absurd rfl (hother entries)
  | file content => rfl
  | link target => rfl

theorem expand_of_dir {entries : Entries} (hignore : o.useIgnoreFiles = false)
    (h : ¬ o.Excludes t p) (hnode : t.node p = .ok (.dir entries)) (hwalks : o.recursive) :
    o.scanner.expand t p = .ok
      (if p.Same standardInput then [] else o.scanner.walkEntries t none p entries) := by
  rw [expand_of_kept h, hnode]
  simp only [hwalks, if_true, walk_scanner hignore]

theorem expand_eq_error (hp : ¬ o.Searches t p) :
    ∃ e, o.scanner.expand t p = .error e := by
  rw [Options.Searches, Classical.not_imp] at hp
  obtain ⟨hkept, hnone⟩ := hp
  rw [expand_of_kept hkept]
  cases hnode : t.node p with
  | error cause => exact ⟨_, rfl⟩
  | ok node =>
    cases node with
    | dir entries =>
      have hwalks : ¬ o.recursive := fun hwalks => hnone ⟨_, hnode, fun _ _ => hwalks⟩
      simp only [hwalks]
      exact ⟨_, rfl⟩
    | file content => exact absurd ⟨_, hnode, fun _ e => nomatch e⟩ hnone
    | link target => exact absurd ⟨_, hnode, fun _ e => nomatch e⟩ hnone

/-- An input adds what it stands for, unless it is the directory taken for the standard input. -/
theorem exists_expand (hignore : o.useIgnoreFiles = false) (hp : o.Searches t p) :
    ∃ paths, o.scanner.expand t p = .ok paths ∧
      ∀ q, q ∈ paths ↔ o.Gives t p q ∧ ¬ IsInputDirectory t p := by
  by_cases hexcluded : o.Excludes t p
  · refine ⟨[], expand_of_excludes hexcluded, fun q => ?_⟩
    simp only [List.not_mem_nil, false_iff]
    rintro ⟨⟨hkept, -, -⟩ | ⟨hkept, -, -, -⟩, -⟩ <;> exact hkept hexcluded
  · obtain ⟨node, hnode, hrecursive⟩ := hp hexcluded
    by_cases hdir : ∃ entries, node = .dir entries
    · obtain ⟨entries, rfl⟩ := hdir
      refine ⟨_, expand_of_dir hignore hexcluded hnode (hrecursive entries rfl), fun q => ?_⟩
      split
      · next hinput =>
        simp only [List.not_mem_nil, false_iff]
        exact fun ⟨_, hplace⟩ => hplace ⟨hinput, entries, hnode⟩
      · next hinput =>
        rw [mem_walkEntries_iff]
        constructor
        · rintro ⟨names, content, hleads, hpasses, rfl⟩
          exact ⟨.below hexcluded hnode hleads hpasses, fun hplace => hinput hplace.1⟩
        · rintro ⟨⟨-, hsame, hother⟩ | ⟨-, hsame, hleads, hpasses⟩, -⟩
          · exact absurd (Except.ok.inj (hsame.symm.trans hnode)) (hother _)
          · cases hnode.symm.trans hsame
            exact ⟨_, _, hleads, hpasses, rfl⟩
    · have hother (entries : Entries) (e : node = .dir entries) : False := hdir ⟨entries, e⟩
      refine ⟨[p], expand_of_other hexcluded hnode hother, fun q => ?_⟩
      rw [List.mem_singleton]
      constructor
      · rintro rfl
        refine ⟨.itself hexcluded hnode hother, fun ⟨_, entries, hplace⟩ => hother entries ?_⟩
        exact Except.ok.inj (hnode.symm.trans hplace)
      · rintro ⟨⟨-, -, -⟩ | ⟨-, hsame, -, -⟩, -⟩
        · rfl
        · exact absurd (Except.ok.inj (hnode.symm.trans hsame)) (hother _)

/-- The paths that an input adds. -/
def added (s : Scanner) (t : FileTree) (p : Path) : List Path := (s.expand t p).toOption.getD []

theorem expand_of_searches (hignore : o.useIgnoreFiles = false)
    (hp : o.Searches t p) : o.scanner.expand t p = .ok (o.scanner.added t p) := by
  obtain ⟨paths, hpaths, -⟩ := exists_expand hignore hp
  rw [added, hpaths]
  rfl

theorem mem_added_iff (hignore : o.useIgnoreFiles = false) (hp : o.Searches t p) :
    q ∈ o.scanner.added t p ↔ o.Gives t p q ∧ ¬ IsInputDirectory t p := by
  obtain ⟨paths, hpaths, hmem⟩ := exists_expand hignore hp
  rw [added, hpaths]
  exact hmem q

theorem collect_eq_ok_of_searches (h : o.useIgnoreFiles = false)
    (hinputs : ∀ p ∈ inputs, o.Searches t p) :
    o.scanner.collect t inputs = .ok ((keepFirst (sameFile t)
      (inputs.map (o.scanner.added t)).flatten).mergeSort Path.le) := by
  rw [collect, mapM_eq_ok_map fun p hp => expand_of_searches h (hinputs p hp)]
  rfl

/-- An input that cannot be searched lets the whole run fail. -/
theorem searches_of_collect {files : List Path}
    (h : o.scanner.collect t inputs = .ok files) (hp : p ∈ inputs) : o.Searches t p := by
  by_cases hsearches : o.Searches t p
  · exact hsearches
  · obtain ⟨-, -, e, -, hrun⟩ := mapM_eq_error ⟨p, hp, expand_eq_error hsearches⟩
    rw [collect, hrun] at h
    cases h

/-- Collecting with valid patterns and without ignore files succeeds exactly when every input can be
searched. The files are then those that the inputs stand for, each under one of the paths with its
absolute form. A directory named as the standard input is stands for nothing. -/
theorem collect_gives (hvalid : o.Valid) (hignore : o.useIgnoreFiles = false)
    (t : FileTree) (inputs : List Path) :
    ∃ s, ofOptions o = .ok s ∧
      ((s.collect t inputs).isOk ↔ ∀ p ∈ inputs, o.Searches t p) ∧
      ∀ files, s.collect t inputs = .ok files →
        (∀ q ∈ files, ∃ p ∈ inputs, ¬ IsInputDirectory t p ∧ o.Gives t p q) ∧
        ∀ p ∈ inputs, ¬ IsInputDirectory t p → ∀ q, o.Gives t p q →
          ∃ r ∈ files, sameFile t r q := by
  refine ⟨o.scanner, ofOptions_eq_ok hvalid, ⟨fun hok p hp => ?_, fun hinputs => ?_⟩,
    fun files hfiles => ?_⟩
  · cases hfiles : o.scanner.collect t inputs with
    | ok files => exact searches_of_collect hfiles hp
    | error e =>
      rw [hfiles] at hok
      cases hok
  · rw [collect_eq_ok_of_searches hignore hinputs]
    rfl
  · have hinputs (p : Path) (hp : p ∈ inputs) : o.Searches t p := searches_of_collect hfiles hp
    have hadded {q : Path} : q ∈ (inputs.map (o.scanner.added t)).flatten ↔
        ∃ p ∈ inputs, o.Gives t p q ∧ ¬ IsInputDirectory t p := by
      rw [List.mem_flatten]
      constructor
      · rintro ⟨_, hlist, hq⟩
        obtain ⟨p, hp, rfl⟩ := List.mem_map.1 hlist
        exact ⟨p, hp, (mem_added_iff hignore (hinputs p hp)).1 hq⟩
      · rintro ⟨p, hp, hgives⟩
        exact ⟨_, List.mem_map.2 ⟨p, hp, rfl⟩, (mem_added_iff hignore (hinputs p hp)).2 hgives⟩
    rw [collect_eq_ok_of_searches hignore hinputs] at hfiles
    cases hfiles
    refine ⟨fun q hq => ?_, fun p hp hplace q hgives => ?_⟩
    · obtain ⟨p, hp, hgives, hplace⟩ :=
        hadded.1 (mem_of_mem_keepFirst (List.mem_mergeSort.1 hq))
      exact ⟨p, hp, hplace, hgives⟩
    · obtain ⟨r, hr, hsame⟩ := exists_mem_keepFirst (sameFile_refl t) (sameFile_trans t)
        (hadded.2 ⟨p, hp, hgives, hplace⟩)
      exact ⟨r, List.mem_mergeSort.2 hr, hsame⟩

end Limited

/-- A directory that is walked though its own name is ignored, with a file, an ignored directory and
a link, and the file once more. -/
theorem collect_gives_of_ignored_input :
    let o : Options := ⟨true, [""], ["target"], false⟩
    let t : FileTree :=
      { root := [("target".toUTF8.data.toList, .dir
          [("a.rs".toUTF8.data.toList, .file "".toUTF8),
            ("target".toUTF8.data.toList, .dir [("b.rs".toUTF8.data.toList, .file "".toUTF8)]),
            ("c.rs".toUTF8.data.toList, .link (Path.ofString "a.rs"))])]
        here := []
        home := none }
    let inputs := ["target", "./target/a.rs"].map Path.ofString
    o.Valid ∧ o.useIgnoreFiles = false ∧ ∃ s, ofOptions o = .ok s ∧
      s.collect t inputs = .ok [Path.ofString "target/a.rs"] ∧
      (∃ p ∈ inputs, o.Gives t p (Path.ofString "target/a.rs")) ∧
      ∀ p ∈ inputs, o.Searches t p := by
  intro o t inputs
  have hvalid : o.Valid := by
    intro pattern hpattern hne
    exact absurd (List.mem_singleton.1 hpattern) hne
  let s : Scanner := ⟨true, [], ["target"], false⟩
  have hs : ofOptions o = .ok s := rfl
  have hrun : s.collect t inputs = .ok [Path.ofString "target/a.rs"] := by cbv
  obtain ⟨other, hother, hok, hfiles⟩ := collect_gives hvalid rfl t inputs
  cases hs.symm.trans hother
  obtain ⟨p, hp, -, hgives⟩ := (hfiles _ hrun).1 _ List.mem_cons_self
  exact ⟨hvalid, rfl, s, hs, hrun, ⟨p, hp, hgives⟩, hok.1 (by rw [hrun]; rfl)⟩

/-- Files below a directory are not always collected: the name of the directory may be the one that
stands for the standard input. -/
theorem not_forall_collected :
    ¬ ∀ (o : Options) (t : FileTree) (inputs : List Path) (s : Scanner) (files : List Path),
      o.Valid → o.useIgnoreFiles = false → ofOptions o = .ok s → s.collect t inputs = .ok files →
        ∀ p ∈ inputs, ∀ q, o.Gives t p q → ∃ r ∈ files, sameFile t r q := by
  let o : Options := ⟨true, [], [], false⟩
  let inner : Entries := [("a.txt".toUTF8.data.toList, .file "x".toUTF8)]
  let t : FileTree := { root := [("-".toUTF8.data.toList, .dir inner)], here := [], home := none }
  intro h
  have hvalid : o.Valid := by
    intro pattern hpattern
    cases hpattern
  have hkept (p : Path) : ¬ o.Excludes t p := by
    rintro ⟨pattern, hpattern, -⟩
    cases hpattern
  have hpasses : o.Passes t standardInput ["a.txt".toUTF8.data.toList] := by
    refine ⟨fun name hname => ?_, fun _ _ _ => hkept _⟩
    cases hname
  have hrun : (⟨true, [], [], false⟩ : Scanner).collect t [standardInput] = .ok [] := by cbv
  have hnode : t.node standardInput = .ok (.dir inner) := by cbv
  have hgives : o.Gives t standardInput
      (standardInput.below ["a.txt".toUTF8.data.toList]) :=
    .below (hkept _) hnode (.here List.mem_cons_self) hpasses
  obtain ⟨r, hr, -⟩ := h o t [standardInput] _ [] hvalid rfl rfl hrun _ List.mem_cons_self _ hgives
  cases hr

end Scanner

end Lapse
