import Lapse.Scan.Walk

/-!
# What a walk finds

A walk finds the files that names lead to below its directory, unless a directory on the way is
ignored or something on the way is excluded.
-/
namespace Lapse

/-- The names lead to the node, from entry to entry. A link leads no further. -/
inductive Entries.Leads : Entries → List FileName → Node → Prop
  | here {entries : Entries} {name : FileName} {node : Node} (h : (name, node) ∈ entries) :
    Leads entries [name] node
  | through {entries inner : Entries} {name : FileName} {names : List FileName} {node : Node}
    (h : (name, .dir inner) ∈ entries) (hinner : Leads inner names node) :
    Leads entries (name :: names) node

theorem Entries.Leads.mono {entries more : Entries} {names : List FileName} {node : Node}
    (h : Leads entries names node) (hsub : entries ⊆ more) : Leads more names node := by
  cases h with
  | here h => exact .here (hsub h)
  | through h hinner => exact .through (hsub h) hinner

/-- The path that the names lead to from `p`. -/
def Path.below (p : Path) (names : List FileName) : Path := names.foldl Path.joinName p

namespace Scan.Options

/-- A pattern of the options, the empty one apart, matches the path as it is or its absolute
form. -/
def Excludes [Regex.SizeLimit] (o : Options) (t : FileTree) (p : Path) : Prop :=
  ∃ pattern ∈ o.excludes, pattern ≠ "" ∧ ∃ regex, Regex.ofText? pattern.toList = some regex ∧
    (regex.isMatch p.display.toList ∨
      regex.isMatch ((t.absolute? p).getD p).display.toList)

/-- Every pattern that is not empty can be read. -/
def Valid [Regex.SizeLimit] (o : Options) : Prop :=
  ∀ pattern ∈ o.excludes, pattern ≠ "" → (Regex.ofText? pattern.toList).isSome

/-- Nothing that the names pass on their way from `p` is left out: no directory among them is
ignored, and none of them is excluded. -/
structure Passes [Regex.SizeLimit] (o : Options) (t : FileTree) (p : Path)
    (names : List FileName) : Prop where
  notIgnored : ∀ name ∈ names.dropLast, Scanner.nameText name ∉ o.ignoredDirs
  notExcluded : ∀ front, front <+: names → front ≠ [] → ¬ o.Excludes t (p.below front)

variable {o : Options} {t : FileTree} {p : Path}

theorem passes_cons_iff [Regex.SizeLimit] {name : FileName} {names : List FileName} :
    o.Passes t p (name :: names) ↔
      (names ≠ [] → Scanner.nameText name ∉ o.ignoredDirs) ∧ ¬ o.Excludes t (p.joinName name) ∧
        o.Passes t (p.joinName name) names := by
  constructor
  · rintro ⟨hignored, hexcluded⟩
    refine ⟨fun hne => hignored name ?_, hexcluded [name] (by simp) (by simp), ?_, ?_⟩
    · rw [List.dropLast_cons_of_ne_nil hne]
      exact List.mem_cons_self
    · intro other hother
      refine hignored other ?_
      rw [List.dropLast_cons_of_ne_nil (List.ne_nil_of_mem (List.dropLast_subset _ hother))]
      exact List.mem_cons_of_mem _ hother
    · intro front hfront _
      exact hexcluded (name :: front) (List.cons_prefix_cons.2 ⟨rfl, hfront⟩) (by simp)
  · rintro ⟨hname, hkept, hignored, hexcluded⟩
    refine ⟨fun other hother => ?_, fun front hfront hne => ?_⟩
    · by_cases hnil : names = []
      · rw [hnil] at hother
        cases hother
      · rw [List.dropLast_cons_of_ne_nil hnil] at hother
        rcases List.mem_cons.1 hother with rfl | hother
        · exact hname hnil
        · exact hignored other hother
    · obtain ⟨first, rest, rfl⟩ := List.exists_cons_of_ne_nil hne
      obtain ⟨rfl, hrest⟩ := List.cons_prefix_cons.1 hfront
      by_cases hnil : rest = []
      · rw [hnil]
        exact hkept
      · exact hexcluded rest hrest hnil

theorem passes_nil [Regex.SizeLimit] : o.Passes t p [] :=
  ⟨fun _ h => absurd h (by simp), fun _ h hne => absurd (List.prefix_nil.1 h) hne⟩

/-- The patterns of the options. -/
def regexes [Regex.SizeLimit] (o : Options) : List Regex :=
  (o.excludes.map fun pattern =>
    if pattern = "" then [] else (Regex.ofText? pattern.toList).toList).flatten

/-- The scanner for valid options. -/
def scanner [Regex.SizeLimit] (o : Options) : Scanner :=
  ⟨o.recursive, o.regexes, o.ignoredDirs, o.useIgnoreFiles⟩

theorem mem_regexes_iff [Regex.SizeLimit] {regex : Regex} :
    regex ∈ o.regexes ↔
      ∃ pattern ∈ o.excludes, pattern ≠ "" ∧ Regex.ofText? pattern.toList = some regex := by
  rw [regexes, List.mem_flatten]
  constructor
  · rintro ⟨_, hmem, hregex⟩
    obtain ⟨pattern, hpattern, rfl⟩ := List.mem_map.1 hmem
    split at hregex
    · cases hregex
    · next hne => exact ⟨pattern, hpattern, hne, Option.mem_toList.1 hregex⟩
  · rintro ⟨pattern, hpattern, hne, hregex⟩
    refine ⟨_, List.mem_map.2 ⟨pattern, hpattern, rfl⟩, ?_⟩
    rw [if_neg hne]
    exact Option.mem_toList.2 hregex

theorem excludes?_scanner [Regex.SizeLimit] : o.scanner.excludes? t p ↔ o.Excludes t p := by
  have hany : o.scanner.excludes? t p = o.regexes.any fun regex =>
      regex.isMatch p.display.toList || regex.isMatch ((t.absolute? p).getD p).display.toList := by
    rw [Scanner.excludes?, scanner]
    cases o.regexes <;> rfl
  rw [hany, List.any_eq_true]
  constructor
  · rintro ⟨regex, hregex, hmatch⟩
    obtain ⟨pattern, hpattern, hne, hread⟩ := mem_regexes_iff.1 hregex
    exact ⟨pattern, hpattern, hne, regex, hread, by simpa using hmatch⟩
  · rintro ⟨pattern, hpattern, hne, regex, hread, hmatch⟩
    exact ⟨regex, mem_regexes_iff.2 ⟨pattern, hpattern, hne, hread⟩, by simpa using hmatch⟩

end Scan.Options

namespace Scanner

open Scan

variable {o : Scan.Options} {t : FileTree}

theorem leavesOut_scanner [Regex.SizeLimit] {p : Path} {name : FileName} {isDirectory : Bool} :
    o.scanner.leavesOut t none p name isDirectory ↔
      (isDirectory ∧ nameText name ∈ o.ignoredDirs) ∨ o.Excludes t p := by
  rw [← Options.excludes?_scanner, leavesOut]
  simp [Options.scanner]

theorem mem_walkEntries {s : Scanner} {directory q : Path} {entries : Entries} :
    q ∈ s.walkEntries t none directory entries ↔
      ∃ name node, (name, node) ∈ entries ∧
        q ∈ s.walkEntry t none (directory.joinName name) name node := by
  induction entries with
  | nil => simp [walkEntries]
  | cons entry entries ih =>
    obtain ⟨name, node⟩ := entry
    rw [walkEntries, List.mem_append, ih]
    simp only [List.mem_cons, Prod.mk.injEq]
    constructor
    · rintro (h | ⟨other, inner, hmem, h⟩)
      · exact ⟨name, node, .inl ⟨rfl, rfl⟩, h⟩
      · exact ⟨other, inner, .inr hmem, h⟩
    · rintro ⟨other, inner, ⟨rfl, rfl⟩ | hmem, h⟩
      · exact .inl h
      · exact .inr ⟨other, inner, hmem, h⟩

theorem mem_walkEntry_file [Regex.SizeLimit] {p q : Path} {name : FileName} {content : ByteArray} :
    q ∈ o.scanner.walkEntry t none p name (.file content) ↔ q = p ∧ ¬ o.Excludes t p := by
  rw [walkEntry]
  split
  · next h => simpa using fun _ => leavesOut_scanner.1 h
  · next h =>
    rw [leavesOut_scanner] at h
    simpa using fun _ hexcluded => h (.inr hexcluded)

theorem mem_walkEntry_dir [Regex.SizeLimit] {p q : Path} {name : FileName} {inner : Entries} :
    q ∈ o.scanner.walkEntry t none p name (.dir inner) ↔
      nameText name ∉ o.ignoredDirs ∧ ¬ o.Excludes t p ∧
        q ∈ o.scanner.walkEntries t none p inner := by
  rw [walkEntry]
  split
  · next h =>
    rw [leavesOut_scanner] at h
    simp only [List.not_mem_nil, false_iff]
    rintro ⟨hname, hkept, -⟩
    exact h.elim (fun h => hname h.2) hkept
  · next h =>
    rw [leavesOut_scanner, not_or] at h
    exact ⟨fun hq => ⟨fun hname => h.1 ⟨rfl, hname⟩, h.2, hq⟩, fun hq => hq.2.2⟩

/-- Every file that is passed to is found. The induction follows the names. -/
theorem mem_walkEntries_of_leads [Regex.SizeLimit] {entries : Entries} {names : List FileName}
    {content : ByteArray} (h : entries.Leads names (.file content)) {p : Path}
    (hpasses : o.Passes t p names) : p.below names ∈ o.scanner.walkEntries t none p entries := by
  generalize hnode : Node.file content = node at h
  induction h generalizing p with
  | @here entries name node hmem =>
    obtain ⟨-, hkept, -⟩ := Options.passes_cons_iff.1 hpasses
    rw [← hnode] at hmem
    exact mem_walkEntries.2 ⟨name, _, hmem, mem_walkEntry_file.2 ⟨rfl, hkept⟩⟩
  | @through entries inner name names node hmem hinner ih =>
    obtain ⟨hname, hkept, hpasses⟩ := Options.passes_cons_iff.1 hpasses
    have hne : names ≠ [] := by cases hinner <;> simp
    exact mem_walkEntries.2 ⟨name, _, hmem,
      mem_walkEntry_dir.2 ⟨hname hne, hkept, ih hpasses hnode⟩⟩

mutual

/-- Every path that is found below a node is that of a file passed to. -/
theorem exists_of_mem_walkEntry [Regex.SizeLimit] {p q : Path} {name : FileName} : (node : Node) →
    q ∈ o.scanner.walkEntry t none (p.joinName name) name node →
      ∃ names content, Entries.Leads [(name, node)] names (.file content) ∧ o.Passes t p names ∧
        q = p.below names
  | .file content, h => by
    obtain ⟨rfl, hkept⟩ := mem_walkEntry_file.1 h
    exact ⟨[name], content, .here List.mem_cons_self,
      Options.passes_cons_iff.2 ⟨fun hne => absurd rfl hne, hkept, Options.passes_nil⟩, rfl⟩
  | .link _, h => by
    rw [walkEntry] at h
    cases h
  | .dir inner, h => by
    obtain ⟨hname, hkept, h⟩ := mem_walkEntry_dir.1 h
    obtain ⟨names, content, hleads, hpasses, rfl⟩ := exists_of_mem_walkEntries inner h
    exact ⟨name :: names, content, .through List.mem_cons_self hleads,
      Options.passes_cons_iff.2 ⟨fun _ => hname, hkept, hpasses⟩, rfl⟩

theorem exists_of_mem_walkEntries [Regex.SizeLimit] {p q : Path} : (entries : Entries) →
    q ∈ o.scanner.walkEntries t none p entries →
      ∃ names content, entries.Leads names (.file content) ∧ o.Passes t p names ∧
        q = p.below names
  | [], h => by
    rw [walkEntries] at h
    cases h
  | (name, node) :: entries, h => by
    rw [walkEntries, List.mem_append] at h
    rcases h with h | h
    · obtain ⟨names, content, hleads, hpasses, rfl⟩ := exists_of_mem_walkEntry node h
      exact ⟨names, content, hleads.mono (by simp), hpasses, rfl⟩
    · obtain ⟨names, content, hleads, hpasses, rfl⟩ := exists_of_mem_walkEntries entries h
      exact ⟨names, content, hleads.mono (by simp), hpasses, rfl⟩

end

/-- The files of a walk are those that names lead to, nothing on the way being left out. -/
theorem mem_walkEntries_iff [Regex.SizeLimit] {p q : Path} {entries : Entries} :
    q ∈ o.scanner.walkEntries t none p entries ↔
      ∃ names content, entries.Leads names (.file content) ∧ o.Passes t p names ∧
        q = p.below names := by
  refine ⟨exists_of_mem_walkEntries entries, ?_⟩
  rintro ⟨names, content, hleads, hpasses, rfl⟩
  exact mem_walkEntries_of_leads hleads hpasses

end Scanner

end Lapse
