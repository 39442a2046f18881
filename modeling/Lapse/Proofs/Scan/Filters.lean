import Mathlib
import Lapse.Proofs.Scan.Inputs

/-!
# Filters remove files

More patterns, more ignored directory names and the use of ignore files leave out more of what is
walked and never let anything else in. What is collected with more filters may be named by another
path, but it is among the files collected with fewer.
-/
namespace Lapse

namespace Scan.Options

/-- `more` leaves out at least what `o` leaves out, and searches directories if `o` does. -/
structure AddsFilters (o more : Options) : Prop where
  recursive : more.recursive = o.recursive
  excludes : o.excludes ⊆ more.excludes
  ignoredDirs : o.ignoredDirs ⊆ more.ignoredDirs
  useIgnoreFiles : o.useIgnoreFiles → more.useIgnoreFiles

/-- The files that a scanner for the options collects. -/
def collect [Regex.SizeLimit] (o : Options) (t : FileTree) (inputs : List Path) :
    Except ScanError (List Path) := do
  (← Scanner.ofOptions o).collect t inputs

end Scan.Options

namespace Scanner

open Ignore (Surroundings)
open Scan (Options)

/-- The second scanner has the filters of the first one and maybe more. -/
structure Narrows (s narrow : Scanner) : Prop where
  recursive : narrow.recursive = s.recursive
  excludes : s.excludes ⊆ narrow.excludes
  ignoredDirs : s.ignoredDirs ⊆ narrow.ignoredDirs
  useIgnoreFiles : s.useIgnoreFiles → narrow.useIgnoreFiles

variable {s narrow : Scanner} {t : FileTree} {p : Path} {name : FileName} {isDirectory : Bool}
  {around more : Option Surroundings} {entries : Entries} {paths fewer inputs files : List Path}

theorem excludes?_iff : s.excludes? t p ↔ ∃ r ∈ s.excludes,
    r.isMatch p.display.toList ∨ r.isMatch ((t.absolute? p).getD p).display.toList := by
  rw [excludes?, Bool.and_eq_true, List.any_eq_true]
  constructor
  · rintro ⟨-, r, hr, hmatch⟩
    exact ⟨r, hr, by simpa using hmatch⟩
  · rintro ⟨r, hr, hmatch⟩
    exact ⟨by simpa using List.ne_nil_of_mem hr, r, hr, by simpa using hmatch⟩

theorem Narrows.excludes? (h : s.Narrows narrow) (hp : s.excludes? t p) :
    narrow.excludes? t p := by
  obtain ⟨r, hr, hmatch⟩ := excludes?_iff.1 hp
  exact excludes?_iff.2 ⟨r, h.excludes hr, hmatch⟩

theorem Narrows.leavesOut (h : s.Narrows narrow) (haround : around = none ∨ around = more)
    (hp : s.leavesOut t around p name isDirectory) :
    narrow.leavesOut t more p name isDirectory := by
  simp only [Scanner.leavesOut, Bool.or_eq_true, Bool.and_eq_true, List.contains_iff_mem] at hp ⊢
  rcases hp with (hignored | ⟨hdirectory, hname⟩) | hexcluded
  · rcases haround with rfl | rfl
    · cases hignored
    · exact .inl (.inl hignored)
  · exact .inl (.inr ⟨hdirectory, h.ignoredDirs hname⟩)
  · exact .inr (h.excludes? hexcluded)

mutual

/-- What a narrower scanner finds in one entry, with the same ignore files or some where there were
none, is found by the wider one. -/
theorem Narrows.walkEntry_sublist (h : s.Narrows narrow) {around more : Option Surroundings}
    (haround : around = none ∨ around = more) (p : Path) (name : FileName) : (node : Node) →
      (narrow.walkEntry t more p name node).Sublist (s.walkEntry t around p name node)
  | .file content => by
    rw [walkEntry, walkEntry]
    split
    · exact List.nil_sublist _
    · next hkept => rw [if_neg fun hleft => hkept (h.leavesOut haround hleft)]
  | .link target => by rw [walkEntry, walkEntry]
  | .dir inner => by
    rw [walkEntry, walkEntry]
    split
    · exact List.nil_sublist _
    · next hkept =>
      have hinside : (around.map fun around => around.enter t p) = none ∨
          (around.map fun around => around.enter t p) = more.map fun around => around.enter t p := by
        rcases haround with rfl | rfl
        · exact .inl rfl
        · exact .inr rfl
      rw [if_neg fun hleft => hkept (h.leavesOut haround hleft)]
      exact h.walkEntries_sublist hinside p inner

theorem Narrows.walkEntries_sublist (h : s.Narrows narrow) {around more : Option Surroundings}
    (haround : around = none ∨ around = more) (directory : Path) : (entries : Entries) →
      (narrow.walkEntries t more directory entries).Sublist
        (s.walkEntries t around directory entries)
  | [] => by rw [walkEntries, walkEntries]
  | (name, node) :: entries => by
    rw [walkEntries, walkEntries]
    exact (h.walkEntry_sublist haround (directory.joinName name) name node).append
      (h.walkEntries_sublist haround directory entries)

end

theorem Narrows.walk_sublist (h : s.Narrows narrow) (hwalk : s.walk t p entries = .ok paths)
    (hfewer : narrow.walk t p entries = .ok fewer) : fewer.Sublist paths := by
  rw [walk] at hwalk hfewer
  split at hfewer
  · cases hfewer
    exact List.nil_sublist _
  · next hdirectory =>
    rw [if_neg hdirectory] at hwalk
    cases huse : s.useIgnoreFiles with
    | true =>
      -- Both use the ignore files above the directory, which do not depend on the scanner.
      rw [huse, if_pos rfl] at hwalk
      rw [if_pos (h.useIgnoreFiles huse)] at hfewer
      split at hfewer
      · next around hstart =>
        rw [hstart] at hwalk
        cases hwalk
        cases hfewer
        exact h.walkEntries_sublist (.inr rfl) p entries
      · cases hfewer
    | false =>
      rw [huse, if_neg (by decide)] at hwalk
      cases hwalk
      split at hfewer
      · split at hfewer
        · cases hfewer
          exact h.walkEntries_sublist (.inl rfl) p entries
        · cases hfewer
      · cases hfewer
        exact h.walkEntries_sublist (.inl rfl) p entries

theorem Narrows.expand_sublist (h : s.Narrows narrow) (hexpand : s.expand t p = .ok paths)
    (hfewer : narrow.expand t p = .ok fewer) : fewer.Sublist paths := by
  rw [expand] at hexpand hfewer
  split at hfewer
  · cases hfewer
    exact List.nil_sublist _
  · next hkept =>
    rw [if_neg fun hexcluded => hkept (h.excludes? hexcluded)] at hexpand
    rw [h.recursive] at hfewer
    cases hnode : t.node p with
    | error cause =>
      rw [hnode] at hfewer
      cases hfewer
    | ok node =>
      rw [hnode] at hexpand hfewer
      cases node with
      | file content | link target =>
        cases hexpand
        cases hfewer
        exact List.Sublist.refl _
      | dir entries =>
        simp only at hexpand hfewer
        split at hfewer
        · next hrecursive =>
          rw [if_pos hrecursive] at hexpand
          exact h.walk_sublist hexpand hfewer
        · cases hfewer

theorem Narrows.absoluteForms_subset (h : s.Narrows narrow)
    (hfiles : s.collect t inputs = .ok files) (hfewer : narrow.collect t inputs = .ok fewer) :
    absoluteForms t fewer ⊆ absoluteForms t files := by
  intro form hform
  obtain ⟨p, hp, hadded⟩ := (mem_absoluteForms_collect hfewer).1 hform
  have hexpand : s.expand t p = .ok (s.added t p) := expand_eq_ok_added
    (isOk_collect_iff.1 (by rw [hfiles]; rfl) p hp)
  have hnarrow : narrow.expand t p = .ok (narrow.added t p) := expand_eq_ok_added
    (isOk_collect_iff.1 (by rw [hfewer]; rfl) p hp)
  exact (mem_absoluteForms_collect hfiles).2
    ⟨p, hp, absoluteForms_mono (h.expand_sublist hexpand hnarrow).subset hadded⟩

section Limited

variable [Regex.SizeLimit]

theorem valid_of_ofOptions {o : Options} (h : ofOptions o = .ok s) : o.Valid := by
  intro pattern hpattern hne
  by_contra hnone
  have hread : readExclude pattern = .error (.invalidExclude pattern) := by
    rw [readExclude, if_neg hne, Option.not_isSome_iff_eq_none.1 hnone]
  obtain ⟨-, -, e, -, hrun⟩ := mapM_eq_error ⟨pattern, hpattern, _, hread⟩
  rw [ofOptions, hrun] at h
  cases h

theorem collect_scanner {o : Options} (h : o.collect t inputs = .ok files) :
    o.scanner.collect t inputs = .ok files := by
  rw [Options.collect] at h
  cases hs : ofOptions o with
  | error e =>
    rw [hs] at h
    cases h
  | ok s =>
    rw [ofOptions_eq_ok (valid_of_ofOptions hs)] at h
    exact h

theorem narrows_scanner {o more : Options} (h : o.AddsFilters more) :
    o.scanner.Narrows more.scanner where
  recursive := h.recursive
  excludes := fun regex hregex => by
    obtain ⟨pattern, hpattern, hne, hread⟩ := Options.mem_regexes_iff.1 hregex
    exact Options.mem_regexes_iff.2 ⟨pattern, h.excludes hpattern, hne, hread⟩
  ignoredDirs := h.ignoredDirs
  useIgnoreFiles := h.useIgnoreFiles

/-- Empty patterns are read as none at all. -/
theorem mapM_readExclude_filter (patterns : List String) :
    ((patterns.filter (· ≠ "")).mapM readExclude).map List.flatten =
      (patterns.mapM readExclude).map List.flatten := by
  induction patterns with
  | nil => rfl
  | cons pattern patterns ih =>
    by_cases hempty : pattern = ""
    · have hread : readExclude pattern = .ok [] := by rw [readExclude, if_pos hempty]
      rw [List.filter_cons_of_neg (by simpa using hempty), ih, List.mapM_cons, hread]
      cases patterns.mapM readExclude <;> rfl
    · rw [List.filter_cons_of_pos (by simpa using hempty), List.mapM_cons, List.mapM_cons]
      cases readExclude pattern with
      | error e => rfl
      | ok first =>
        -- What is read of the others counts only flattened.
        have hfirst (rest : Except ScanError (List (List Regex))) :
            (do return first :: (← rest) : Except ScanError _).map List.flatten =
              (rest.map List.flatten).map (first ++ ·) := by
          cases rest <;> rfl
        exact (hfirst _).trans ((congrArg (Except.map (first ++ ·)) ih).trans (hfirst _).symm)

theorem ofOptions_eq_map (o : Options) :
    ofOptions o = ((o.excludes.mapM readExclude).map List.flatten).map
      fun excludes => ⟨o.recursive, excludes, o.ignoredDirs, o.useIgnoreFiles⟩ := by
  rw [ofOptions]
  cases o.excludes.mapM readExclude <;> rfl

theorem ofOptions_of_filter {o : Options} {padded : List String}
    (h : padded.filter (· ≠ "") = o.excludes.filter (· ≠ "")) :
    ofOptions { o with excludes := padded } = ofOptions o := by
  rw [ofOptions_eq_map, ofOptions_eq_map, ← mapM_readExclude_filter padded, h,
    mapM_readExclude_filter]

/-- With more patterns, more ignored names or ignore files in use, all that is collected is
collected without them, and empty patterns among the others change nothing at all. -/
theorem collect_of_more_filters (o : Options) (t : FileTree) (inputs : List Path) :
    (∀ more files fewer, o.AddsFilters more → o.collect t inputs = .ok files →
      more.collect t inputs = .ok fewer → absoluteForms t fewer ⊆ absoluteForms t files) ∧
    ∀ padded, padded.filter (· ≠ "") = o.excludes.filter (· ≠ "") →
      { o with excludes := padded }.collect t inputs = o.collect t inputs := by
  refine ⟨fun more files fewer hmore hfiles hfewer => ?_, fun padded hpadded => ?_⟩
  · exact (narrows_scanner hmore).absoluteForms_subset (collect_scanner hfiles)
      (collect_scanner hfewer)
  · rw [Options.collect, ofOptions_of_filter hpadded, Options.collect]

end Limited

/-- A file that is excluded under one of its paths is collected under another one, while a hidden
file is lost. -/
theorem collect_of_more_filters_of_two_paths :
    let o : Options := ⟨true, [], [], false⟩
    let more : Options := ⟨true, ["^a"], ["old"], true⟩
    let t : FileTree :=
      { root := [("a.rs".toUTF8.data.toList, .file "".toUTF8),
          (".hidden".toUTF8.data.toList, .file "".toUTF8)]
        here := []
        home := none }
    let inputs := ["a.rs", "."].map Path.ofString
    let files := ["./.hidden", "a.rs"].map Path.ofString
    let fewer := ["./a.rs"].map Path.ofString
    o.AddsFilters more ∧ o.collect t inputs = .ok files ∧ more.collect t inputs = .ok fewer ∧
      absoluteForms t fewer ⊆ absoluteForms t files := by
  intro o more t inputs files fewer
  have hmore : o.AddsFilters more := ⟨rfl, by simp [o], by simp [o], fun _ => rfl⟩
  have hfiles : o.collect t inputs = .ok files := by cbv
  have hfewer : more.collect t inputs = .ok fewer := by decide +kernel
  exact ⟨hmore, hfiles, hfewer,
    (collect_of_more_filters o t inputs).1 more files fewer hmore hfiles hfewer⟩

end Scanner

end Lapse
