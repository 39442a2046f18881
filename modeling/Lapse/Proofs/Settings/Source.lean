import Mathlib
import Lapse.Proofs.Path.Ancestors
import Lapse.Settings.Source

/-!
# One source of settings

Settings come from exactly one source: the first in the order of the search that has a file. When
that file cannot be read, or is no valid document, no other source is asked, and the sources behind
it never matter.
-/
namespace Lapse

namespace Settings

/-- Where settings can come from. -/
inductive Source
  | named
  | above (levels : Nat)
  | home
  | defaults
  deriving DecidableEq

variable {t t' : FileTree} {given : Option Path} {p : Path} {source other : Source}

namespace Source

/-- The file of a source, if it has one. A file that is named need not exist; in the directories
that are searched there must be a file, or a link to one. -/
def file? (t : FileTree) (given : Option Path) : Source → Option Path
  | .named => given
  | .above levels =>
    (t.herePath.ancestors[levels]?.map fun directory => directory.join fileName).filter t.isFile
  | .home => (t.home.map fun directory => directory.join fileName).filter t.isFile
  | .defaults => none

/-- The place of a source in the order of the search. -/
def place : Source → Nat × Nat
  | .named => (0, 0)
  | .above levels => (1, levels)
  | .home => (2, 0)
  | .defaults => (3, 0)

/-- One source is asked before another. -/
def Before (source other : Source) : Prop :=
  source.place.1 < other.place.1 ∨
    source.place.1 = other.place.1 ∧ source.place.2 < other.place.2

/-- A source has a file, or it is the last resort, and no source before it has a file. -/
structure Decides (source : Source) (t : FileTree) (given : Option Path) : Prop where
  present : source = .defaults ∨ (source.file? t given).isSome
  first : ∀ earlier : Source, earlier.Before source → earlier.file? t given = none

theorem not_before_named (source : Source) : ¬ source.Before .named := by
  cases source <;> simp [Before, place]

theorem not_defaults_before (source : Source) : ¬ Before .defaults source := by
  cases source <;> simp [Before, place]

theorem before_or_eq_or_before (source other : Source) :
    source.Before other ∨ source = other ∨ other.Before source := by
  cases source <;> cases other <;> simp [Before, place, Nat.lt_trichotomy]

theorem Decides.not_before (h : source.Decides t given) (k : other.Decides t given) :
    ¬ source.Before other := by
  intro hbefore
  rcases h.present with rfl | hfile
  · exact not_defaults_before other hbefore
  · simp [k.first source hbefore] at hfile

theorem Decides.unique (h : source.Decides t given) (k : other.Decides t given) :
    other = source := by
  rcases before_or_eq_or_before source other with hbefore | rfl | hbefore
  · exact absurd hbefore (h.not_before k)
  · rfl
  · exact absurd hbefore (k.not_before h)

theorem decides_named (p : Path) : Decides .named t (some p) where
  present := .inr rfl
  first earlier hbefore := absurd hbefore (not_before_named earlier)

/-- What the search upwards finds belongs to the nearest directory that has a file. -/
theorem exists_decides_above (h : findAbove? t t.herePath = some p) :
    ∃ levels, Decides (.above levels) t none ∧ file? t none (.above levels) = some p := by
  obtain ⟨hfile, levels, hlevels, hget, hnearer⟩ := List.find?_eq_some_iff_getElem.1 h
  rw [List.length_map] at hlevels
  rw [List.getElem_map] at hget
  have hp : file? t none (.above levels) = some p := by
    simp [file?, List.getElem?_eq_getElem hlevels, hget, hfile, Option.filter]
  refine ⟨levels, ⟨.inr (by simp [hp]), ?_⟩, hp⟩
  intro earlier hbefore
  cases earlier with
  | named => rfl
  | above nearer =>
    have hless : nearer < levels := by simpa [Before, place] using hbefore
    have hnone := hnearer nearer hless
    rw [List.getElem_map] at hnone
    simpa [file?, List.getElem?_eq_getElem (hless.trans hlevels), Option.filter] using hnone
  | home => simp [Before, place] at hbefore
  | defaults => exact absurd hbefore (not_defaults_before _)

theorem file?_above_of_findAbove?_eq_none (h : findAbove? t t.herePath = none) (levels : Nat) :
    file? t given (.above levels) = none := by
  have hnone := List.find?_eq_none.1 h
  cases hget : t.herePath.ancestors[levels]? with
  | none => simp [file?, hget]
  | some directory =>
    have hfile := hnone _ (List.mem_map_of_mem (List.mem_of_getElem? hget))
    simpa [file?, hget, Option.filter] using hfile

/-- Some source decides, and its file is the one that the search finds. -/
theorem exists_decides (t : FileTree) (given : Option Path) :
    ∃ source : Source, source.Decides t given ∧ source.file? t given = source? t given := by
  cases given with
  | some p => exact ⟨.named, decides_named p, rfl⟩
  | none =>
    cases habove : findAbove? t t.herePath with
    | some p =>
      obtain ⟨levels, hdecides, hfile⟩ := exists_decides_above habove
      exact ⟨.above levels, hdecides, by simp [hfile, source?, habove]⟩
    | none =>
      have hearlier : ∀ earlier : Source, earlier.Before .home → earlier.file? t none = none := by
        intro earlier hbefore
        cases earlier with
        | named => rfl
        | above levels => exact file?_above_of_findAbove?_eq_none habove levels
        | home => simp [Before, place] at hbefore
        | defaults => exact absurd hbefore (not_defaults_before _)
      cases hhome : findAtHome? t with
      | some p =>
        have hfile : file? t none .home = some p := hhome
        exact ⟨.home, ⟨.inr (by simp [hfile]), hearlier⟩, by simp [hfile, source?, habove, hhome]⟩
      | none =>
        refine ⟨.defaults, ⟨.inl rfl, ?_⟩, by simp [file?, source?, habove, hhome]⟩
        intro earlier hbefore
        cases earlier with
        | home => exact hhome
        | defaults => rfl
        | named => exact hearlier .named (by simp [Before, place])
        | above levels => exact hearlier (.above levels) (by simp [Before, place])

theorem Decides.source?_eq (h : source.Decides t given) :
    source? t given = source.file? t given := by
  obtain ⟨found, hfound, hfile⟩ := exists_decides t given
  rw [← hfile, h.unique hfound]

/-- A source still decides in another tree if it and all that are asked before it are the same. -/
theorem Decides.of_file?_eq (h : source.Decides t given)
    (hsame : ∀ asked : Source, asked = source ∨ asked.Before source →
      asked.file? t' given = asked.file? t given) : source.Decides t' given where
  present := by
    rw [hsame source (.inl rfl)]
    exact h.present
  first earlier hbefore := by
    rw [hsame earlier (.inr hbefore)]
    exact h.first earlier hbefore

end Source

theorem loadFrom_congr {found : Option Path}
    (h : ∀ p, found = some p → t'.readText p = t.readText p) :
    loadFrom t' found = loadFrom t found := by
  cases found with
  | none => rfl
  | some p => rw [loadFrom, loadFile, h p rfl, loadFrom, loadFile]

/-- Exactly one source decides on the settings: the first in the order of the search that has a
file. Without any file these are the defaults; a file that cannot be read or is no valid document is
an error; and two trees with the same sources up to the one that decides, and with the same text in
its file, have the same settings. The working directory is searched first, and then the directories
above it, the nearest one first. -/
theorem load_of_first_source (t : FileTree) (given : Option Path) :
    (t.HereIsNamed → t.herePath.ancestors = t.here.inits.reverse.map Path.root.below) ∧
    ∃ source : Source, source.Decides t given ∧
      (∀ other : Source, other.Decides t given → other = source) ∧
      (source = .defaults → load t given = .ok default) ∧
      (∀ p, source.file? t given = some p →
        (∀ cause, t.readText p = .error cause → load t given = .error (.unreadable p cause)) ∧
        (∀ text, t.readText p = .ok text → ofText? text = none →
          load t given = .error (.malformed p)) ∧
        ∀ text s, t.readText p = .ok text → ofText? text = some s → load t given = .ok s) ∧
      ∀ t' : FileTree,
        (∀ asked : Source, asked = source ∨ asked.Before source →
          asked.file? t' given = asked.file? t given) →
        (∀ p, source.file? t given = some p → t'.readText p = t.readText p) →
        load t' given = load t given := by
  refine ⟨FileTree.ancestors_herePath, ?_⟩
  obtain ⟨source, hdecides, -⟩ := Source.exists_decides t given
  have hload : load t given = loadFrom t (source.file? t given) := by
    rw [load, hdecides.source?_eq]
  refine ⟨source, hdecides, fun other hother => hdecides.unique hother, ?_, ?_, ?_⟩
  · rintro rfl
    exact hload
  · intro p hp
    rw [hload, hp]
    refine ⟨fun cause hread => ?_, fun text hread hnone => ?_, fun text s hread hsome => ?_⟩
    · simp only [loadFrom, loadFile, hread]
    · simp only [loadFrom, loadFile, hread, hnone]
    · simp only [loadFrom, loadFile, hread, hsome]
  · intro t' hsame hread
    rw [hload, load, (hdecides.of_file?_eq hsame).source?_eq, hsame source (.inl rfl)]
    exact loadFrom_congr hread

/-- In the working directory there is a directory with the name of the file. The directory above has
a file that is no valid document, and the one at home is valid. -/
def brokenTree : FileTree :=
  let name := (Path.ofString ".overdue.toml").bytes
  { root := [
      ((Path.ofString "a").bytes, .dir [
        (name, .file "tags = \"TODO\"\n".toUTF8),
        ((Path.ofString "b").bytes, .dir [(name, .dir [])])]),
      ((Path.ofString "home").bytes, .dir [(name, .file "strict = true\n".toUTF8)])]
    here := [(Path.ofString "a").bytes, (Path.ofString "b").bytes]
    home := some (Path.ofString "/home") }

/-- The broken file above the working directory decides, with and without a home. -/
theorem load_of_first_source_brokenTree :
    brokenTree.HereIsNamed ∧
    load brokenTree none = .error (.malformed (Path.ofString "/a/.overdue.toml")) ∧
    load { brokenTree with home := none } none =
      .error (.malformed (Path.ofString "/a/.overdue.toml")) := by
  have hdecides : Source.Decides (.above 1) brokenTree none :=
    { present := .inr (by decide +kernel)
      first := fun earlier hbefore => by
        cases earlier with
        | named => rfl
        | above levels =>
          obtain rfl : levels = 0 := by simpa [Source.Before, Source.place] using hbefore
          decide +kernel
        | home => simp [Source.Before, Source.place] at hbefore
        | defaults => exact absurd hbefore (Source.not_defaults_before _) }
  obtain ⟨-, source, -, hunique, -, hfile, hother⟩ := load_of_first_source brokenTree none
  obtain rfl := hunique _ hdecides
  have hload : load brokenTree none = .error (.malformed (Path.ofString "/a/.overdue.toml")) :=
    (hfile _ (by decide +kernel)).2.1 "tags = \"TODO\"\n" (by decide +kernel) (by decide +kernel)
  refine ⟨by decide +kernel, hload, ?_⟩
  rw [hother { brokenTree with home := none } ?_ fun p _ => rfl, hload]
  rintro asked (rfl | hbefore)
  · rfl
  · cases asked with
    | named | above | defaults => rfl
    | home => simp [Source.Before, Source.place] at hbefore

end Settings

end Lapse
