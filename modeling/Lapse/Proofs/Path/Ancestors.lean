import Mathlib
import Lapse.Proofs.FileTree.Write
import Lapse.Proofs.Path.Absolute
import Lapse.Proofs.Scan.Walk

/-!
# The directories above a directory

The path of a directory is written with the names that lead to it from the root. Its ancestors are
the directories that the first of these names lead to, the nearest one first, down to the root. A
working directory that has been entered has such a path.
-/
namespace Lapse

namespace Text

theorem splitAll_intercalate {α : Type} [DecidableEq α] {mark : α} {parts : List (List α)}
    (hne : parts ≠ []) (h : ∀ part ∈ parts, mark ∉ part) :
    splitAll mark ([mark].intercalate parts) = parts := by
  induction parts with
  | nil => exact absurd rfl hne
  | cons part parts ih =>
    obtain ⟨hpart, hparts⟩ := List.forall_mem_cons.1 h
    cases parts with
    | nil => rw [List.intercalate_singleton, splitAll_of_not_mem hpart]
    | cons next parts =>
      rw [List.intercalate_cons_cons, List.append_assoc, List.singleton_append,
        splitAll_append_cons, splitAll_of_not_mem hpart, ih (List.cons_ne_nil _ _) hparts]
      rfl

theorem intercalate_append_singleton {α : Type} {mark : List α} {parts : List (List α)}
    (hne : parts ≠ []) (part : List α) :
    mark.intercalate (parts ++ [part]) = mark.intercalate parts ++ (mark ++ part) := by
  induction parts with
  | nil => exact absurd rfl hne
  | cons first parts ih =>
    cases parts with
    | nil => simp
    | cons next parts =>
      have hrest := ih (List.cons_ne_nil _ _)
      simp only [List.cons_append, List.intercalate_cons_cons, List.append_assoc] at hrest ⊢
      rw [hrest]

end Text

namespace Path

/-- A name that a directory can have for an entry. -/
def IsEntryName (name : FileName) : Prop :=
  slash ∉ name ∧ Component.ofPart? name = some (.normal name)

instance (name : FileName) : Decidable (IsEntryName name) := inferInstanceAs (Decidable (_ ∧ _))

/-- The directory that all others are below. -/
def root : Path := ⟨[slash]⟩

variable {names : List FileName} {name : FileName}

theorem IsEntryName.ne_nil (h : IsEntryName name) : name ≠ [] := (ofPart?_bytes h.2).2.1

theorem isAbsolute_below_root (names : List FileName) : (root.below names).isAbsolute :=
  FileTree.isAbsolute_herePath ⟨[], names, none⟩

theorem below_append_singleton (p : Path) (names : List FileName) (name : FileName) :
    p.below (names ++ [name]) = (p.below names).joinName name := by
  rw [below, List.foldl_append]
  rfl

theorem splitAll_names (hne : names ≠ []) (h : ∀ name ∈ names, IsEntryName name) :
    Text.splitAll slash (slash :: [slash].intercalate names) = [] :: names := by
  have hsplit := Text.splitAll_intercalate hne fun name hname => (h name hname).1
  rw [Text.splitAll, if_pos rfl, hsplit]

/-- No slash stands behind the last name. -/
theorem getLast?_ne_slash (hne : names ≠ []) (h : ∀ name ∈ names, IsEntryName name) :
    (slash :: [slash].intercalate names).getLast? ≠ some slash := by
  intro hlast
  obtain ⟨front, hfront⟩ := List.getLast?_eq_some_iff.1 hlast
  have hparts := splitAll_names hne h
  rw [hfront, Text.splitAll_append_cons] at hparts
  have hempty : names.getLast? = some [] := by
    have hends := congrArg List.getLast? hparts
    rw [List.getLast?_append] at hends
    simpa [Text.splitAll, List.getLast?_cons, List.getLast?_eq_some_getLast hne] using hends.symm
  exact (h [] (List.mem_of_getLast? hempty)).ne_nil rfl

/-- The path of a directory is its names with a slash in front of each, or a slash alone. -/
theorem bytes_below_root (h : ∀ name ∈ names, IsEntryName name) :
    (root.below names).bytes = slash :: [slash].intercalate names := by
  induction names using List.reverseRecOn with
  | nil => rfl
  | append_singleton names name ih =>
    obtain ⟨hnames, hname⟩ := List.forall_mem_append.1 h
    have hslash : name.head? ≠ some slash := fun hhead =>
      (hname name List.mem_cons_self).1 (List.mem_of_head? hhead)
    rw [below_append_singleton, joinName, join, if_neg (by simpa [isAbsolute] using hslash)]
    by_cases hempty : names = []
    · subst hempty
      simp [below, root]
    · have hlast := getLast?_ne_slash hempty hnames
      rw [← ih hnames] at hlast
      have hbytes := bytes_ne_nil_of_isAbsolute (isAbsolute_below_root names)
      rw [if_neg (by simp [hbytes, hlast])]
      dsimp only
      rw [ih hnames, Text.intercalate_append_singleton hempty]
      simp

theorem trimParts_cons (h : IsEntryName name) (absolute : Bool) (parts : List FileName) :
    trimParts absolute (name :: parts) = name :: parts := by
  rw [trimParts, if_pos (by simp [h.2])]

theorem trimParts_reverse (h : ∀ name ∈ names, IsEntryName name) (absolute : Bool) :
    trimParts absolute names.reverse = names.reverse := by
  cases hnames : names.reverse with
  | nil => rfl
  | cons name rest =>
    exact trimParts_cons (h name (List.mem_reverse.1 (hnames ▸ List.mem_cons_self))) absolute rest

theorem parent?_root : root.parent? = none := by decide

theorem parent?_below_root (h : ∀ name ∈ names, IsEntryName name) (hname : IsEntryName name) :
    (root.below (names ++ [name])).parent? = some (root.below names) := by
  have hall : ∀ part ∈ names ++ [name], IsEntryName part := by
    simpa [or_imp, forall_and] using ⟨h, hname⟩
  rw [parent?, bytes_below_root hall, splitAll_names (by simp) hall,
    if_pos (isAbsolute_below_root _), List.drop_one, List.tail_cons, List.reverse_append,
    List.reverse_singleton, List.singleton_append, trimParts_cons hname]
  dsimp only
  rw [trimParts_reverse h, List.reverse_reverse, if_pos (isAbsolute_below_root _),
    ← bytes_below_root h]

theorem components_below_root (h : ∀ name ∈ names, IsEntryName name) :
    (root.below names).components = .root :: names.map .normal := by
  have hrest : (names.filterMap Component.ofPart?) = names.map .normal := by
    rw [List.filterMap_eq_map_iff_forall_eq_some]
    exact fun name hname => (h name hname).2
  rw [components_of_isAbsolute (isAbsolute_below_root names), Path.names, bytes_below_root h]
  by_cases hempty : names = []
  · subst hempty
    decide
  · rw [splitAll_names hempty h, List.filterMap_cons_none rfl, hrest]

theorem ancestorsUpTo_below_root (h : ∀ name ∈ names, IsEntryName name) {fuel : Nat}
    (hfuel : names.length < fuel) :
    ancestorsUpTo fuel (root.below names) = names.inits.reverse.map root.below := by
  induction names using List.reverseRecOn generalizing fuel with
  | nil =>
    obtain ⟨fuel, rfl⟩ := Nat.exists_eq_succ_of_ne_zero (Nat.ne_of_gt hfuel)
    rw [ancestorsUpTo, show (root.below []).parent? = none from parent?_root]
    rfl
  | append_singleton names name ih =>
    obtain ⟨hnames, hname⟩ := List.forall_mem_append.1 h
    obtain ⟨fuel, rfl⟩ := Nat.exists_eq_succ_of_ne_zero (Nat.ne_of_gt (Nat.zero_lt_of_lt hfuel))
    have hless : names.length < fuel := by simpa using hfuel
    rw [ancestorsUpTo, parent?_below_root hnames (hname name List.mem_cons_self)]
    dsimp only
    rw [ih hnames hless, List.inits_append]
    simp

/-- The ancestors of a directory are those that the first of its names lead to, nearest first. -/
theorem ancestors_below_root (h : ∀ name ∈ names, IsEntryName name) :
    (root.below names).ancestors = names.inits.reverse.map root.below := by
  rw [ancestors, components_below_root h]
  exact ancestorsUpTo_below_root h (by simp)

end Path

namespace FileTree

/-- The working directory is reached by names that entries of directories can have. -/
def HereIsNamed (t : FileTree) : Prop := ∀ name ∈ t.here, Path.IsEntryName name

instance (t : FileTree) : Decidable t.HereIsNamed := inferInstanceAs (Decidable (∀ _ ∈ _, _))

theorem ancestors_herePath {t : FileTree} (h : t.HereIsNamed) :
    t.herePath.ancestors = t.here.inits.reverse.map Path.root.below :=
  Path.ancestors_below_root h

theorem isEntryName_of_part {part : FileName} (hslash : slash ∉ part)
    (hskip : ¬ (part = [] ∨ part = [dot])) (hup : part ≠ [dot, dot]) : Path.IsEntryName part := by
  refine ⟨hslash, ?_⟩
  rw [Component.ofPart?, if_neg hskip, if_neg hup]

section Follow

variable {entries : Entries} {last : Bool} {place : Place} {start parts : List FileName}

/-- Following parts adds nothing but names of entries. The induction is on the parts that are
left. -/
theorem isEntryName_of_follow
    {onLink : List FileName → Path → List FileName → Except FileError Place}
    (hlink : ∀ start target rest, (∀ name ∈ start, Path.IsEntryName name) →
      (∀ part ∈ rest, slash ∉ part) → onLink start target rest = .ok place →
        ∀ name ∈ place.names, Path.IsEntryName name)
    (hstart : ∀ name ∈ start, Path.IsEntryName name) (hparts : ∀ part ∈ parts, slash ∉ part)
    (h : follow entries last onLink start parts = .ok place) :
    ∀ name ∈ place.names, Path.IsEntryName name := by
  induction parts generalizing start with
  | nil =>
    rw [follow] at h
    split at h
    · cases h
      exact hstart
    · cases h
  | cons part parts ih =>
    obtain ⟨hpart, hrest⟩ := List.forall_mem_cons.1 hparts
    rw [follow] at h
    split at h
    · exact ih hstart hrest h
    next hskip =>
    split at h
    · exact ih (fun name hname => hstart name (List.dropLast_subset _ hname)) hrest h
    next hup =>
    split at h
    · cases h
    have hnames : ∀ name ∈ start ++ [part], Path.IsEntryName name := by
      simpa [or_imp, forall_and] using ⟨hstart, isEntryName_of_part hpart hskip hup⟩
    dsimp only at h
    split at h
    · split at h
      · cases h
        exact hnames
      · cases h
    · exact ih hnames hrest h
    · split at h
      · cases h
        exact hnames
      · exact hlink _ _ _ hstart hrest h
    · split at h
      · cases h
        exact hnames
      · cases h

theorem isEntryName_of_followLinks {links : Nat} (hstart : ∀ name ∈ start, Path.IsEntryName name)
    (hparts : ∀ part ∈ parts, slash ∉ part)
    (h : followLinks entries last links start parts = .ok place) :
    ∀ name ∈ place.names, Path.IsEntryName name := by
  induction links generalizing start parts with
  | zero => exact isEntryName_of_follow (fun _ _ _ _ _ h => by cases h) hstart hparts h
  | succ links ih =>
    refine isEntryName_of_follow (fun start target rest hstart hrest h => ih ?_ ?_ h)
      hstart hparts h
    · split
      · simp
      · exact hstart
    · intro part hpart
      rcases List.mem_append.1 hpart with hpart | hpart
      · exact Text.not_mem_of_mem_splitAll hpart
      · exact hrest part hpart

end Follow

/-- The directory that is entered becomes a working directory that is named. -/
theorem hereIsNamed_of_enter {t t' : FileTree} {p : Path} (hhere : t.HereIsNamed)
    (h : t.enter p = .ok t') : t'.HereIsNamed := by
  rw [enter] at h
  cases hlocate : t.locate p with
  | error cause =>
    rw [hlocate] at h
    cases h
  | ok found =>
    obtain ⟨names, node⟩ := found
    have hplace : t.place p = .ok (.taken names node) := by
      rw [locate] at hlocate
      split at hlocate
      · next hplace =>
        cases hlocate
        exact hplace
      · cases hlocate
      · cases hlocate
    obtain ⟨start, hstart, hfollow⟩ := place_eq_followLinks hplace
    have hnames : ∀ name ∈ names, Path.IsEntryName name := by
      refine isEntryName_of_followLinks ?_ (fun part hpart => Text.not_mem_of_mem_splitAll hpart)
        ((hfollow t rfl).symm.trans hplace)
      rcases hstart with rfl | rfl
      · simp
      · exact hhere
    rw [hlocate] at h
    cases node with
    | dir inner =>
      cases h
      exact hnames
    | file content => cases h
    | link target => cases h

end FileTree

end Lapse
