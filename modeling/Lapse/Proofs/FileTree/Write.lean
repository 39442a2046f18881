import Lapse.FileTree.Change

/-!
# What is written is read

A file that is written at a path is what is read at that path afterwards, through the same links.
What other names lead to stays the same, but that a directory on the way to the file has one more
entry.
-/
namespace Lapse

namespace Entries

variable {entries : Entries} {names other : List FileName} {node : Node}

theorem lookup_set (entries : Entries) (name other : FileName) (node : Node) :
    (entries.set name node).lookup other =
      if other = name then some node else entries.lookup other := by
  induction entries with
  | nil =>
    by_cases h : other = name
    · simp [set, h]
    · simp [set, List.lookup_cons, h, beq_false_of_ne h]
  | cons entry entries ih =>
    obtain ⟨key, found⟩ := entry
    rw [set]
    by_cases hkey : key = name
    · rw [if_pos hkey]
      by_cases h : other = name
      · simp [h]
      · simp [List.lookup_cons, hkey, beq_false_of_ne h, h]
    · rw [if_neg hkey]
      by_cases h : other = key
      · simp [h, hkey]
      · simp [List.lookup_cons, beq_false_of_ne h, ih]

theorem find?_cons (name : FileName) (names : List FileName) (entries : Entries) :
    find? (name :: names) entries =
      match entries.lookup name with
      | some (.dir inner) => find? names inner
      | some node => if names = [] then some node else none
      | none => none := rfl

theorem find?_cons_of_lookup {name : FileName} {inner : Entries}
    (h : entries.lookup name = some (.dir inner)) (names : List FileName) :
    find? (name :: names) entries = find? names inner := by
  rw [find?_cons, h]

/-- What is no directory leads no further. -/
theorem find?_cons_of_not_dir {name : FileName}
    (h : ∀ inner, entries.lookup name ≠ some (.dir inner)) (names : List FileName) :
    find? (name :: names) entries = if names = [] then entries.lookup name else none := by
  rw [find?_cons]
  cases hlookup : entries.lookup name with
  | none => simp
  | some node =>
    cases node with
    | dir inner => exact absurd hlookup (h inner)
    | file content => rfl
    | link target => rfl

/-- A directory leads to the last of the names. -/
def HasRoom (names : List FileName) (entries : Entries) : Prop :=
  names ≠ [] ∧ ∃ inner, find? names.dropLast entries = some (.dir inner)

theorem exists_lookup_of_hasRoom {name : FileName} (hne : names ≠ [])
    (h : HasRoom (name :: names) entries) :
    ∃ inner, entries.lookup name = some (.dir inner) ∧ HasRoom names inner := by
  obtain ⟨-, last, hlast⟩ := h
  rw [List.dropLast_cons_of_ne_nil hne] at hlast
  by_cases hdir : ∃ inner, entries.lookup name = some (.dir inner)
  · obtain ⟨inner, hinner⟩ := hdir
    rw [find?_cons_of_lookup hinner] at hlast
    exact ⟨inner, hinner, hne, last, hlast⟩
  · rw [find?_cons_of_not_dir fun inner h => hdir ⟨inner, h⟩] at hlast
    split at hlast
    · exact absurd ⟨last, hlast⟩ hdir
    · cases hlast

/-- Of a file that names lead to, the last name stands in a directory. -/
theorem hasRoom_of_file {content : ByteArray} (h : find? names entries = some (.file content)) :
    HasRoom names entries := by
  induction names generalizing entries with
  | nil => cases h
  | cons name names ih =>
    refine ⟨by simp, ?_⟩
    by_cases hne : names = []
    · exact ⟨entries, by rw [hne]; rfl⟩
    by_cases hdir : ∃ inner, entries.lookup name = some (.dir inner)
    · obtain ⟨inner, hinner⟩ := hdir
      rw [find?_cons_of_lookup hinner] at h
      obtain ⟨-, last, hlast⟩ := ih h
      exact ⟨last, by rw [List.dropLast_cons_of_ne_nil hne, find?_cons_of_lookup hinner, hlast]⟩
    · rw [find?_cons_of_not_dir fun inner h => hdir ⟨inner, h⟩, if_neg hne] at h
      cases h

theorem put_cons {name : FileName} (hne : names ≠ []) (node : Node) (entries : Entries) :
    put node (name :: names) entries =
      match entries.lookup name with
      | some (.dir inner) => set name (.dir (put node names inner)) entries
      | _ => entries := by
  obtain ⟨second, names, rfl⟩ := List.exists_cons_of_ne_nil hne
  rfl

/-- A file that is put where there is room for it is found there. -/
theorem find?_put (h : HasRoom names entries) (content : ByteArray) :
    find? names (put (.file content) names entries) = some (.file content) := by
  induction names generalizing entries with
  | nil => exact absurd rfl h.1
  | cons name names ih =>
    by_cases hne : names = []
    · subst hne
      rw [put, find?_cons, lookup_set, if_pos rfl]
      rfl
    · obtain ⟨inner, hinner, hroom⟩ := exists_lookup_of_hasRoom hne h
      rw [put_cons hne, hinner]
      dsimp only
      rw [find?_cons_of_lookup (by rw [lookup_set, if_pos rfl]), ih hroom]

/-- The same, or a directory both times. -/
inductive Alike : Option Node → Option Node → Prop
  | same (found : Option Node) : Alike found found
  | dirs (inner more : Entries) : Alike (some (.dir inner)) (some (.dir more))

/-- Other names lead to what they led to, unless a file takes the place of a directory. -/
theorem alike_put {content : ByteArray} (hplace : ∀ inner, find? names entries ≠ some (.dir inner))
    (hne : other ≠ names) :
    Alike (find? other entries) (find? other (put (.file content) names entries)) := by
  induction names generalizing entries other with
  | nil => exact absurd rfl (hplace entries)
  | cons name names ih =>
    cases other with
    | nil => exact .dirs _ _
    | cons first other =>
      -- Only what begins with the same name can lead elsewhere.
      have hfirst (node : Node) (h : first ≠ name) :
          Alike (find? (first :: other) entries)
            (find? (first :: other) (set name node entries)) := by
        rw [find?_cons, find?_cons, lookup_set, if_neg h]
        exact .same _
      by_cases hnames : names = []
      · subst hnames
        rw [put]
        by_cases h : first = name
        · subst h
          have hother : other ≠ [] := fun e => hne (by rw [e])
          have hlookup (inner : Entries) : entries.lookup first ≠ some (.dir inner) := fun h =>
            hplace inner (find?_cons_of_lookup h [])
          rw [find?_cons_of_not_dir hlookup, if_neg hother, find?_cons, lookup_set, if_pos rfl]
          simp only [if_neg hother]
          exact .same _
        · exact hfirst _ h
      · rw [put_cons hnames]
        split
        · next inner hinner =>
          by_cases h : first = name
          · subst h
            rw [find?_cons_of_lookup hinner] at hplace ⊢
            rw [find?_cons_of_lookup (by rw [lookup_set, if_pos rfl])]
            exact ih hplace fun e => hne (by rw [e])
          · exact hfirst _ h
        · exact .same _

end Entries

/-- The names of what a path leads to. -/
def Place.names : Place → List FileName
  | taken names _ => names
  | free directory name => directory ++ [name]

/-- What is in the tree at the names of a place. -/
def Place.found? : Place → Option Node
  | taken _ node => some node
  | free _ _ => none

namespace FileTree

open Entries

section Follow

variable {root : Entries} {last : Bool} {place : Place}

theorem find?_of_follow {onLink : List FileName → Path → List FileName → Except FileError Place}
    (hlink : ∀ start target parts, onLink start target parts = .ok place →
      find? place.names root = place.found?) {start parts : List FileName}
    (h : follow root last onLink start parts = .ok place) :
    find? place.names root = place.found? := by
  induction parts generalizing start with
  | nil =>
    rw [follow] at h
    split at h
    · next node hnode =>
      cases h
      exact hnode
    · cases h
  | cons part parts ih =>
    rw [follow] at h
    split at h
    · exact ih h
    split at h
    · exact ih h
    split at h
    · cases h
    dsimp only at h
    split at h
    · next hnone =>
      split at h
      · cases h
        exact hnone
      · cases h
    · exact ih h
    · next target htarget =>
      split at h
      · cases h
        exact htarget
      · exact hlink _ _ _ h
    · next content hcontent =>
      split at h
      · cases h
        exact hcontent
      · cases h

theorem find?_of_followLinks {links : Nat} {start parts : List FileName}
    (h : followLinks root last links start parts = .ok place) :
    find? place.names root = place.found? := by
  induction links generalizing start parts with
  | zero => exact find?_of_follow (fun _ _ _ h => by cases h) h
  | succ links ih => exact find?_of_follow (fun _ _ _ h => ih h) h

/-- The other tree differs from the first in a file at some names, where the first has a file or
nothing. -/
structure PutsFile (root other : Entries) (names : List FileName) (content : ByteArray) : Prop where
  before (node : Node) (h : find? names root = some node) : ∃ old, node = .file old
  after : find? names other = some (.file content)
  alike {others : List FileName} (hne : others ≠ names) :
    Alike (find? others root) (find? others other)

variable {other : Entries} {names : List FileName} {content : ByteArray}

/-- A way that led to the names of the file leads to the file. The induction is on the parts that
are left. -/
theorem follow_of_putsFile (hput : PutsFile root other names content)
    {onLink onLink' : List FileName → Path → List FileName → Except FileError Place}
    (hlink : ∀ start target parts place, onLink start target parts = .ok place →
      place.names = names → onLink' start target parts = .ok (.taken names (.file content)))
    {start parts : List FileName} (h : follow root last onLink start parts = .ok place)
    (hnames : place.names = names) :
    follow other last onLink' start parts = .ok (.taken names (.file content)) := by
  induction parts generalizing start with
  | nil =>
    rw [follow] at h ⊢
    split at h
    · cases h
      rw [Place.names] at hnames
      rw [hnames, hput.after]
    · cases h
  | cons part parts ih =>
    rw [follow] at h ⊢
    split at h
    · next hskip => rw [if_pos hskip, ih h]
    next hskip =>
    rw [if_neg hskip]
    split at h
    · next hup => rw [if_pos hup, ih h]
    next hup =>
    rw [if_neg hup]
    split at h
    · cases h
    next hlength =>
    rw [if_neg hlength]
    dsimp only at h ⊢
    by_cases hhere : start ++ [part] = names
    · rw [hhere] at h ⊢
      rw [hput.after]
      have hend : parts = [] := by
        cases hfound : find? names root with
        | none =>
          rw [hfound] at h
          exact Decidable.byContradiction fun hne => by simp [hne] at h
        | some node =>
          obtain ⟨old, rfl⟩ := hput.before node hfound
          rw [hfound] at h
          exact Decidable.byContradiction fun hne => by simp [hne] at h
      exact if_pos hend
    · have halike := hput.alike hhere
      generalize find? (start ++ [part]) root = found at h halike
      generalize find? (start ++ [part]) other = found' at halike ⊢
      cases halike with
      | dirs inner more => exact ih h
      | same =>
        cases found with
        | none =>
          dsimp only at h
          split at h
          · cases h
            exact absurd hnames hhere
          · cases h
        | some node =>
          cases node with
          | dir inner => exact ih h
          | link target =>
            dsimp only at h ⊢
            split at h
            · cases h
              exact absurd hnames hhere
            · next hon =>
              rw [if_neg hon]
              exact hlink _ _ _ _ h hnames
          | file old =>
            dsimp only at h
            split at h
            · cases h
              exact absurd hnames hhere
            · cases h

theorem followLinks_of_putsFile (hput : PutsFile root other names content) {links : Nat}
    {start parts : List FileName} (h : followLinks root last links start parts = .ok place)
    (hnames : place.names = names) :
    followLinks other last links start parts = .ok (.taken names (.file content)) := by
  induction links generalizing start parts place with
  | zero => exact follow_of_putsFile hput (fun _ _ _ _ h => by cases h) h hnames
  | succ links ih => exact follow_of_putsFile hput (fun _ _ _ _ h hnames => ih h hnames) h hnames

end Follow

variable {t : FileTree} {p : Path}

theorem place_eq_followLinks {place : Place} (h : t.place p = .ok place) :
    ∃ start, (start = [] ∨ start = t.here) ∧ ∀ t' : FileTree, t'.here = t.here →
      t'.place p = followLinks t'.root true linkLimit start (parts p) := by
  refine ⟨if p.isAbsolute then [] else t.here, ?_, fun t' hhere => ?_⟩
  · split
    · exact .inl rfl
    · exact .inr rfl
  rw [FileTree.place] at h ⊢
  split at h
  · cases h
  next hzero =>
  split at h
  · cases h
  next hempty =>
  split at h
  · cases h
  next hlength => rw [if_neg hzero, if_neg hempty, if_neg hlength, hhere]

/-- A path that a file can be written at: it leads to a file, or to a free name in a directory. -/
inductive Writable (t : FileTree) (p : Path) : Prop
  | old {names : List FileName} {content : ByteArray}
    (h : t.place p = .ok (.taken names (.file content)))
  | new {directory : List FileName} {name : FileName} {inner : Entries}
    (h : t.place p = .ok (.free directory name))
    (hdirectory : find? directory t.root = some (.dir inner))

/-- A file can be put at the names that a writable path leads to. -/
theorem Writable.exists_place (h : t.Writable p) : ∃ place : Place, t.place p = .ok place ∧
    HasRoom place.names t.root ∧ ∀ node, find? place.names t.root = some node →
      ∃ old, node = .file old := by
  obtain ⟨start, hstart⟩ : ∃ start, ∀ t' : FileTree, t'.here = t.here →
      t'.place p = followLinks t'.root true linkLimit start (parts p) := by
    cases h with
    | old h => exact (place_eq_followLinks h).imp fun _ h => h.2
    | new h _ => exact (place_eq_followLinks h).imp fun _ h => h.2
  cases h with
  | @old names content h =>
    have hfound : find? names t.root = some (.file content) :=
      find?_of_followLinks ((hstart t rfl).symm.trans h)
    refine ⟨_, h, hasRoom_of_file hfound, fun node hnode => ⟨content, ?_⟩⟩
    exact Option.some.inj (hnode.symm.trans hfound)
  | @new directory name inner h hdirectory =>
    have hfound : find? (directory ++ [name]) t.root = none :=
      find?_of_followLinks ((hstart t rfl).symm.trans h)
    refine ⟨_, h, ⟨by simp [Place.names], inner, ?_⟩, fun node hnode => ?_⟩
    · simpa [Place.names] using hdirectory
    · cases hnode.symm.trans hfound

theorem write_eq_ok {place : Place} (h : t.place p = .ok place) (hroom : HasRoom place.names t.root)
    (hfile : ∀ node, find? place.names t.root = some node → ∃ old, node = .file old)
    (content : ByteArray) :
    t.write p content = .ok { t with root := t.root.put (.file content) place.names } := by
  obtain ⟨start, -, hstart⟩ := place_eq_followLinks h
  have hfound := find?_of_followLinks ((hstart t rfl).symm.trans h)
  rw [write, h]
  cases place with
  | free directory name =>
    obtain ⟨-, inner, hinner⟩ := hroom
    rw [Place.names, List.dropLast_concat] at hinner
    simp only [hinner]
    rfl
  | taken names node =>
    obtain ⟨old, rfl⟩ := hfile node hfound
    rfl

/-- The second tree is the first but for the file that `p` leads to, which is there with the given
content. -/
structure OnlyWrites (t t' : FileTree) (p : Path) (content : ByteArray) : Prop where
  place : ∃ place : Place, t.place p = .ok place ∧ PutsFile t.root t'.root place.names content
  here : t'.here = t.here
  home : t'.home = t.home
  read : t'.read p = .ok content

/-- A file can be written at a writable path, is read there, and nothing else changes. -/
theorem Writable.exists_onlyWrites (h : t.Writable p) (content : ByteArray) :
    ∃ t', t.write p content = .ok t' ∧ t.OnlyWrites t' p content := by
  obtain ⟨place, hplace, hroom, hfile⟩ := h.exists_place
  obtain ⟨start, -, hstart⟩ := place_eq_followLinks hplace
  have hput : PutsFile t.root (t.root.put (.file content) place.names) place.names content :=
    { before := hfile
      after := find?_put hroom content
      alike := alike_put fun inner hinner => by
        obtain ⟨old, hold⟩ := hfile _ hinner
        cases hold }
  let t' : FileTree := { t with root := t.root.put (.file content) place.names }
  have hplace' : t'.place p = .ok (.taken place.names (.file content)) :=
    (hstart t' rfl).trans
      (followLinks_of_putsFile hput ((hstart t rfl).symm.trans hplace) rfl)
  refine ⟨t', write_eq_ok hplace hroom hfile content, ⟨place, hplace, hput⟩, rfl, rfl, ?_⟩
  rw [read, node, locate, hplace']
  rfl

theorem OnlyWrites.readText {t' : FileTree} {text : String} (h : t.OnlyWrites t' p text.toUTF8) :
    t'.readText p = .ok text := by
  rw [FileTree.readText, h.read]
  simp only [bind, Except.bind, Text.Utf8.fromUTF8?_toUTF8]

theorem Writable.exists_writeText (h : t.Writable p) (text : String) :
    ∃ t', t.writeText p text = .ok t' ∧ t'.readText p = .ok text := by
  obtain ⟨t', hwrite, honly⟩ := h.exists_onlyWrites text.toUTF8
  exact ⟨t', hwrite, honly.readText⟩

theorem writable_of_write {t' : FileTree} {content : ByteArray} (h : t.write p content = .ok t') :
    t.Writable p := by
  rw [write] at h
  split at h
  · next hplace => exact .old hplace
  · cases h
  · next hplace =>
    split at h
    · next inner hinner => exact .new hplace hinner
    · cases h
  · split at h <;> cases h

/-- A write that succeeds changes the file that the path leads to, and no more. -/
theorem onlyWrites_of_write {t' : FileTree} {content : ByteArray}
    (h : t.write p content = .ok t') : t.OnlyWrites t' p content := by
  obtain ⟨other, hother, honly⟩ := (writable_of_write h).exists_onlyWrites content
  rw [h] at hother
  cases hother
  exact honly

end FileTree

end Lapse
