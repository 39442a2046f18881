import Mathlib
import Lapse.Proofs.Path.Absolute

/-!
# The last name of a path

The file name of a path is its last name, behind which only slashes and single dots may stand. Its
extension is what stands behind the last dot of that name, when the dot does not come first.
-/
namespace Lapse

namespace Text

variable {α : Type} [DecidableEq α] {mark : α}

theorem eq_append_flatMap_of_splitAll {xs first : List α} {rest : List (List α)}
    (h : splitAll mark xs = first :: rest) : xs = first ++ rest.flatMap (mark :: ·) := by
  induction xs generalizing first rest with
  | nil =>
    cases h
    rfl
  | cons a xs ih =>
    by_cases ha : a = mark
    · rw [splitAll, if_pos ha, List.cons.injEq] at h
      obtain ⟨rfl, hrest⟩ := h
      cases rest with
      | nil => exact absurd hrest (splitAll_ne_nil mark xs)
      | cons next rest =>
        rw [ih hrest, ha]
        rfl
    · obtain ⟨part, parts, hxs, hall⟩ := splitAll_cons_of_ne ha xs
      rw [hall, List.cons.injEq] at h
      obtain ⟨rfl, rfl⟩ := h
      rw [ih hxs]
      rfl

theorem splitAll_append_flatMap {parts : List (List α)} (h : ∀ part ∈ parts, mark ∉ part)
    (xs : List α) :
    splitAll mark (xs ++ parts.flatMap (mark :: ·)) = splitAll mark xs ++ parts := by
  induction parts generalizing xs with
  | nil => simp
  | cons part parts ih =>
    obtain ⟨hpart, hparts⟩ := List.forall_mem_cons.1 h
    rw [List.flatMap_cons, List.cons_append, splitAll_append_cons, ih hparts,
      splitAll_of_not_mem hpart]
    rfl

end Text

namespace Path

/-- The path is written with `name` at its end, up to slashes and single dots behind it. -/
structure EndsIn (p : Path) (name : FileName) : Prop where
  not_mem : slash ∉ name
  isName : name ≠ [] ∧ name ≠ [dot] ∧ name ≠ [dot, dot]
  written : ∃ (front : List UInt8) (parts : List FileName),
    (front = [] ∨ front.getLast? = some slash) ∧ (∀ part ∈ parts, part = [] ∨ part = [dot]) ∧
    p.bytes = front ++ name ++ parts.flatMap (slash :: ·)

variable {p : Path} {name : FileName}

theorem ofPart?_eq_some_normal_iff {part : FileName} :
    Component.ofPart? part = some (.normal name) ↔
      part = name ∧ name ≠ [] ∧ name ≠ [dot] ∧ name ≠ [dot, dot] := by
  rw [Component.ofPart?]
  grind

theorem ofPart?_eq_none_iff {part : FileName} :
    Component.ofPart? part = none ↔ part = [] ∨ part = [dot] := by
  rw [Component.ofPart?]
  grind

theorem fileName?_eq_some : p.fileName? = some name ↔ p.names.getLast? = some (.normal name) := by
  have hlast : p.fileName? = some name ↔ p.components.getLast? = some (.normal name) := by
    rw [fileName?]
    grind
  rw [hlast, components_eq, List.getLast?_append, Option.or_eq_some_iff, or_iff_left_iff_imp]
  rintro ⟨-, hlead⟩
  rcases mem_lead (List.mem_of_getLast? hlead) with h | h <;> cases h

theorem EndsIn.fileName? (h : p.EndsIn name) : p.fileName? = some name := by
  obtain ⟨front, parts, hfront, hparts, hbytes⟩ := h.written
  have hfree : ∀ part ∈ parts, slash ∉ part := by
    intro part hpart
    rcases hparts part hpart with rfl | rfl <;> decide
  have hnone : parts.filterMap Component.ofPart? = [] :=
    List.filterMap_eq_nil_iff.2 fun part hpart => ofPart?_eq_none_iff.2 (hparts part hpart)
  have hname : Component.ofPart? name = some (.normal name) :=
    ofPart?_eq_some_normal_iff.2 ⟨rfl, h.isName⟩
  have hsplit : ∃ before, Text.splitAll slash (front ++ name) = before ++ [name] := by
    rcases hfront with rfl | hslash
    · exact ⟨[], Text.splitAll_of_not_mem h.not_mem⟩
    · obtain ⟨above, rfl⟩ := List.getLast?_eq_some_iff.1 hslash
      refine ⟨Text.splitAll slash above, ?_⟩
      rw [List.append_assoc, List.singleton_append, Text.splitAll_append_cons,
        Text.splitAll_of_not_mem h.not_mem]
  obtain ⟨before, hbefore⟩ := hsplit
  rw [fileName?_eq_some, names, hbytes, Text.splitAll_append_flatMap hfree, hbefore,
    List.filterMap_append, hnone, List.append_nil, List.filterMap_append]
  simp [hname]

theorem endsIn_of_fileName? (h : p.fileName? = some name) : p.EndsIn name := by
  obtain ⟨above, habove⟩ := List.getLast?_eq_some_iff.1 (fileName?_eq_some.1 h)
  obtain ⟨before, after, hsplit, -, hafter⟩ := List.filterMap_eq_append_iff.1 habove
  obtain ⟨skipped, part, parts, rfl, -, hpart, hparts⟩ := List.filterMap_eq_cons_iff.1 hafter
  obtain ⟨rfl, hname⟩ := ofPart?_eq_some_normal_iff.1 hpart
  have hmem : part ∈ Text.splitAll slash p.bytes := by simp [hsplit]
  refine ⟨Text.not_mem_of_mem_splitAll hmem, hname, ?_⟩
  have hrest : ∀ part ∈ parts, part = [] ∨ part = [dot] := fun part hpart =>
    ofPart?_eq_none_iff.1 (List.filterMap_eq_nil_iff.1 hparts part hpart)
  rw [← List.append_assoc] at hsplit
  cases hfront : before ++ skipped with
  | nil =>
    rw [hfront] at hsplit
    exact ⟨[], parts, .inl rfl, hrest, Text.eq_append_flatMap_of_splitAll hsplit⟩
  | cons first between =>
    rw [hfront] at hsplit
    refine ⟨first ++ between.flatMap (slash :: ·) ++ [slash], parts, .inr (by simp), hrest, ?_⟩
    rw [Text.eq_append_flatMap_of_splitAll hsplit]
    simp

theorem fileName?_eq_some_iff : p.fileName? = some name ↔ p.EndsIn name :=
  ⟨endsIn_of_fileName?, EndsIn.fileName?⟩

theorem takeWhile_reverse (front : List UInt8) {ext : FileName} (h : dot ∉ ext) :
    (front ++ dot :: ext).reverse.takeWhile (· ≠ dot) = ext.reverse := by
  have hext : ∀ b ∈ ext.reverse, decide (b ≠ dot) = true := by
    intro b hb
    refine decide_eq_true ?_
    rintro rfl
    exact h (List.mem_reverse.1 hb)
  rw [List.reverse_append, List.reverse_cons, List.append_assoc,
    List.takeWhile_append_of_pos hext]
  simp

theorem eq_of_last_dot {front front' ext ext' : FileName} (h : dot ∉ ext) (h' : dot ∉ ext')
    (heq : front ++ dot :: ext = front' ++ dot :: ext') : ext = ext' := by
  have hreverse := takeWhile_reverse front h
  rw [heq, takeWhile_reverse front' h'] at hreverse
  exact List.reverse_injective hreverse.symm

theorem exists_of_takeWhile_reverse {after : List UInt8}
    (h : name.reverse.takeWhile (· ≠ dot) = after) (hlength : after.length < name.length) :
    ∃ front, name = front ++ dot :: after.reverse ∧ dot ∉ after.reverse := by
  have hfree : dot ∉ after.reverse := by
    intro hdot
    rw [← h] at hdot
    simpa using List.mem_takeWhile_imp (List.mem_reverse.1 hdot)
  have hname := List.takeWhile_append_dropWhile (p := (· ≠ dot)) (l := name.reverse)
  rw [h] at hname
  cases hrest : name.reverse.dropWhile (· ≠ dot) with
  | nil =>
    rw [hrest, List.append_nil] at hname
    rw [hname, List.length_reverse] at hlength
    exact absurd hlength (lt_irrefl _)
  | cons b rest =>
    have hdot : b = dot := by
      have hhead := List.head?_dropWhile_not (· ≠ dot) name.reverse
      rw [hrest] at hhead
      simpa using hhead
    rw [hrest, hdot] at hname
    refine ⟨rest.reverse, ?_, hfree⟩
    calc name = (after ++ dot :: rest).reverse := by rw [hname, List.reverse_reverse]
      _ = rest.reverse ++ dot :: after.reverse := by simp

theorem extension?_eq_some_iff {ext : FileName} :
    extension? name = some ext ↔
      name ≠ [dot, dot] ∧ ∃ front, front ≠ [] ∧ name = front ++ dot :: ext ∧ dot ∉ ext := by
  rw [extension?]
  constructor
  · intro h
    split at h
    · cases h
    next hparent =>
    split at h
    next hlength =>
      obtain ⟨front, hname, hfree⟩ := exists_of_takeWhile_reverse rfl (Nat.lt_of_succ_lt hlength)
      cases h
      refine ⟨hparent, front, ?_, hname, hfree⟩
      rintro rfl
      have hlong := congrArg List.length hname
      simp only [List.nil_append, List.length_cons, List.length_reverse] at hlong
      omega
    · cases h
  · rintro ⟨hparent, front, hfront, rfl, hfree⟩
    have hlength := List.length_pos_iff.2 hfront
    rw [if_neg hparent, takeWhile_reverse front hfree, if_pos, List.reverse_reverse]
    simpa using hlength

end Path

end Lapse
