import Lapse.Proofs.Regex.Commute
import Lapse.Proofs.Regex.Suffix

/-!
# Groups that need not capture

A group that captures and has no name can be written as one that does not capture. What is read is
then the same pattern without that group.
-/
namespace Lapse.Regex

namespace Reader

/-- The parenthesis between the two texts begins a group that captures and has no name, or the
reader does not come to it, since nothing that begins with the first text can be read. -/
inductive BeginsGroup (before after : List Char) : Prop
  | group {s t : State} (hbefore : read? .start before = some s)
    (hgroup : read? .start (before ++ ['(']) = some t) (hcaptures : t.captures = s.captures + 1)
    (hplain : (skip s.flags after).head? ≠ some '?') : BeginsGroup before after
  | fault (h : ∀ text, read? .start (before ++ text) = none) : BeginsGroup before after

/-- Whether the reader comes to the parenthesis and begins such a group there. -/
def beginsGroup? (before after : List Char) : Bool :=
  match read? .start before, read? .start (before ++ ['(']) with
  | some s, some t =>
    t.captures = s.captures + 1 && decide ((skip s.flags after).head? ≠ some '?')
  | _, _ => false

theorem beginsGroup_of_beginsGroup? {before after : List Char}
    (h : beginsGroup? before after = true) : BeginsGroup before after := by
  rw [beginsGroup?] at h
  split at h
  · next s t hbefore hgroup =>
    obtain ⟨hcaptures, hplain⟩ := Bool.and_eq_true_iff.1 h
    exact .group hbefore hgroup (of_decide_eq_true hcaptures) (of_decide_eq_true hplain)
  · cases h

theorem read?_captureGroup {s : State} {text : List Char}
    (h : (skip s.flags text).head? ≠ some '?') :
    read? s ('(' :: text) = read? (s.enterCapture none) text := by
  have hgroup : step? s ('(' :: text) = some (s.enterCapture none, skip s.flags text) := by
    have hstep : step? s ('(' :: text) = readGroup? s text := by simp [step?]
    rw [hstep]
    cases hskip : skip s.flags text with
    | nil => exact readGroup?_of_nil hskip
    | cons c rest => exact readGroup?_of_ne hskip fun e => h (by rw [hskip, e]; rfl)
  rw [read?_of_step (.inr (by decide)) hgroup (skip_suffix _ _).length_le]
  exact read?_skip (s.enterCapture none) text

theorem map_eq_self {α : Type} {f : α → α} {xs : List α} (h : ∀ x ∈ xs, f x = x) :
    xs.map f = xs := (List.map_congr_left (g := id) h).trans (List.map_id xs)

theorem Level.dissolve_eq_self {k : Nat} {level : Level} (h : ∀ g ∈ level.groups, g.1 < k) :
    level.dissolve k = level := by
  have hitem {item : Item} (hitem : item ∈ level.done.reverse ++ level.items.reverse) :
      item.dissolve k = item :=
    Item.dissolve_eq_self fun g hg => h g (List.mem_flatMap.2 ⟨item, hitem, hg⟩)
  have hdone : level.done.map (Item.dissolve k) = level.done :=
    map_eq_self fun item hmem => hitem (by simp [hmem])
  have hitems : level.items.map (Item.dissolve k) = level.items :=
    map_eq_self fun item hmem => hitem (by simp [hmem])
  rw [Level.dissolve, hdone, hitems]

theorem Opening.dissolve_eq_self {k : Nat} {opening : Opening}
    (h : ∀ capture ∈ opening.capture, capture.1 < k) : opening.dissolve k = opening := by
  obtain ⟨_ | capture, flags⟩ := opening
  · rfl
  · have hless : capture.1 < k := h capture rfl
    simp [Opening.dissolve, Nat.ne_of_lt hless, renumber_of_lt hless]

/-- Dissolving the group that has just begun leaves one that does not capture. -/
theorem State.dissolve_enterCapture {s : State} (h : s.InOrder) :
    (s.enterCapture none).dissolve (s.captures + 1) = s.enter none s.flags := by
  have hless {g : Nat × Option String} (hg : g ∈ s.groups) : g.1 < s.captures + 1 :=
    Nat.lt_succ_of_le (h.bound g hg)
  have hlevel : s.level.dissolve (s.captures + 1) = s.level :=
    Level.dissolve_eq_self fun g hg => hless (List.mem_append_right _ hg)
  have houter : s.outer.map (fun parent =>
      (parent.1.dissolve (s.captures + 1), parent.2.dissolve (s.captures + 1))) = s.outer := by
    refine map_eq_self fun parent hparent => ?_
    have hmem {g : Nat × Option String} (hg : g ∈ parent.1.groups ++ parent.2.capture.toList) :
        g.1 < s.captures + 1 :=
      hless (List.mem_append_left _
        (List.mem_flatMap.2 ⟨parent, List.mem_reverse.2 hparent, hg⟩))
    rw [Level.dissolve_eq_self fun g hg => hmem (List.mem_append_left _ hg),
      Opening.dissolve_eq_self fun g hg => hmem (List.mem_append_right _ (by simpa using hg))]
  have hopening (flags : Flags) :
      Opening.dissolve (s.captures + 1) ⟨some (s.captures + 1, none), flags⟩ = ⟨none, flags⟩ := by
    simp [Opening.dissolve]
  rw [enterCapture, enter, State.dissolve, List.map_cons, hlevel, houter, hopening]
  rfl

variable {before after : List Char}

/-- The reader comes to the group with every text that begins with the parenthesis. -/
theorem read?_before {s t : State} (hbefore : read? .start before = some s)
    (hgroup : read? .start (before ++ ['(']) = some t) (hcaptures : t.captures = s.captures + 1)
    (text : List Char) :
    read? .start (before ++ '(' :: text) = read? s ('(' :: text) := by
  have hfresh (text : List Char) : IsFresh ('(' :: text) := ⟨'(', by simp, text, rfl⟩
  rcases read?_append hbefore with hmore | hopen
  · exact hmore _ (hfresh text)
  · have hsame := (hopen ['('] (hfresh []) (by simp)).symm.trans hgroup
    cases hsame
    omega

/-- The group that has just begun is the only one with its number, and it has no name. -/
theorem unnamed_of_enterCapture {s t : State} (h : s.InOrder) {text : List Char} {regex : Regex}
    (hread : read? (s.enterCapture none) text = some t) (hfinish : t.finish? = some regex) :
    ∀ g ∈ regex.groups, g.1 = s.captures + 1 → g.2 = none := by
  have hstart : s.captures + 1 ≤ (s.enterCapture none).captures ∧
      ∀ g ∈ (s.enterCapture none).groups, g.1 = s.captures + 1 → g.2 = none := by
    refine ⟨Nat.le_refl _, fun g hg hk => ?_⟩
    rw [State.groups_enterCapture] at hg
    rcases List.mem_append.1 hg with hg | hg
    · exact absurd hk (Nat.ne_of_lt (Nat.lt_succ_of_le (h.bound g hg)))
    · rw [List.mem_singleton.1 hg]
  have hend := ((preserved_name (s.captures + 1) none).read? hstart hread).2
  intro g hg
  refine hend g ?_
  obtain ⟨hclosed, -, rfl⟩ := State.finish?_eq_some_iff.1 hfinish
  rw [State.groups, hclosed, ← Level.groups_close]
  exact hg

/-- The pattern with a group that need not capture is the one with a group that does, without that
group. -/
theorem exists_dissolve (h : BeginsGroup before after) :
    ∃ k ≠ 0, ofAnySize? (before ++ '(' :: '?' :: ':' :: after) =
        (ofAnySize? (before ++ '(' :: after)).map (dissolve k) ∧
      ∀ regex, ofAnySize? (before ++ '(' :: after) = some regex →
        ∀ g ∈ regex.groups, g.1 = k → g.2 = none := by
  rcases h with ⟨hbefore, hgroup, hcaptures, hplain⟩ | hfault
  · next s t =>
    have horder : s.InOrder := preserved_inOrder.read? State.inOrder_start hbefore
    have hcapturing : read? .start (before ++ '(' :: after) = read? (s.enterCapture none) after :=
      (read?_before hbefore hgroup hcaptures after).trans (read?_captureGroup hplain)
    have hplain : read? .start (before ++ '(' :: '?' :: ':' :: after) =
        (read? (s.enterCapture none) after).map (State.dissolve (s.captures + 1)) := by
      rw [read?_before hbefore hgroup hcaptures, read?_plainGroup,
        ← State.dissolve_enterCapture horder]
      exact (commutes_dissolve (Nat.succ_pos _)).read? (preserved_captures _) (Nat.le_refl _) after
    refine ⟨s.captures + 1, Nat.succ_ne_zero _, ?_, fun regex hregex => ?_⟩
    · rw [ofAnySize?, ofAnySize?, hplain, hcapturing]
      cases read? (s.enterCapture none) after with
      | none => rfl
      | some t => exact finish?_dissolve (s.captures + 1) t
    · rw [ofAnySize?, hcapturing] at hregex
      obtain ⟨t, hread, hfinish⟩ := Option.bind_eq_some_iff.1 hregex
      exact unnamed_of_enterCapture horder hread hfinish
  · refine ⟨1, Nat.one_ne_zero, ?_, fun regex hregex => ?_⟩
    · rw [ofAnySize?, ofAnySize?, hfault, hfault]
      rfl
    · rw [ofAnySize?, hfault] at hregex
      cases hregex

end Reader

end Lapse.Regex
