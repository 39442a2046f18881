import Mathlib.Data.List.Forall2
import Lapse.Proofs.Regex.Reading

/-!
# Patterns that grow

The parts of a group with more or higher items do not stand less deep.
-/
namespace Lapse.Regex.Reader

/-- One part of a sequence against another that is at least as high. -/
def Item.Le (a b : Item) : Prop := a.height ≤ b.height

/-- Items that can be repeated alike. -/
structure Item.Like (a b : Item) : Prop where
  le : a.Le b
  repeatable : a.repeatable = b.repeatable

theorem Item.Like.refl (a : Item) : a.Like a := ⟨Nat.le_refl _, rfl⟩

theorem Item.Like.regexes (a b : Regex) (height : Nat) :
    (⟨a, height, true⟩ : Item).Like ⟨b, height, true⟩ := ⟨Nat.le_refl _, rfl⟩

theorem exists_le_of_mem {items others : List Item} (h : List.Forall₂ Item.Le items others)
    {x : Item} (hx : x ∈ items) : ∃ y ∈ others, x.Le y := by
  induction h with
  | nil => cases hx
  | @cons a b items others hab _ ih =>
    rcases List.mem_cons.1 hx with rfl | hx
    · exact ⟨b, List.mem_cons_self, hab⟩
    · obtain ⟨y, hy, hle⟩ := ih hx
      exact ⟨y, List.mem_cons_of_mem _ hy, hle⟩

namespace Level

theorem le_foldl_max {heights : List Nat} {x : Nat} (first : Nat) (h : x ∈ heights) :
    x ≤ heights.foldl max first := by
  induction heights generalizing first with
  | nil => cases h
  | cons y heights ih =>
    rw [List.foldl_cons]
    rcases List.mem_cons.1 h with rfl | h
    · clear ih h
      have hmono (n : Nat) : n ≤ heights.foldl max n := by
        induction heights generalizing n with
        | nil => exact Nat.le_refl _
        | cons z heights ih => exact Nat.le_trans (Nat.le_max_left n z) (ih _)
      exact Nat.le_trans (Nat.le_max_right first x) (hmono _)
    · exact ih _ h

/-- Every height on the left is reached on the right. -/
theorem foldl_max_le_foldl_max {items others : List Item}
    (h : ∀ x ∈ items, ∃ y ∈ others, x.Le y) :
    (items.map (·.height)).foldl max 0 ≤ (others.map (·.height)).foldl max 0 := by
  refine foldl_max_le (Nat.zero_le _) fun n hn => ?_
  obtain ⟨x, hx, rfl⟩ := List.mem_map.1 hn
  obtain ⟨y, hy, hle⟩ := h x hx
  exact Nat.le_trans hle (le_foldl_max 0 (List.mem_map_of_mem hy))

theorem height_current_mono {a b : Level} (hlength : a.items.length ≤ b.items.length)
    (h : ∀ x ∈ a.items, ∃ y ∈ b.items, x.Le y) : a.current.Le b.current := by
  have hmax := foldl_max_le_foldl_max h
  rcases a with ⟨done, _ | ⟨x, _ | ⟨x', items⟩⟩⟩
  · exact Nat.zero_le _
  · obtain ⟨y, hy, hle⟩ := h x List.mem_cons_self
    rcases b with ⟨done', _ | ⟨y', _ | ⟨y'', others⟩⟩⟩
    · cases hy
    · cases List.mem_singleton.1 hy
      exact hle
    · exact Nat.le_succ_of_le (Nat.le_trans hle (le_foldl_max 0 (List.mem_map_of_mem hy)))
  · rcases b with ⟨done', _ | ⟨y', _ | ⟨y'', others⟩⟩⟩
    · exact absurd hlength (by simp)
    · exact absurd hlength (by simp)
    · exact Nat.succ_le_succ hmax

/-- A group against another with further items in the current alternative. -/
structure Le (a b : Level) : Prop where
  items : ∃ items, List.Forall₂ Item.Le a.items items ∧ items.Sublist b.items
  done : List.Forall₂ Item.Le a.done b.done

theorem Le.current {a b : Level} (h : a.Le b) : a.current.Le b.current := by
  obtain ⟨items, hle, hsub⟩ := h.items
  refine height_current_mono (hle.length_eq ▸ hsub.length_le) fun x hx => ?_
  obtain ⟨y, hy, hxy⟩ := exists_le_of_mem hle hx
  exact ⟨y, hsub.subset hy, hxy⟩

theorem Le.close {a b : Level} (h : a.Le b) : a.close.Le b.close := by
  have hall : List.Forall₂ Item.Le (a.current :: a.done).reverse (b.current :: b.done).reverse :=
    List.rel_reverse (.cons h.current h.done)
  have hmax := foldl_max_le_foldl_max fun x hx => exists_le_of_mem hall hx
  have hcurrent := h.current
  have hdone := h.done
  rcases a with ⟨_ | ⟨x, done⟩, items⟩
  · rcases b with ⟨_ | ⟨y, done'⟩, items'⟩
    · exact hcurrent
    · cases hdone
  · rcases b with ⟨_ | ⟨y, done'⟩, items'⟩
    · cases hdone
    · exact Nat.succ_le_succ hmax

/-- The last item alone. -/
theorem singleton_le {x y : Item} {b : Level} (h : x.Le y) (hdone : b.done = [])
    (hmem : y ∈ b.items) : Le ⟨[], [x]⟩ b :=
  ⟨⟨[y], .cons h .nil, List.singleton_sublist.2 hmem⟩, by rw [hdone]; exact .nil⟩

theorem current_like {a b : Level} (h : List.Forall₂ Item.Like a.items b.items) :
    a.current.Like b.current := by
  have hle : Le ⟨[], a.items⟩ ⟨[], b.items⟩ :=
    ⟨⟨b.items, h.imp fun _ _ h => h.le, List.Sublist.refl _⟩, .nil⟩
  refine ⟨hle.current, ?_⟩
  obtain ⟨done, items⟩ := a
  obtain ⟨done', items'⟩ := b
  cases h with
  | nil => rfl
  | cons hxy hrest =>
    cases hrest with
    | nil => exact hxy.repeatable
    | cons => rfl

theorem close_like {a b : Level} (hitems : List.Forall₂ Item.Like a.items b.items)
    (hdone : List.Forall₂ Item.Like a.done b.done) : a.close.Like b.close := by
  have hle : a.Le b := ⟨⟨b.items, hitems.imp fun _ _ h => h.le, List.Sublist.refl _⟩,
    hdone.imp fun _ _ h => h.le⟩
  refine ⟨hle.close, ?_⟩
  have hcurrent := current_like hitems
  obtain ⟨done, items⟩ := a
  obtain ⟨done', items'⟩ := b
  cases hdone with
  | nil => exact hcurrent.repeatable
  | cons => rfl

end Level

end Lapse.Regex.Reader
