import Mathlib.Data.Nat.Bitwise
import Lapse.Text.Intervals

/-!
# Intervals as bits

Searching ascending ends by halving counts the ends at or below a character. The set of a table is
also the set of bits of one number, in which each end turns all lower bits.
-/
namespace Lapse.Text

theorem getD_le_iff {ends : List Nat} (h : ends.Pairwise (· ≤ ·)) (x : Nat) {i : Nat}
    (hi : i < ends.length) : ends.getD i 0 ≤ x ↔ i < ends.countP (· ≤ x) := by
  induction ends generalizing i with
  | nil => cases hi
  | cons e ends ih =>
    obtain ⟨hfirst, hends⟩ := List.pairwise_cons.1 h
    by_cases he : e ≤ x
    · cases i with
      | zero => simp [he]
      | succ i => simpa [he] using ih hends (Nat.lt_of_succ_lt_succ hi)
    · have hnone : ends.countP (· ≤ x) = 0 := by
        rw [List.countP_eq_zero]
        intro y hy
        have := hfirst y hy
        simp only [decide_eq_true_eq]
        omega
      have hlarge : ¬ (e :: ends).getD i 0 ≤ x := by
        cases i with
        | zero => exact he
        | succ i =>
          have hi := Nat.lt_of_succ_lt_succ hi
          have := hfirst _ (List.getElem_mem hi)
          rw [List.getD_cons_succ, List.getD_eq_getElem _ _ hi]
          omega
      rw [List.countP_cons_of_neg (by simpa using he), hnone]
      exact iff_of_false hlarge (Nat.not_lt_zero i)

theorem countAtMost_eq_countP {ends : Array Nat} (h : ends.toList.Pairwise (· ≤ ·)) {x : Nat}
    {fuel lo hi : Nat} (hfuel : hi ≤ lo + fuel) (hlo : lo ≤ ends.toList.countP (· ≤ x))
    (hhi : ends.toList.countP (· ≤ x) ≤ hi) (hsize : hi ≤ ends.size) :
    countAtMost ends x fuel lo hi = ends.toList.countP (· ≤ x) := by
  induction fuel generalizing lo hi with
  | zero =>
    rw [countAtMost]
    omega
  | succ fuel ih =>
    rw [countAtMost]
    split
    · next hlt =>
      have hmid : (lo + hi) / 2 < ends.toList.length := by
        rw [Array.length_toList]
        omega
      have hget : ends.getD ((lo + hi) / 2) 0 = ends.toList.getD ((lo + hi) / 2) 0 := by
        simp [Array.getD_eq_getD_getElem?]
      have hiff := getD_le_iff h x hmid
      rw [← hget] at hiff
      dsimp only
      split
      · next hle => exact ih (by omega) (hiff.1 hle) hhi hsize
      · next hle =>
        have := mt hiff.2 hle
        exact ih (by omega) hlo (by omega) (by omega)
    · omega

/-- A member of an ascending list stands last among what does not exceed it. -/
theorem getElem?_countP_sub_one {keys : List Nat} (h : keys.Pairwise (· ≤ ·)) {x : Nat}
    (hx : x ∈ keys) : keys[keys.countP (· ≤ x) - 1]? = some x := by
  obtain ⟨j, hj, rfl⟩ := List.mem_iff_getElem.1 hx
  have hcount := List.countP_le_length (p := (· ≤ keys[j])) (l := keys)
  have hbefore : j < keys.countP (· ≤ keys[j]) := by
    rw [← getD_le_iff h keys[j] hj, List.getD_eq_getElem _ _ hj]
  have hlast : keys.countP (· ≤ keys[j]) - 1 < keys.length := by omega
  have hle := (getD_le_iff h keys[j] hlast).2 (by omega)
  rw [List.getD_eq_getElem _ _ hlast] at hle
  have hge : keys[j] ≤ keys[keys.countP (· ≤ keys[j]) - 1] := by
    rcases Nat.lt_or_ge j (keys.countP (· ≤ keys[j]) - 1) with hlt | hge
    · exact List.pairwise_iff_getElem.1 h _ _ _ _ hlt
    · have hj' : keys.countP (· ≤ keys[j]) - 1 = j := by omega
      simp only [hj', Nat.le_refl]
  rw [List.getElem?_eq_getElem hlast, Nat.le_antisymm hle hge]

/-- One number for the ends: each turns the bits below it. -/
def bitsOf (ends : List Nat) : Nat := ends.foldr (fun e bits => bits ^^^ (2 ^ e - 1)) 0

theorem testBit_bitsOf (ends : List Nat) (x : Nat) :
    (bitsOf ends).testBit x = decide (ends.countP (x < ·) % 2 = 1) := by
  induction ends with
  | nil => simp [bitsOf]
  | cons e ends ih =>
    have hbits : bitsOf (e :: ends) = bitsOf ends ^^^ (2 ^ e - 1) := rfl
    rw [hbits, Nat.testBit_xor, ih, Nat.testBit_two_pow_sub_one, List.countP_cons]
    by_cases he : x < e
    · rcases Nat.mod_two_eq_zero_or_one (ends.countP (x < ·)) with hparity | hparity
      · simp [he, hparity, Nat.add_mod]
      · simp [he, hparity, Nat.add_mod]
    · simp [he]

theorem Intervals.contains_eq_testBit {t : Intervals} (h : t.ends.toList.Pairwise (· ≤ ·))
    (heven : t.ends.size % 2 = 0) (c : Char) :
    t.contains c = (bitsOf t.ends.toList).testBit c.toNat := by
  have hcount : t.ends.size =
      t.ends.toList.countP (· ≤ c.toNat) + t.ends.toList.countP (c.toNat < ·) := by
    rw [← Array.length_toList, List.length_eq_countP_add_countP (· ≤ c.toNat)]
    simp
  rw [testBit_bitsOf, Intervals.contains,
    countAtMost_eq_countP h (Nat.le_add_left _ _) (Nat.zero_le _) (by omega) (Nat.le_refl _),
    decide_eq_decide]
  omega

/-- The ends that lie at these distances from one another. -/
def endsAt : (last : Nat) → (distances : List Nat) → List Nat
  | _, [] => []
  | last, distance :: distances => (last + distance) :: endsAt (last + distance) distances

theorem pairwise_endsAt (last : Nat) (distances : List Nat) :
    (endsAt last distances).Pairwise (· ≤ ·) ∧ ∀ e ∈ endsAt last distances, last ≤ e := by
  induction distances generalizing last with
  | nil => simp [endsAt]
  | cons distance distances ih =>
    obtain ⟨hpairwise, hle⟩ := ih (last + distance)
    refine ⟨List.pairwise_cons.2 ⟨hle, hpairwise⟩, fun e he => ?_⟩
    rcases List.mem_cons.1 he with rfl | he
    · exact Nat.le_add_right _ _
    · exact (Nat.le_add_right _ _).trans (hle e he)

def distancesOf (lines : List String) : List Nat :=
  (lines.flatMap fun line => words line.toList).map hexValue

/-- A fold that adds one end for each word. -/
theorem toList_foldl_ends {step : Array Nat × Nat → List Char → Array Nat × Nat}
    (hstep : ∀ ends last word,
      step (ends, last) word = (ends.push (last + hexValue word), last + hexValue word))
    (entries : List (List Char)) (ends : Array Nat) (last : Nat) :
    (entries.foldl step (ends, last)).1.toList =
      ends.toList ++ endsAt last (entries.map hexValue) := by
  induction entries generalizing ends last with
  | nil => simp [endsAt]
  | cons entry entries ih =>
    rw [List.foldl_cons, hstep, ih, List.map_cons, endsAt, Array.toList_push, List.append_assoc,
      List.singleton_append]

theorem Intervals.ends_ofLines (lines : List String) :
    (Intervals.ofLines lines).ends.toList = endsAt 0 (distancesOf lines) :=
  toList_foldl_ends (fun _ _ _ => rfl) _ #[] 0

end Lapse.Text
