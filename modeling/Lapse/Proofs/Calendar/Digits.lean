import Mathlib
import Lapse.DateLayout

/-!
# Numbers of a fixed width

A number below `10 ^ width` is written with exactly `width` digits, and among the texts of that
many digits it is the only one with its value. Reading the digits undoes the writing.
-/
namespace Lapse

namespace Calendar.Date

theorem toList_padded (width n : Nat) :
    (padded width n).toList =
      List.replicate (width - (Nat.toDigits 10 n).length) '0' ++ Nat.toDigits 10 n := by
  have hdigits : (toString n).toList = Nat.toDigits 10 n := by
    rw [Nat.toString_eq_repr, Nat.toList_repr]
  have hlength : (toString n).length = (Nat.toDigits 10 n).length := by
    rw [← hdigits, String.length_toList]
  rw [padded, String.toList_append, String.toList_ofList, hdigits, hlength]

theorem length_toList_padded {width n : Nat} (hwidth : 0 < width) (hn : n < 10 ^ width) :
    (padded width n).toList.length = width := by
  have hle := (Nat.length_toDigits_le_iff (show 1 < 10 by decide) hwidth).2 hn
  rw [toList_padded, List.length_append, List.length_replicate]
  omega

theorem isDigit_of_mem_padded {width n : Nat} {c : Char} (h : c ∈ (padded width n).toList) :
    c.isDigit := by
  rw [toList_padded] at h
  rcases List.mem_append.1 h with h | h
  · rw [List.eq_of_mem_replicate h]
    rfl
  · exact Nat.isDigit_of_mem_toDigits (by decide) (by decide) h

theorem ofDigitChars_padded (width n : Nat) :
    Nat.ofDigitChars 10 (padded width n).toList 0 = n := by
  rw [toList_padded, Nat.ofDigitChars_append, Nat.ofDigitChars_replicate_zero, Nat.mul_zero,
    Nat.ofDigitChars_ten_toDigits]

end Calendar.Date

theorem digit_lt_ten {c : Char} (h : c.isDigit) : c.toNat - '0'.toNat < 10 := by
  simp only [Char.isDigit, Bool.and_eq_true, decide_eq_true_eq, ge_iff_le] at h
  have hle : c.toNat ≤ 57 := h.2
  have hzero : '0'.toNat = 48 := rfl
  omega

theorem ofDigitChars_lt {digits : List Char} (h : ∀ c ∈ digits, c.isDigit) :
    Nat.ofDigitChars 10 digits 0 < 10 ^ digits.length := by
  induction digits with
  | nil => exact Nat.zero_lt_one
  | cons c digits ih =>
    obtain ⟨hc, hrest⟩ := List.forall_mem_cons.1 h
    have hdigit := digit_lt_ten hc
    have hlast := ih hrest
    rw [Nat.ofDigitChars_cons, Nat.ofDigitChars_eq_ofDigitChars_zero, Nat.mul_zero, Nat.zero_add]
    calc 10 ^ digits.length * (c.toNat - '0'.toNat) + Nat.ofDigitChars 10 digits 0
        < 10 ^ digits.length * (c.toNat - '0'.toNat + 1) := Nat.add_lt_add_left hlast _
      _ ≤ 10 ^ digits.length * 10 := Nat.mul_le_mul_left _ hdigit

/-- Texts of equally many digits with the same value are the same. -/
theorem eq_of_ofDigitChars_eq {xs ys : List Char} (hxs : ∀ c ∈ xs, c.isDigit)
    (hys : ∀ c ∈ ys, c.isDigit) (hlength : xs.length = ys.length)
    (hvalue : Nat.ofDigitChars 10 xs 0 = Nat.ofDigitChars 10 ys 0) : xs = ys := by
  induction xs generalizing ys with
  | nil => exact (List.length_eq_zero_iff.1 hlength.symm).symm
  | cons x xs ih =>
    cases ys with
    | nil => cases hlength
    | cons y ys =>
      obtain ⟨hx, hxs⟩ := List.forall_mem_cons.1 hxs
      obtain ⟨hy, hys⟩ := List.forall_mem_cons.1 hys
      have hlength := Nat.succ.inj hlength
      have hxs_lt := ofDigitChars_lt hxs
      have hys_lt := ofDigitChars_lt hys
      rw [Nat.ofDigitChars_cons, Nat.ofDigitChars_cons, Nat.ofDigitChars_eq_ofDigitChars_zero,
        Nat.ofDigitChars_eq_ofDigitChars_zero (l := ys), ← hlength, Nat.mul_zero, Nat.zero_add,
        Nat.zero_add] at hvalue
      rw [← hlength] at hys_lt
      -- The first digit is the quotient by the power of ten, the others are the remainder.
      have hfirst := congrArg (· / 10 ^ xs.length) hvalue
      have hothers := congrArg (· % 10 ^ xs.length) hvalue
      simp only [Nat.mul_add_div (Nat.pow_pos (show 0 < 10 by decide)), Nat.div_eq_of_lt hxs_lt,
        Nat.div_eq_of_lt hys_lt, Nat.mul_add_mod, Nat.mod_eq_of_lt hxs_lt,
        Nat.mod_eq_of_lt hys_lt, Nat.add_zero] at hfirst hothers
      have hhead : x = y := by
        have hzero : '0'.toNat = 48 := rfl
        simp only [Char.isDigit, Bool.and_eq_true, decide_eq_true_eq, ge_iff_le] at hx hy
        have hxle : 48 ≤ x.toNat := hx.1
        have hyle : 48 ≤ y.toNat := hy.1
        exact Char.toNat_inj.1 (by omega)
      rw [hhead, ih hxs hys hlength hothers]

/-- A text of digits is what is written for its value. -/
theorem eq_padded_of_digits {digits : List Char} (h : ∀ c ∈ digits, c.isDigit)
    (hne : digits ≠ []) :
    digits = (Calendar.Date.padded digits.length (Nat.ofDigitChars 10 digits 0)).toList := by
  have hlength := Calendar.Date.length_toList_padded (List.length_pos_iff.2 hne) (ofDigitChars_lt h)
  exact eq_of_ofDigitChars_eq h (fun c => Calendar.Date.isDigit_of_mem_padded) hlength.symm
    (Calendar.Date.ofDigitChars_padded _ _).symm

theorem span_isDigit_append {digits rest : List Char} (hdigits : ∀ c ∈ digits, c.isDigit)
    (hrest : ∀ c ∈ rest.head?, ¬ c.isDigit) :
    (digits ++ rest).takeWhile Char.isDigit = digits ∧
      (digits ++ rest).dropWhile Char.isDigit = rest := by
  rw [List.takeWhile_append_of_pos hdigits, List.dropWhile_append_of_pos hdigits]
  cases rest with
  | nil => simp
  | cons c rest =>
    have hc := hrest c rfl
    rw [List.takeWhile_cons_of_neg hc, List.dropWhile_cons_of_neg hc, List.append_nil]
    exact ⟨rfl, rfl⟩

theorem Calendar.decimalValue_eq_ofDigitChars (digits : List Char) :
    decimalValue digits = Nat.ofDigitChars 10 digits 0 := by
  have hstep : (fun n c => n * 10 + decimalDigit c) =
      fun n (c : Char) => 10 * n + (c.toNat - '0'.toNat) := by
    funext n c
    rw [Nat.mul_comm, decimalDigit]
  rw [decimalValue, Nat.ofDigitChars_eq_foldl, hstep]

namespace DateLayout

open Calendar (Date decimalDigit)

theorem readDigits?_append {digits : List Char} (h : ∀ c ∈ digits, c.isDigit) (value : Nat)
    (rest : List Char) :
    readDigits? digits.length value (digits ++ rest) =
      some (Nat.ofDigitChars 10 digits value, rest) := by
  induction digits generalizing value with
  | nil => rfl
  | cons c digits ih =>
    obtain ⟨hc, hrest⟩ := List.forall_mem_cons.1 h
    rw [List.length_cons, List.cons_append, readDigits?, if_pos hc, ih hrest,
      Nat.ofDigitChars_cons, Nat.mul_comm value]
    rfl

theorem exists_of_readDigits? {width value n : Nat} {text rest : List Char}
    (h : readDigits? width value text = some (n, rest)) :
    ∃ digits, digits.length = width ∧ (∀ c ∈ digits, c.isDigit) ∧ text = digits ++ rest ∧
      n = Nat.ofDigitChars 10 digits value := by
  induction width generalizing value text with
  | zero =>
    cases h
    exact ⟨[], rfl, by simp, rfl, rfl⟩
  | succ width ih =>
    cases text with
    | nil => cases h
    | cons c text =>
      rw [readDigits?] at h
      split at h
      · next hc =>
        obtain ⟨digits, hlength, hall, rfl, rfl⟩ := ih h
        refine ⟨c :: digits, congrArg _ hlength, List.forall_mem_cons.2 ⟨hc, hall⟩, rfl, ?_⟩
        rw [Nat.ofDigitChars_cons, Nat.mul_comm 10]
        rfl
      · cases h

/-- A number of a fixed width is read exactly where it is written with that many digits. -/
theorem readDigits?_eq_some_iff {width n : Nat} (hwidth : 0 < width) {text rest : List Char} :
    readDigits? width 0 text = some (n, rest) ↔
      n < 10 ^ width ∧ text = (Date.padded width n).toList ++ rest := by
  constructor
  · intro h
    obtain ⟨digits, rfl, hall, rfl, rfl⟩ := exists_of_readDigits? h
    have hne : digits ≠ [] := List.length_pos_iff.1 hwidth
    exact ⟨ofDigitChars_lt hall, congrArg (· ++ rest) (eq_padded_of_digits hall hne)⟩
  · rintro ⟨hn, htext⟩
    have hall : ∀ c ∈ (Date.padded width n).toList, c.isDigit :=
      fun c => Date.isDigit_of_mem_padded
    have hread := readDigits?_append hall 0 rest
    rwa [Date.length_toList_padded hwidth hn, Date.ofDigitChars_padded, ← htext] at hread

end DateLayout

end Lapse
