import Mathlib
import Lapse.Calendar.Date

/-!
# Days and their numbers

Every number in the range of the calendar is the number of a day, and the fields that are found for
it are those of the day.
-/
namespace Lapse.Calendar

theorem monthLength_le (leap : Bool) (month : Nat) : monthLength leap month ≤ 31 := by
  rw [monthLength]
  split
  · exact Nat.zero_le _
  · rw [List.getD_eq_getElem?_getD]
    cases h : (monthLengths leap)[month - 1]? with
    | none => exact Nat.zero_le _
    | some length =>
      have hall : ∀ leap, ∀ n ∈ monthLengths leap, n ≤ 31 := by decide
      exact hall leap length (List.mem_of_getElem? h)

theorem month_le_of_monthLength_pos {leap : Bool} {month : Nat}
    (h : 0 < monthLength leap month) : month ≤ 12 := by
  rw [monthLength] at h
  split at h
  · cases h
  · by_contra hmonth
    have hlength : (monthLengths leap).length ≤ month - 1 := by
      show 12 ≤ month - 1
      omega
    rw [List.getD_eq_getElem?_getD, List.getElem?_eq_none hlength] at h
    cases h

namespace Date

theorem month_and_day_lt (d : Date) : d.month < 100 ∧ d.day < 100 := by
  obtain ⟨-, -, hpos, hday⟩ := d.isDay
  have hmonth := month_le_of_monthLength_pos (Nat.lt_of_lt_of_le hpos hday)
  have hlength := monthLength_le (isLeap d.year) d.month
  omega

/-- A year has as many days as its months together. -/
theorem daysBeforeYear_succ (year : Int) :
    daysBeforeYear (year + 1) = daysBeforeYear year + (monthLengths (isLeap year)).sum := by
  have hlengths : ((monthLengths (isLeap year)).sum : Int) = if isLeap year then 366 else 365 := by
    cases isLeap year <;> rfl
  rw [hlengths]
  simp only [daysBeforeYear, isLeap, decide_eq_true_eq]
  split <;> omega

theorem daysBeforeYear_le {year other : Int} (h : year ≤ other) :
    daysBeforeYear year ≤ daysBeforeYear other := by
  simp only [daysBeforeYear]
  omega

/-- The first guess at the year of a day is at most one year off. -/
theorem yearOf_spec (number : Int) :
    daysBeforeYear (yearOf number) < number ∧ number ≤ daysBeforeYear (yearOf number + 1) := by
  have hnear : daysBeforeYear (number * 400 / 146097) < number ∧
      number ≤ daysBeforeYear (number * 400 / 146097 + 1 + 1 + 1) := by
    simp only [daysBeforeYear]
    omega
  rw [yearOf]
  split
  · next h =>
    rw [Int.add_sub_cancel]
    exact ⟨hnear.1, h⟩
  · next hlow =>
    split
    · next h => exact ⟨h, hnear.2⟩
    · next hhigh => exact ⟨Int.not_le.1 hlow, Int.not_lt.1 hhigh⟩

/-- The month that an ordinal falls into, and the days before it. -/
theorem monthAndDay_spec {lengths : List Nat} {month ordinal : Nat} (hpos : 1 ≤ ordinal)
    (hsum : ordinal ≤ lengths.sum) :
    ∃ passed day, monthAndDay lengths month ordinal = (month + passed, day) ∧ 1 ≤ day ∧
      day ≤ lengths.getD passed 0 ∧ passed < lengths.length ∧
      (lengths.take passed).sum + day = ordinal := by
  induction lengths generalizing month ordinal with
  | nil => exact absurd hsum (by simp; omega)
  | cons length lengths ih =>
    rw [monthAndDay]
    split
    · next h => exact ⟨0, ordinal, rfl, hpos, h, Nat.succ_pos _, by simp⟩
    · next h =>
      rw [List.sum_cons] at hsum
      obtain ⟨passed, day, hfields, hday, hlength, hpassed, hordinal⟩ :=
        @ih (month + 1) (ordinal - length) (by omega) (by omega)
      refine ⟨passed + 1, day, ?_, hday, hlength, Nat.succ_lt_succ hpassed, ?_⟩
      · rw [hfields, Nat.add_assoc, Nat.add_comm 1]
      · rw [List.take_succ_cons, List.sum_cons]
        omega

/-- The days of the calendar are numbered without gaps, and the fields found for a number are those
of its day. -/
theorem exists_dayNumber_eq {number : Int} (hlow : daysBeforeYear (-262143) < number)
    (hhigh : number ≤ daysBeforeYear 262143) :
    ∃ d : Date, d.dayNumber = number ∧ fieldsOf number = (d.year, d.month, d.day) := by
  obtain ⟨hafter, hbefore⟩ := yearOf_spec number
  have hyear : -262143 ≤ yearOf number ∧ yearOf number ≤ 262142 := by
    constructor
    · by_contra h
      have hle := daysBeforeYear_le (show yearOf number + 1 ≤ -262143 by omega)
      omega
    · by_contra h
      have hle := daysBeforeYear_le (show 262143 ≤ yearOf number by omega)
      omega
  rw [fieldsOf]
  dsimp only
  generalize yearOf number = year at hafter hbefore hyear ⊢
  rw [daysBeforeYear_succ] at hbefore
  obtain ⟨passed, day, hfields, hday, hlength, hpassed, hordinal⟩ :=
    @monthAndDay_spec (monthLengths (isLeap year)) 1 (number - daysBeforeYear year).toNat
      (by omega) (by omega)
  rw [hfields]
  have hmonth : monthLength (isLeap year) (1 + passed) =
      (monthLengths (isLeap year)).getD passed 0 := by
    rw [monthLength, if_neg (by omega), Nat.add_sub_cancel_left]
  refine ⟨⟨year, 1 + passed, day, hyear.1, hyear.2, hday, hmonth ▸ hlength⟩, ?_, rfl⟩
  have hbeforeMonth : daysBeforeMonth (isLeap year) (1 + passed) =
      ((monthLengths (isLeap year)).take passed).sum := by
    rw [daysBeforeMonth, Nat.add_sub_cancel_left, List.sum_eq_foldl]
  show daysBeforeYear year + daysBeforeMonth (isLeap year) (1 + passed) + day = number
  rw [hbeforeMonth]
  omega

end Date

end Lapse.Calendar
