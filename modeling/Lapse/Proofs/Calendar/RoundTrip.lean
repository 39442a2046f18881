import Mathlib
import Lapse.Calendar.Instant
import Lapse.Proofs.Calendar.DayNumber
import Lapse.Proofs.Calendar.Digits

/-!
# Dates and instants read back

Every date is read back from its text, and every instant in the years of the calendar from its own,
to the nanosecond.
-/
namespace Lapse.Calendar

variable {c : Char} {text rest digits : List Char}

theorem not_isBlank_of_isDigit (hc : c.isDigit) : ¬ Text.isBlank c := by
  intro hblank
  simp only [Text.isBlank, decide_eq_true_eq] at hblank
  have hrange : 48 ≤ c.toNat ∧ c.toNat ≤ 57 := by
    simp only [Char.isDigit, Bool.and_eq_true, decide_eq_true_eq, ge_iff_le] at hc
    exact hc
  rcases hblank with ⟨-, h⟩ | rfl | rfl | rfl | rfl | ⟨h, -⟩ | rfl | rfl | rfl | rfl | rfl
  · have hle : c.toNat ≤ 13 := h
    omega
  · exact absurd hc (by decide)
  · exact absurd hc (by decide)
  · exact absurd hc (by decide)
  · exact absurd hc (by decide)
  · have hle : 8192 ≤ c.toNat := h
    omega
  · exact absurd hc (by decide)
  · exact absurd hc (by decide)
  · exact absurd hc (by decide)
  · exact absurd hc (by decide)
  · exact absurd hc (by decide)

theorem trimStart_cons (hc : ¬ Text.isBlank c) : Text.trimStart (c :: rest) = c :: rest :=
  List.dropWhile_cons_of_neg hc

/-- Digits are read up to the most that may be read or up to something else. -/
theorem readNumber?_append {most : Nat} (hdigits : ∀ c ∈ digits, c.isDigit) (hne : digits ≠ [])
    (hmost : digits.length = most ∨ digits.length ≤ most ∧ ∀ c ∈ rest.head?, ¬ c.isDigit) :
    readNumber? most (digits ++ rest) = some (Nat.ofDigitChars 10 digits 0, rest) := by
  have htrim : Text.trimStart (digits ++ rest) = digits ++ rest := by
    obtain ⟨c, more, rfl⟩ := List.exists_cons_of_ne_nil hne
    exact trimStart_cons (not_isBlank_of_isDigit (hdigits c List.mem_cons_self))
  have hhead : ∀ c ∈ (rest.take (most - digits.length)).head?, ¬ c.isDigit := by
    rcases hmost with hmost | ⟨-, hrest⟩
    · simp [hmost]
    · intro c hc
      rw [List.head?_take] at hc
      split at hc
      · cases hc
      · exact hrest c hc
  have htake : ((digits ++ rest).take most).takeWhile Char.isDigit = digits := by
    have hle : digits.length ≤ most := hmost.elim Nat.le_of_eq And.left
    rw [List.take_append, List.take_of_length_le hle, (span_isDigit_append hdigits hhead).1]
  have hempty : ¬ digits.isEmpty := by simpa using hne
  rw [readNumber?, htrim, htake, if_neg hempty, List.drop_left, decimalValue_eq_ofDigitChars]

theorem readNumber?_padded {width n : Nat} (hwidth : 0 < width) (hn : n < 10 ^ width)
    (rest : List Char) :
    readNumber? width ((Date.padded width n).toList ++ rest) = some (n, rest) := by
  have hlength := Date.length_toList_padded hwidth hn
  have hne : (Date.padded width n).toList ≠ [] := by
    intro h
    rw [h] at hlength
    exact absurd hlength (Nat.ne_of_lt hwidth)
  rw [readNumber?_append (fun _ => Date.isDigit_of_mem_padded) hne (.inl hlength),
    Date.ofDigitChars_padded]

theorem readMark?_cons (hc : ¬ Text.isBlank c) (rest : List Char) :
    readMark? c (c :: rest) = some rest := by
  rw [readMark?, trimStart_cons hc]
  exact if_pos rfl

theorem exists_padded_eq (width n : Nat) :
    ∃ c more, (Date.padded width n).toList = c :: more ∧ c.isDigit := by
  have hne : (Date.padded width n).toList ≠ [] := by
    rw [Date.toList_padded]
    simp
  obtain ⟨c, more, h⟩ := List.exists_cons_of_ne_nil hne
  exact ⟨c, more, h, Date.isDigit_of_mem_padded (h ▸ List.mem_cons_self)⟩

/-- Any number of digits is read as a year after a sign. -/
theorem readNumber?_padded_hyphen (width n : Nat) (rest : List Char) :
    readNumber? ((Date.padded width n).toList ++ '-' :: rest).length
      ((Date.padded width n).toList ++ '-' :: rest) = some (n, '-' :: rest) := by
  obtain ⟨c, more, hdigits, -⟩ := exists_padded_eq width n
  rw [readNumber?_append (fun _ => Date.isDigit_of_mem_padded) (by rw [hdigits]; simp)
    (.inr ⟨by simp, by simp⟩), Date.ofDigitChars_padded]

theorem readYear?_minus (rest : List Char) :
    readYear? ('-' :: rest) = if rest.head?.any Char.isDigit then
      (readNumber? rest.length rest).map fun (n, rest) => (-(n : Int), rest) else none := rfl

theorem readYear?_plus (rest : List Char) :
    readYear? ('+' :: rest) = if rest.head?.any Char.isDigit then
      (readNumber? rest.length rest).map fun (n, rest) => ((n : Int), rest) else none := rfl

theorem readYear?_yearText (year : Int) (rest : List Char) :
    readYear? ((Date.yearText year).toList ++ '-' :: rest) = some (year, '-' :: rest) := by
  have hsigned := readNumber?_padded_hyphen 4 year.natAbs rest
  obtain ⟨c, more, hdigits, hc⟩ := exists_padded_eq 4 year.natAbs
  have hhead : ((Date.padded 4 year.natAbs).toList ++ '-' :: rest).head?.any Char.isDigit := by
    rw [hdigits]
    exact hc
  rw [Date.yearText]
  split
  · next hnegative =>
    have hminus : "-".toList = ['-'] := rfl
    rw [String.toList_append, hminus, List.singleton_append, List.cons_append, readYear?_minus,
      if_pos hhead, hsigned]
    have hyear : -(year.natAbs : Int) = year := by omega
    exact congrArg (fun y => some (y, '-' :: rest)) hyear
  split
  · next hlarge =>
    have hplus : "+".toList = ['+'] := rfl
    rw [String.toList_append, hplus, List.singleton_append, List.cons_append, readYear?_plus,
      if_pos hhead, hsigned]
    have hyear : (year.natAbs : Int) = year := by omega
    exact congrArg (fun y => some (y, '-' :: rest)) hyear
  · next hnonnegative hsmall =>
    have hread := @readNumber?_padded 4 year.natAbs (by decide) (by omega) ('-' :: rest)
    have hyear : (year.natAbs : Int) = year := by omega
    have hne {d : Char} (hd : ¬ d.isDigit) : c ≠ d := fun h => hd (h ▸ hc)
    rw [hdigits, List.cons_append] at hread ⊢
    rw [readYear?, trimStart_cons (not_isBlank_of_isDigit hc)]
    split
    · next h => exact absurd (List.cons.inj h).1 (hne (by decide))
    · next h => exact absurd (List.cons.inj h).1 (hne (by decide))
    · rw [hread]
      exact congrArg (fun y => some (y, '-' :: rest)) hyear

theorem readDate?_text (d : Date) (rest : List Char) :
    readDate? (d.text.toList ++ rest) = some (d, rest) := by
  obtain ⟨hmonth, hday⟩ := d.month_and_day_lt
  have htext : d.text.toList ++ rest = (Date.yearText d.year).toList ++ '-' ::
      ((Date.padded 2 d.month).toList ++ '-' :: ((Date.padded 2 d.day).toList ++ rest)) := by
    simp [Date.text, Date.fieldsText]
  rw [htext, readDate?, readYear?_yearText]
  simp only [Option.bind_eq_bind, Option.bind_some, readMark?_cons (c := '-') (by decide),
    readNumber?_padded (show 0 < 2 by decide) hmonth,
    readNumber?_padded (show 0 < 2 by decide) hday]
  rw [Date.of?, dif_pos d.isDay]
  rfl

/-- Every date is read back from its text. -/
theorem Date.ofText?_text (d : Date) : Date.ofText? d.text = some d := by
  have hread := readDate?_text d []
  rw [List.append_nil] at hread
  rw [Date.ofText?, hread]
  rfl

namespace Instant

/-- The instants from the first second of the calendar to its last one. -/
def InCalendar (t : Instant) : Prop := -8334601228800 ≤ t.seconds ∧ t.seconds ≤ 8210266876799

instance (t : Instant) : Decidable t.InCalendar := inferInstanceAs (Decidable (_ ∧ _))

theorem exists_day {t : Instant} (h : t.InCalendar) :
    ∃ d : Date, d.dayNumber = t.seconds / secondsPerDay + epochDay ∧
      Date.fieldsOf (t.seconds / secondsPerDay + epochDay) = (d.year, d.month, d.day) := by
  have hfirst : Date.daysBeforeYear (-262143) = -95746130 := by decide
  have hlast : Date.daysBeforeYear 262143 = 95745399 := by decide
  refine Date.exists_dayNumber_eq ?_ ?_
  · rw [hfirst, secondsPerDay, epochDay]
    obtain ⟨hlow, -⟩ := h
    omega
  · rw [hlast, secondsPerDay, epochDay]
    obtain ⟨-, hhigh⟩ := h
    omega

theorem readFraction?_dot (rest : List Char) :
    readFraction? ('.' :: rest) =
      if (rest.takeWhile Char.isDigit).isEmpty then none
      else some (decimalValue ((rest.takeWhile Char.isDigit).take 9) *
          Nat.pow 10 (9 - ((rest.takeWhile Char.isDigit).take 9).length),
        rest.drop (rest.takeWhile Char.isDigit).length) := rfl

theorem readFraction?_padded {width n : Nat} (hwidth : 0 < width) (hmost : width ≤ 9)
    (hn : n < 10 ^ width) (rest : List Char) :
    readFraction? ('.' :: ((Date.padded width n).toList ++ 'Z' :: rest)) =
      some (n * Nat.pow 10 (9 - width), 'Z' :: rest) := by
  have hlength := Date.length_toList_padded hwidth hn
  have hdigits : ((Date.padded width n).toList ++ 'Z' :: rest).takeWhile Char.isDigit =
      (Date.padded width n).toList :=
    (span_isDigit_append (fun _ => Date.isDigit_of_mem_padded) (by simp)).1
  have hempty : ¬ (Date.padded width n).toList.isEmpty := by
    obtain ⟨c, more, h, -⟩ := exists_padded_eq width n
    simp [h]
  have hkept : (Date.padded width n).toList.take 9 = (Date.padded width n).toList :=
    List.take_of_length_le (hlength.trans_le hmost)
  have hdrop : ((Date.padded width n).toList ++ 'Z' :: rest).drop width = 'Z' :: rest :=
    List.drop_left' hlength
  rw [readFraction?_dot, hdigits, if_neg hempty, hkept, hlength, hdrop,
    decimalValue_eq_ofDigitChars, Date.ofDigitChars_padded]

theorem readFraction?_fractionText {nanos : Nat} (hnanos : nanos < 1000000000) (rest : List Char) :
    readFraction? ((fractionText nanos).toList ++ 'Z' :: rest) = some (nanos, 'Z' :: rest) := by
  have hdot (width n : Nat) : ("." ++ Date.padded width n).toList ++ 'Z' :: rest =
      '.' :: ((Date.padded width n).toList ++ 'Z' :: rest) := by simp
  rw [fractionText]
  split
  · next h =>
    subst h
    rfl
  split
  · next h =>
    have hvalue : nanos / 1000000 * Nat.pow 10 (9 - 3) = nanos :=
      Nat.div_mul_cancel (Nat.dvd_of_mod_eq_zero h)
    rw [hdot, readFraction?_padded (by decide) (by decide) (by omega), hvalue]
  split
  · next h =>
    have hvalue : nanos / 1000 * Nat.pow 10 (9 - 6) = nanos :=
      Nat.div_mul_cancel (Nat.dvd_of_mod_eq_zero h)
    rw [hdot, readFraction?_padded (by decide) (by decide) (by omega), hvalue]
  · have hvalue : nanos * Nat.pow 10 (9 - 9) = nanos := Nat.mul_one nanos
    rw [hdot, readFraction?_padded (by decide) (by decide) hnanos, hvalue]

theorem toList_text {t : Instant} {d : Date} (hnanos : t.nanos < 1000000000)
    (hfields : Date.fieldsOf (t.seconds / secondsPerDay + epochDay) = (d.year, d.month, d.day)) :
    t.text.toList =
      let second := (t.seconds % secondsPerDay).toNat
      d.text.toList ++ 'T' :: ((Date.padded 2 (second / 3600)).toList ++
        ':' :: ((Date.padded 2 (second / 60 % 60)).toList ++
          ':' :: ((Date.padded 2 (second % 60)).toList ++
            ((fractionText t.nanos).toList ++ ['Z'])))) := by
  have hwhole : t.nanos / 1000000000 = 0 := Nat.div_eq_of_lt hnanos
  have hpart : t.nanos % 1000000000 = t.nanos := Nat.mod_eq_of_lt hnanos
  rw [text, hfields, hwhole, hpart]
  simp [Date.text]

/-- Every instant of the calendar is read back from its text, to the nanosecond. -/
theorem ofText?_text {t : Instant} (hcalendar : t.InCalendar) (hnanos : t.nanos < 1000000000) :
    Instant.ofText? t.text = some t := by
  obtain ⟨d, hday, hfields⟩ := exists_day hcalendar
  have htext := toList_text hnanos hfields
  dsimp only at htext
  have hsecond : (t.seconds % secondsPerDay).toNat < 86400 := by
    rw [secondsPerDay]
    omega
  have hseconds : t.seconds =
      t.seconds / secondsPerDay * secondsPerDay + (t.seconds % secondsPerDay).toNat := by
    rw [secondsPerDay]
    omega
  generalize (t.seconds % secondsPerDay).toNat = second at htext hsecond hseconds
  have hhour (rest : List Char) := readNumber?_padded (show 0 < 2 by decide)
    (show second / 3600 < 10 ^ 2 by omega) rest
  have hminute (rest : List Char) := readNumber?_padded (show 0 < 2 by decide)
    (show second / 60 % 60 < 10 ^ 2 by omega) rest
  have hlast (rest : List Char) := readNumber?_padded (show 0 < 2 by decide)
    (show second % 60 < 10 ^ 2 by omega) rest
  have hcolon (rest : List Char) := readMark?_cons (c := ':') (by decide) rest
  have hmidnight : d.midnight.seconds = t.seconds / secondsPerDay * secondsPerDay := by
    rw [Date.midnight, hday, Int.add_sub_cancel]
  have hoffset : readOffset? (Text.trimStart ['Z']) = some (0, []) := by decide
  have hend : (Text.trimStart []).isEmpty ∧ second / 3600 < 24 ∧ second / 60 % 60 < 60 ∧
      second % 60 ≤ 60 := ⟨rfl, by omega, by omega, by omega⟩
  rw [ofText?, htext, readDate?_text]
  simp only [Option.bind_eq_bind, Option.bind_some, true_or, if_true, hhour, hcolon, hminute, hlast,
    readFraction?_fractionText hnanos, hoffset]
  have hwhole : min (second % 60) 59 = second % 60 := Nat.min_eq_left (by omega)
  have htime : second / 3600 * 3600 + second / 60 % 60 * 60 + second % 60 = second := by omega
  rw [if_pos hend, hwhole, htime, hmidnight, Int.sub_zero, ← hseconds, Nat.sub_self, Nat.zero_mul]
  rfl

end Instant

end Lapse.Calendar
