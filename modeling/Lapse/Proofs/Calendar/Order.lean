import Mathlib
import Lapse.Proofs.Calendar.RoundTrip

/-!
# Days in order

The numbers of days follow the order of their dates, so that no two days share a number. The
midnight of a day is the first second of its date, and the time from it to any instant of the
calendar can be told to the nanosecond.
-/
namespace Lapse.Calendar

namespace Date

/-- A day of an earlier year, of an earlier month in the same year, or of the same month. -/
def Before (d e : Date) : Prop :=
  d.year < e.year ∨ d.year = e.year ∧ (d.month < e.month ∨ d.month = e.month ∧ d.day < e.day)

instance (d e : Date) : Decidable (Before d e) := inferInstanceAs (Decidable (_ ∨ _))

theorem before_or_eq_or_before (d e : Date) : d.Before e ∨ d = e ∨ e.Before d := by
  obtain ⟨year, month, day, hd⟩ := d
  obtain ⟨year', month', day', he⟩ := e
  simp only [Before, mk.injEq]
  omega

theorem daysBeforeMonth_eq_sum (leap : Bool) (month : Nat) :
    daysBeforeMonth leap month = ((monthLengths leap).take (month - 1)).sum := by
  rw [daysBeforeMonth, List.sum_eq_foldl]

theorem daysBeforeMonth_succ (leap : Bool) {month : Nat} (h : 1 ≤ month) :
    daysBeforeMonth leap (month + 1) = daysBeforeMonth leap month + monthLength leap month := by
  obtain ⟨passed, rfl⟩ := Nat.exists_eq_add_of_le' h
  rw [daysBeforeMonth_eq_sum, daysBeforeMonth_eq_sum, monthLength, if_neg (Nat.succ_ne_zero _),
    Nat.add_sub_cancel, Nat.add_sub_cancel, List.take_add_one, List.sum_append,
    List.getD_eq_getElem?_getD]
  cases (monthLengths leap)[passed]? <;> simp

theorem daysBeforeMonth_le (leap : Bool) {month other : Nat} (h : month ≤ other) :
    daysBeforeMonth leap month ≤ daysBeforeMonth leap other := by
  rw [daysBeforeMonth_eq_sum, daysBeforeMonth_eq_sum]
  exact (List.take_sublist_take_left (Nat.sub_le_sub_right h 1)).sum_le_sum (by simp)

theorem daysBeforeMonth_le_sum (leap : Bool) (month : Nat) :
    daysBeforeMonth leap month ≤ (monthLengths leap).sum := by
  rw [daysBeforeMonth_eq_sum]
  exact (List.take_sublist _ _).sum_le_sum (by simp)

theorem one_le_month (d : Date) : 1 ≤ d.month := by
  obtain ⟨-, -, hpos, hday⟩ := d.isDay
  by_contra h
  have hzero : d.month = 0 := by omega
  rw [hzero, monthLength, if_pos rfl] at hday
  omega

/-- A day lies behind the days before its month and not behind those before the next one. -/
theorem day_bounds (d : Date) :
    daysBeforeYear d.year + daysBeforeMonth (isLeap d.year) d.month < d.dayNumber ∧
      d.dayNumber ≤ daysBeforeYear d.year + daysBeforeMonth (isLeap d.year) (d.month + 1) := by
  obtain ⟨-, -, hpos, hday⟩ := d.isDay
  rw [daysBeforeMonth_succ _ d.one_le_month, dayNumber]
  omega

theorem year_bounds (d : Date) :
    daysBeforeYear d.year < d.dayNumber ∧ d.dayNumber ≤ daysBeforeYear (d.year + 1) := by
  obtain ⟨hafter, hbefore⟩ := d.day_bounds
  have hsum := daysBeforeMonth_le_sum (isLeap d.year) (d.month + 1)
  rw [daysBeforeYear_succ]
  omega

theorem dayNumber_lt {d e : Date} (h : d.Before e) : d.dayNumber < e.dayNumber := by
  rcases h with hyear | ⟨hyear, hmonth | ⟨hmonth, hday⟩⟩
  · calc d.dayNumber ≤ daysBeforeYear (d.year + 1) := d.year_bounds.2
      _ ≤ daysBeforeYear e.year := daysBeforeYear_le hyear
      _ < e.dayNumber := e.year_bounds.1
  · have hlast := d.day_bounds.2
    have hfirst := e.day_bounds.1
    have hbetween : daysBeforeMonth (isLeap e.year) (d.month + 1) ≤
        daysBeforeMonth (isLeap e.year) e.month := daysBeforeMonth_le _ hmonth
    rw [hyear] at hlast
    omega
  · rw [dayNumber, dayNumber, hyear, hmonth]
    omega

theorem dayNumber_injective {d e : Date} (h : d.dayNumber = e.dayNumber) : d = e := by
  rcases before_or_eq_or_before d e with hde | rfl | hed
  · exact absurd h (dayNumber_lt hde).ne
  · rfl
  · exact absurd h (dayNumber_lt hed).ne'

theorem dayNumber_range (d : Date) :
    daysBeforeYear (-262143) < d.dayNumber ∧ d.dayNumber ≤ daysBeforeYear 262143 := by
  obtain ⟨hlow, hhigh, -⟩ := d.isDay
  have hfirst := daysBeforeYear_le hlow
  have hlast := daysBeforeYear_le (show d.year + 1 ≤ 262143 by omega)
  have hyear := d.year_bounds
  omega

/-- The fields found for the number of a day are its own. -/
theorem fieldsOf_dayNumber (d : Date) : fieldsOf d.dayNumber = (d.year, d.month, d.day) := by
  obtain ⟨hlow, hhigh⟩ := d.dayNumber_range
  obtain ⟨e, hnumber, hfields⟩ := exists_dayNumber_eq hlow hhigh
  cases dayNumber_injective hnumber
  exact hfields

theorem midnight_text (d : Date) : d.midnight.text = d.text ++ "T00:00:00Z" := by
  have hday : (d.dayNumber - epochDay) * secondsPerDay / secondsPerDay + epochDay =
      d.dayNumber := by
    rw [secondsPerDay, Int.mul_ediv_cancel _ (by decide), Int.sub_add_cancel]
  have hsecond : ((d.dayNumber - epochDay) * secondsPerDay % secondsPerDay).toNat = 0 := by
    rw [Int.mul_emod_left]
    rfl
  have htime : "T00:00:00Z" = "T" ++ padded 2 0 ++ ":" ++ padded 2 0 ++ ":" ++ padded 2 0 ++
      Instant.fractionText 0 ++ "Z" := by decide +kernel
  rw [Instant.text, midnight, hday, hsecond, fieldsOf_dayNumber, htime]
  simp only [text, String.append_assoc]

theorem midnight_inCalendar (d : Date) : d.midnight.InCalendar := by
  have hfirst : daysBeforeYear (-262143) = -95746130 := by decide
  have hlast : daysBeforeYear 262143 = 95745399 := by decide
  have hnumber := d.dayNumber_range
  simp only [Instant.InCalendar, midnight, epochDay, secondsPerDay]
  omega

end Date

def Instant.nanoseconds (t : Instant) : Int := t.seconds * 1000000000 + t.nanos

theorem Instant.before_iff {t u : Instant} (ht : t.nanos < 1000000000)
    (hu : u.nanos < 1000000000) : t.Before u ↔ t.nanoseconds < u.nanoseconds := by
  simp only [Before, nanoseconds]
  omega

theorem Date.midnight_nanoseconds (d : Date) :
    d.midnight.nanoseconds = (d.dayNumber - epochDay) * secondsPerDay * 1000000000 :=
  Int.add_zero _

theorem Date.midnight_nanoseconds_le {d e : Date} (h : d.Before e) :
    d.midnight.nanoseconds ≤ e.midnight.nanoseconds := by
  have hnumber := dayNumber_lt h
  rw [midnight_nanoseconds, midnight_nanoseconds, secondsPerDay]
  omega

/-- The time from one instant to a later one, to the nanosecond. -/
structure Span.Measures (age : Span) (start later : Instant) : Prop where
  represented : later.since? start = some age
  fraction : age.nanos < 1000000000
  exact : age.nanoseconds = later.nanoseconds - start.nanoseconds
  positive : 0 < age.nanoseconds

theorem Span.Measures.forward? {age : Span} {start later : Instant} (h : age.Measures start later) :
    age.forward? = some age := by
  have hpositive := h.positive
  have hfraction := h.fraction
  rw [nanoseconds] at hpositive
  rw [Span.forward?, if_neg (by omega)]

/-- The time from a midnight to a later instant of the calendar can be represented. -/
theorem Date.exists_measures {now : Instant} (hnow : now.InCalendar)
    (hnanos : now.nanos < 1000000000) {d : Date}
    (hlate : d.midnight.nanoseconds < now.nanoseconds) :
    ∃ age : Span, age.Measures d.midnight now := by
  -- A midnight has no fraction of a second, so nothing is borrowed from the seconds.
  let age : Span := ⟨now.seconds - d.midnight.seconds, now.nanos⟩
  have hexact : age.nanoseconds = now.nanoseconds - d.midnight.nanoseconds := by
    have hzero : d.midnight.nanos = 0 := rfl
    simp only [age, Span.nanoseconds, Instant.nanoseconds, hzero]
    omega
  have hrange : age.InRange := by
    obtain ⟨hfirst, hlast⟩ := d.midnight_inCalendar
    obtain ⟨hlow, hhigh⟩ := hnow
    simp only [Span.InRange, Span.nanoseconds, age]
    omega
  have hwhole : now.nanos / 1000000000 = 0 := Nat.div_eq_of_lt hnanos
  have hpart : now.nanos % 1000000000 = now.nanos := Nat.mod_eq_of_lt hnanos
  have hsince : now.since? d.midnight = some age := by
    have hage : (⟨now.seconds - d.midnight.seconds + (now.nanos / 1000000000 : Nat),
        now.nanos % 1000000000⟩ : Span) = age := by
      rw [hwhole, hpart]
      simp [age]
    rw [Instant.since?, hage]
    exact if_pos hrange
  exact ⟨age, hsince, hnanos, hexact, by omega⟩

end Lapse.Calendar
