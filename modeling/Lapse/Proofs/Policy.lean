import Mathlib
import Lapse.Policy
import Lapse.Proofs.Calendar.Order

/-!
# What the policy says at which time

A note with a date fails from the first nanosecond after the midnight of its date on, and its age is
the time since then. A note without a date fails under a strict policy only. Time and strictness
only ever add violations.
-/
namespace Lapse

open Calendar (Date Instant Span)

variable {now later : Instant} {strict : Bool} {a b : Note} {d e : Date}

namespace Policy

theorem check_of_no_expiry (policy : Policy) (h : a.expiry = none) :
    policy.check a = if policy.strict then some (.missingExpiry a.tag) else none := by
  rw [check, h]

theorem check_of_future (hnanos : now.nanos < 1000000000) (h : a.expiry = some d)
    (hearly : now.nanoseconds ≤ d.midnight.nanoseconds) : check ⟨now, strict⟩ a = none := by
  have hbefore : ¬ d.midnight.Before now := by
    rw [Instant.before_iff (show 0 < 1000000000 by decide) hnanos]
    omega
  rw [check, h]
  exact if_neg hbefore

/-- The age of a note that is overdue is never the zero that stands for an age that cannot be
told. -/
theorem check_of_past (strict : Bool) (hnow : now.InCalendar) (hnanos : now.nanos < 1000000000)
    (h : a.expiry = some d) (hlate : d.midnight.nanoseconds < now.nanoseconds) :
    ∃ age : Span, check ⟨now, strict⟩ a = some (.overdue a.tag age) ∧
      age.Measures d.midnight now := by
  have hbefore : d.midnight.Before now :=
    (Instant.before_iff (show 0 < 1000000000 by decide) hnanos).2 hlate
  obtain ⟨age, hage⟩ := Date.exists_measures hnow hnanos hlate
  refine ⟨age, ?_, hage⟩
  rw [check, h]
  simp only [if_pos hbefore, hage.represented, Option.bind_some, hage.forward?, Option.getD_some]

theorem check_eq_missingExpiry_iff (hnow : now.InCalendar) (hnanos : now.nanos < 1000000000)
    {tag : String} :
    check ⟨now, strict⟩ a = some (.missingExpiry tag) ↔
      tag = a.tag ∧ a.expiry = none ∧ strict := by
  cases h : a.expiry with
  | none =>
    rw [check_of_no_expiry _ h]
    cases strict <;> simp [eq_comm]
  | some d =>
    simp only [reduceCtorEq, false_and, and_false, iff_false]
    rcases Int.lt_or_le d.midnight.nanoseconds now.nanoseconds with hlate | hearly
    · obtain ⟨age, hcheck, -⟩ := check_of_past strict hnow hnanos h hlate
      simp [hcheck]
    · simp [check_of_future hnanos h hearly]

theorem check_eq_overdue_iff (hnow : now.InCalendar) (hnanos : now.nanos < 1000000000)
    {tag : String} {age : Span} :
    check ⟨now, strict⟩ a = some (.overdue tag age) ↔
      tag = a.tag ∧ ∃ d, a.expiry = some d ∧ d.midnight.nanoseconds < now.nanoseconds ∧
        age.Measures d.midnight now := by
  constructor
  · intro hcheck
    cases h : a.expiry with
    | none =>
      rw [check_of_no_expiry _ h] at hcheck
      cases strict <;> simp at hcheck
    | some d =>
      rcases Int.lt_or_le d.midnight.nanoseconds now.nanoseconds with hlate | hearly
      · obtain ⟨other, hother, hmeasures⟩ := check_of_past strict hnow hnanos h hlate
        rw [hother] at hcheck
        cases hcheck
        exact ⟨rfl, d, rfl, hlate, hmeasures⟩
      · rw [check_of_future hnanos h hearly] at hcheck
        cases hcheck
  · rintro ⟨rfl, d, h, hlate, hmeasures⟩
    obtain ⟨other, hother, hsame⟩ := check_of_past strict hnow hnanos h hlate
    cases Option.some.inj (hsame.represented.symm.trans hmeasures.represented)
    exact hother

theorem check_eq_none_iff (hnow : now.InCalendar) (hnanos : now.nanos < 1000000000) :
    check ⟨now, strict⟩ a = none ↔
      (a.expiry = none → strict = false) ∧
        ∀ d, a.expiry = some d → now.nanoseconds ≤ d.midnight.nanoseconds := by
  cases h : a.expiry with
  | none =>
    rw [check_of_no_expiry _ h]
    cases strict <;> simp
  | some d =>
    rcases Int.lt_or_le d.midnight.nanoseconds now.nanoseconds with hlate | hearly
    · obtain ⟨age, hcheck, -⟩ := check_of_past strict hnow hnanos h hlate
      simp [hcheck, hlate]
    · simp [check_of_future hnanos h hearly, hearly]

/-- A policy finds a note overdue. -/
def FindsOverdue (policy : Policy) (a : Note) : Prop :=
  ∃ age, policy.check a = some (.overdue a.tag age)

theorem findsOverdue_iff (hnow : now.InCalendar) (hnanos : now.nanos < 1000000000) :
    FindsOverdue ⟨now, strict⟩ a ↔
      ∃ d, a.expiry = some d ∧ d.midnight.nanoseconds < now.nanoseconds := by
  constructor
  · rintro ⟨age, hcheck⟩
    obtain ⟨-, d, h, hlate, -⟩ := (check_eq_overdue_iff hnow hnanos).1 hcheck
    exact ⟨d, h, hlate⟩
  · rintro ⟨d, h, hlate⟩
    obtain ⟨age, hcheck, -⟩ := check_of_past strict hnow hnanos h hlate
    exact ⟨age, hcheck⟩

end Policy

/-- The second violation is the first one after some more nanoseconds. -/
inductive Violation.GrowsInto (nanoseconds : Int) : Violation → Violation → Prop
  | missingExpiry (tag : String) : GrowsInto nanoseconds (.missingExpiry tag) (.missingExpiry tag)
  | overdue (tag : String) {age more : Span}
    (h : more.nanoseconds = age.nanoseconds + nanoseconds) :
    GrowsInto nanoseconds (.overdue tag age) (.overdue tag more)

namespace Policy

theorem check_of_later (hnow : now.InCalendar) (hnanos : now.nanos < 1000000000)
    (hlater : later.InCalendar) (hmore : later.nanos < 1000000000)
    (hle : now.nanoseconds ≤ later.nanoseconds) {v : Violation}
    (hv : check ⟨now, strict⟩ a = some v) :
    ∃ w, check ⟨later, strict⟩ a = some w ∧
      v.GrowsInto (later.nanoseconds - now.nanoseconds) w := by
  cases v with
  | missingExpiry tag =>
    have hmissing := (check_eq_missingExpiry_iff hnow hnanos).1 hv
    exact ⟨_, (check_eq_missingExpiry_iff hlater hmore).2 hmissing, .missingExpiry tag⟩
  | overdue tag age =>
    obtain ⟨rfl, d, h, hlate, hage⟩ := (check_eq_overdue_iff hnow hnanos).1 hv
    obtain ⟨grown, hcheck, hgrown⟩ :=
      check_of_past strict hlater hmore h (hlate.trans_le hle)
    have hexact := hage.exact
    have hgrownExact := hgrown.exact
    exact ⟨_, hcheck, .overdue _ (by omega)⟩

theorem findsOverdue_of_before (hnow : now.InCalendar) (hnanos : now.nanos < 1000000000)
    (ha : a.expiry = some d) (hb : b.expiry = some e) (hde : d.Before e)
    (h : FindsOverdue ⟨now, strict⟩ b) : FindsOverdue ⟨now, strict⟩ a := by
  obtain ⟨other, hother, hlate⟩ := (findsOverdue_iff hnow hnanos).1 h
  cases hb.symm.trans hother
  exact (findsOverdue_iff hnow hnanos).2
    ⟨d, ha, (Date.midnight_nanoseconds_le hde).trans_lt hlate⟩

theorem check_of_expiry (policy : Policy) (h : a.expiry = some d) (strict : Bool) :
    check { policy with strict } a = policy.check a := by
  rw [check, check, h]

/-- A strict policy adds violations for missing dates only. -/
theorem check_strict_iff {v : Violation} :
    check ⟨now, true⟩ a = some v ↔
      check ⟨now, false⟩ a = some v ∨ a.expiry = none ∧ v = .missingExpiry a.tag := by
  cases h : a.expiry with
  | none => simp [check_of_no_expiry _ h, eq_comm]
  | some d => simp [check_of_expiry ⟨now, false⟩ h true]

/-- The policy at any time of the calendar, by the midnight of a note's date: which notes fail and
why, how old an overdue one is to the nanosecond, and how the verdict changes with the time, with
the date and with strictness. -/
theorem check_by_midnight (hnow : now.InCalendar) (hnanos : now.nanos < 1000000000)
    (strict : Bool) (a : Note) :
    (∀ d : Date, d.midnight.InCalendar ∧ d.midnight.text = d.text ++ "T00:00:00Z") ∧
    (∀ tag, check ⟨now, strict⟩ a = some (.missingExpiry tag) ↔
      tag = a.tag ∧ a.expiry = none ∧ strict) ∧
    (∀ tag age, check ⟨now, strict⟩ a = some (.overdue tag age) ↔
      tag = a.tag ∧ ∃ d, a.expiry = some d ∧ d.midnight.nanoseconds < now.nanoseconds ∧
        age.Measures d.midnight now) ∧
    (FindsOverdue ⟨now, strict⟩ a ↔
      ∃ d, a.expiry = some d ∧ d.midnight.nanoseconds < now.nanoseconds) ∧
    (check ⟨now, strict⟩ a = none ↔
      (a.expiry = none → strict = false) ∧
        ∀ d, a.expiry = some d → now.nanoseconds ≤ d.midnight.nanoseconds) ∧
    (∀ later : Instant, later.InCalendar → later.nanos < 1000000000 →
      now.nanoseconds ≤ later.nanoseconds → ∀ v, check ⟨now, strict⟩ a = some v →
        ∃ w, check ⟨later, strict⟩ a = some w ∧
          v.GrowsInto (later.nanoseconds - now.nanoseconds) w) ∧
    (∀ b d e, a.expiry = some d → b.expiry = some e → d.Before e →
      FindsOverdue ⟨now, strict⟩ b → FindsOverdue ⟨now, strict⟩ a) ∧
    (∀ v, check ⟨now, true⟩ a = some v ↔
      check ⟨now, false⟩ a = some v ∨ a.expiry = none ∧ v = .missingExpiry a.tag) :=
  ⟨fun d => ⟨d.midnight_inCalendar, d.midnight_text⟩, fun _ => check_eq_missingExpiry_iff hnow hnanos,
    fun _ _ => check_eq_overdue_iff hnow hnanos, findsOverdue_iff hnow hnanos,
    check_eq_none_iff hnow hnanos,
    fun _ hlater hmore hle _ hv => check_of_later hnow hnanos hlater hmore hle hv,
    fun _ _ _ ha hb hde hoverdue => findsOverdue_of_before hnow hnanos ha hb hde hoverdue,
    fun _ => check_strict_iff⟩

/-- Half a second before the epoch, on the last day of the year 1969. -/
theorem check_by_midnight_before_epoch :
    let now : Instant := ⟨-1, 500000000⟩
    let d : Date := ⟨1969, 12, 31, by decide⟩
    let a : Note := ⟨"//", "TODO", "", some d, 1, "// TODO[1969-12-31]"⟩
    now.InCalendar ∧ now.nanos < 1000000000 ∧
      (∀ d : Date, d.midnight.InCalendar ∧ d.midnight.text = d.text ++ "T00:00:00Z") ∧
      check ⟨now, false⟩ a = some (.overdue "TODO" ⟨86399, 500000000⟩) ∧
      Span.Measures ⟨86399, 500000000⟩ d.midnight now ∧
      ∃ w, check ⟨⟨0, 0⟩, false⟩ a = some w ∧
        (Violation.overdue "TODO" ⟨86399, 500000000⟩).GrowsInto 500000000 w := by
  intro now d a
  have hnow : now.InCalendar := by decide
  have hnanos : now.nanos < 1000000000 := by decide
  have hcheck : check ⟨now, false⟩ a = some (.overdue "TODO" ⟨86399, 500000000⟩) := by decide
  obtain ⟨hmidnight, -, hoverdue, -, -, hlater, -, -⟩ := check_by_midnight hnow hnanos false a
  obtain ⟨-, other, hother, -, hage⟩ := (hoverdue _ _).1 hcheck
  cases hother
  exact ⟨hnow, hnanos, hmidnight, hcheck, hage,
    hlater ⟨0, 0⟩ (by decide) (by decide) (by decide) _ hcheck⟩

end Policy

end Lapse
