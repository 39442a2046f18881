/-!
# Calendar dates

Dates of the Gregorian calendar, extended to all years from 262143 before year zero to 262142
after it, and their count of days. `ofDayNumber` undoes `dayNumber`.
-/
namespace Lapse.Calendar

def isLeap (year : Int) : Bool :=
  year % 4 = 0 ∧ (year % 100 ≠ 0 ∨ year % 400 = 0)

def monthLengths (leap : Bool) : List Nat :=
  [31, if leap then 29 else 28, 31, 30, 31, 30, 31, 31, 30, 31, 30, 31]

/-- The length of a month counted from one, zero when there is no such month. -/
def monthLength (leap : Bool) (month : Nat) : Nat :=
  if month = 0 then 0 else (monthLengths leap).getD (month - 1) 0

/-- A year, month and day that name a day of the calendar. -/
def IsDay (year : Int) (month day : Nat) : Prop :=
  -262143 ≤ year ∧ year ≤ 262142 ∧ 1 ≤ day ∧ day ≤ monthLength (isLeap year) month

instance (year : Int) (month day : Nat) : Decidable (IsDay year month day) :=
  inferInstanceAs (Decidable (_ ∧ _))

structure Date where
  year : Int
  month : Nat
  day : Nat
  isDay : IsDay year month day
  deriving DecidableEq

namespace Date

def of? (year : Int) (month day : Nat) : Option Date :=
  if h : IsDay year month day then some ⟨year, month, day, h⟩ else none

/-- The days before the first of January of `year`, counted from the first of January of year 1. -/
def daysBeforeYear (year : Int) : Int :=
  let past := year - 1
  past * 365 + past / 4 - past / 100 + past / 400

def daysBeforeMonth (leap : Bool) (month : Nat) : Nat :=
  ((monthLengths leap).take (month - 1)).foldl (· + ·) 0

/-- The number of a day; the first of January of year 1 is day 1. -/
def dayNumber (d : Date) : Int :=
  daysBeforeYear d.year + daysBeforeMonth (isLeap d.year) d.month + d.day

/-- Month and day of the `ordinal`-th day, given the lengths of the months from `month` on. -/
def monthAndDay : (lengths : List Nat) → (month ordinal : Nat) → Nat × Nat
  | [], month, ordinal => (month, ordinal)
  | length :: rest, month, ordinal =>
    if ordinal ≤ length then (month, ordinal) else monthAndDay rest (month + 1) (ordinal - length)

/-- The year that holds the day with this number. -/
def yearOf (number : Int) : Int :=
  let near := number * 400 / 146097 + 1
  if number ≤ daysBeforeYear near then near - 1
  else if daysBeforeYear (near + 1) < number then near + 1
  else near

def fieldsOf (number : Int) : Int × Nat × Nat :=
  let year := yearOf number
  let (month, day) :=
    monthAndDay (monthLengths (isLeap year)) 1 (number - daysBeforeYear year).toNat
  (year, month, day)

/-- `n` in decimal with zeros in front, at least `width` digits. -/
def padded (width n : Nat) : String :=
  let digits := toString n
  String.ofList (List.replicate (width - digits.length) '0') ++ digits

/-- A year has four digits; one above 9999 or below zero has a sign and at least four. -/
def yearText (year : Int) : String :=
  if year < 0 then "-" ++ padded 4 year.natAbs
  else if 9999 < year then "+" ++ padded 4 year.natAbs
  else padded 4 year.natAbs

def fieldsText (year : Int) (month day : Nat) : String :=
  yearText year ++ "-" ++ padded 2 month ++ "-" ++ padded 2 day

def text (d : Date) : String := fieldsText d.year d.month d.day

end Date

end Lapse.Calendar
