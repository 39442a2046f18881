import Lapse.Calendar.DateText

/-!
# Instants

Points in time as seconds and nanoseconds since the first of January 1970, and their text in
universal time. In a leap second the nanoseconds count on above a thousand million.
-/
namespace Lapse.Calendar

structure Instant where
  seconds : Int
  nanos : Nat
  deriving DecidableEq, Repr

/-- A length of time in either direction: whole seconds, and nanoseconds to be added to them. -/
structure Span where
  seconds : Int
  nanos : Nat
  deriving DecidableEq, Repr

namespace Span

def zero : Span := ⟨0, 0⟩

def nanoseconds (s : Span) : Int := s.seconds * 1000000000 + s.nanos

/-- The lengths of time that can be represented, up to `2 ^ 63 - 1` milliseconds. -/
def InRange (s : Span) : Prop := s.nanoseconds.natAbs ≤ 9223372036854775807 * 1000000

instance (s : Span) : Decidable s.InRange := inferInstanceAs (Decidable (_ ≤ _))

/-- The length of time, unless it is negative. -/
def forward? (s : Span) : Option Span := if s.seconds < 0 then none else some s

end Span

def secondsPerDay : Int := 86400

/-- The day number of the first of January 1970. -/
def epochDay : Int := 719163

def Date.midnight (d : Date) : Instant := ⟨(d.dayNumber - epochDay) * secondsPerDay, 0⟩

namespace Instant

def Before (a b : Instant) : Prop :=
  a.seconds < b.seconds ∨ a.seconds = b.seconds ∧ a.nanos < b.nanos

instance (a b : Instant) : Decidable (Before a b) :=
  inferInstanceAs (Decidable (_ ∨ _))

/-- The time from an instant on a whole second to another one, if it can be represented. -/
def since? (later start : Instant) : Option Span :=
  let span : Span := ⟨later.seconds - start.seconds + (later.nanos / 1000000000 : Nat),
    later.nanos % 1000000000⟩
  if span.InRange then some span else none

/-- No fraction for a whole second, else as few of three, six or nine digits as are exact. -/
def fractionText (nanos : Nat) : String :=
  if nanos = 0 then ""
  else if nanos % 1000000 = 0 then "." ++ Date.padded 3 (nanos / 1000000)
  else if nanos % 1000 = 0 then "." ++ Date.padded 6 (nanos / 1000)
  else "." ++ Date.padded 9 nanos

def text (t : Instant) : String :=
  let day := t.seconds / secondsPerDay
  let second := (t.seconds % secondsPerDay).toNat
  let (year, month, dayOfMonth) := Date.fieldsOf (day + epochDay)
  Date.fieldsText year month dayOfMonth ++ "T" ++ Date.padded 2 (second / 3600) ++ ":" ++
    Date.padded 2 (second / 60 % 60) ++ ":" ++
    Date.padded 2 (second % 60 + t.nanos / 1000000000) ++
    fractionText (t.nanos % 1000000000) ++ "Z"

/-- A fraction of a second in nanoseconds, zero when there is none; digits after the ninth count
for nothing. -/
def readFraction? : List Char → Option (Nat × List Char)
  | '.' :: rest =>
    let digits := rest.takeWhile Char.isDigit
    if digits.isEmpty then none
    else
      let kept := digits.take 9
      some (decimalValue kept * Nat.pow 10 (9 - kept.length), rest.drop digits.length)
  | rest => some (0, rest)

def readPair? : List Char → Option (Nat × List Char)
  | a :: b :: rest =>
    if a.isDigit ∧ b.isDigit then some (decimalDigit a * 10 + decimalDigit b, rest) else none
  | _ => none

def isOffsetGap (c : Char) : Bool := c = ':' || Text.isBlank c

/-- An offset from universal time in seconds: hours and minutes after the sign. -/
def readHoursAndMinutes? (text : List Char) : Option (Nat × List Char) := do
  let (hours, text) ← readPair? text
  let (minutes, text) ← readPair? (text.dropWhile isOffsetGap)
  if minutes < 60 ∧ hours < 24 then some (hours * 3600 + minutes * 60, text) else none

/-- `Z`, `UTC` or a signed offset, in seconds. -/
def readOffset? (text : List Char) : Option (Int × List Char) :=
  if (text.take 3).map Char.toUpper = ['U', 'T', 'C'] then some (0, text.drop 3)
  else match text with
    | 'Z' :: rest => some (0, rest)
    | 'z' :: rest => some (0, rest)
    | '+' :: rest => (readHoursAndMinutes? rest).map fun (n, rest) => ((n : Int), rest)
    | '-' :: rest => (readHoursAndMinutes? rest).map fun (n, rest) => (-(n : Int), rest)
    | '\u2212' :: rest => (readHoursAndMinutes? rest).map fun (n, rest) => (-(n : Int), rest)
    | _ => none

/-- Reads a date, `T` or a blank, a time of day and an offset. A sixtieth second is a leap
second. -/
def ofText? (text : String) : Option Instant := do
  let (date, text) ← readDate? text.toList
  let text ← match text with
    | c :: rest => if c = 'T' ∨ c = 't' ∨ c = ' ' then some rest else none
    | [] => none
  let (hour, text) ← readNumber? 2 text
  let (minute, text) ← readNumber? 2 (← readMark? ':' text)
  let (second, text) ← readNumber? 2 (← readMark? ':' text)
  let (nanos, text) ← readFraction? text
  let (offset, text) ← readOffset? (Text.trimStart text)
  if (Text.trimStart text).isEmpty ∧ hour < 24 ∧ minute < 60 ∧ second ≤ 60 then
    let whole := min second 59
    some ⟨date.midnight.seconds + (hour * 3600 + minute * 60 + whole : Nat) - offset,
      nanos + (second - whole) * 1000000000⟩
  else none

end Instant

end Lapse.Calendar
