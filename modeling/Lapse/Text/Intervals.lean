/-!
# Sets of characters given by intervals

A table lists the ends of half-open intervals in ascending order. A character belongs to the set
when the number of ends at or below it is odd.
-/
namespace Lapse.Text

structure Intervals where
  ends : Array Nat
  deriving Repr

/-- The value of one hexadecimal digit, zero for any other character. -/
def hexDigit (c : Char) : Nat :=
  if c.isDigit then c.toNat - '0'.toNat
  else if 'a' ≤ c ∧ c ≤ 'f' then c.toNat - 'a'.toNat + 10
  else if 'A' ≤ c ∧ c ≤ 'F' then c.toNat - 'A'.toNat + 10
  else 0

def hexValue (digits : List Char) : Nat :=
  digits.foldl (fun n c => n * 16 + hexDigit c) 0

/-- The maximal runs of characters other than blanks. -/
def words (text : List Char) : List (List Char) :=
  ((text.foldr (fun c (done, word) =>
    if c = ' ' then (if word.isEmpty then done else word :: done, [])
    else (done, c :: word)) (([] : List (List Char)), ([] : List Char))) |>
    fun (done, word) => if word.isEmpty then done else word :: done)

/-- How many of the ascending `ends` are at most `x`, searching positions `lo` to `hi` by halving. -/
def countAtMost (ends : Array Nat) (x : Nat) : (fuel lo hi : Nat) → Nat
  | 0, lo, _ => lo
  | fuel + 1, lo, hi =>
    if lo < hi then
      let mid := (lo + hi) / 2
      if ends.getD mid 0 ≤ x then countAtMost ends x fuel (mid + 1) hi
      else countAtMost ends x fuel lo mid
    else lo

/-- Reads a table written as lines of hexadecimal distances from each end to the next. -/
def Intervals.ofLines (lines : List String) : Intervals :=
  ⟨((lines.flatMap fun line => words line.toList).foldl (fun (ends, last) word =>
      let next := last + hexValue word
      (ends.push next, next)) ((#[] : Array Nat), 0)).1⟩

def Intervals.contains (t : Intervals) (c : Char) : Bool :=
  countAtMost t.ends c.toNat t.ends.size 0 t.ends.size % 2 = 1

end Lapse.Text
