import Lapse.Calendar.Date
import Lapse.Text.Blank

/-!
# Reading dates

A date is written year, month and day with hyphens between them. Blanks may stand before each
number and each hyphen. A year without a sign has at most four digits.
-/
namespace Lapse.Calendar

open Lapse.Text (trimStart)

def decimalDigit (c : Char) : Nat := c.toNat - '0'.toNat

def decimalValue (digits : List Char) : Nat :=
  digits.foldl (fun n c => n * 10 + decimalDigit c) 0

/-- A number of one to `most` digits and the text after it; blanks before it are passed over. -/
def readNumber? (most : Nat) (text : List Char) : Option (Nat × List Char) :=
  let text := trimStart text
  let digits := (text.take most).takeWhile Char.isDigit
  if digits.isEmpty then none else some (decimalValue digits, text.drop digits.length)

/-- The text after the mark `c`; blanks before it are passed over. -/
def readMark? (c : Char) (text : List Char) : Option (List Char) :=
  match trimStart text with
  | x :: rest => if x = c then some rest else none
  | [] => none

/-- A year, with a sign and any number of digits or with at most four digits. -/
def readYear? (text : List Char) : Option (Int × List Char) :=
  match trimStart text with
  | '-' :: rest =>
    if rest.head?.any Char.isDigit then
      (readNumber? rest.length rest).map fun (n, rest) => (-(n : Int), rest)
    else none
  | '+' :: rest =>
    if rest.head?.any Char.isDigit then
      (readNumber? rest.length rest).map fun (n, rest) => ((n : Int), rest)
    else none
  | text => (readNumber? 4 text).map fun (n, rest) => ((n : Int), rest)

def readDate? (text : List Char) : Option (Date × List Char) := do
  let (year, text) ← readYear? text
  let (month, text) ← readNumber? 2 (← readMark? '-' text)
  let (day, text) ← readNumber? 2 (← readMark? '-' text)
  let date ← Date.of? year month day
  return (date, text)

/-- Reads a text that holds a date and nothing else but blanks. -/
def Date.ofText? (text : String) : Option Date := do
  let (date, rest) ← readDate? text.toList
  if (trimStart rest).isEmpty then some date else none

end Lapse.Calendar
