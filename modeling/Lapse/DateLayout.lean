import Lapse.Calendar.DateText
import Lapse.Regex.Escape
import Lapse.Text.Category

/-!
# Date layouts

A layout such as `YYYY-MM-DD` or `02/01/2006` says how dates are written: numeric fields of a fixed
width and literal characters between them. `ofText` cuts a layout into pieces, `pattern` gives the
pattern of its texts and `readDate?` reads them.
-/
namespace Lapse

open Calendar (Date decimalDigit)

inductive DateField
  | year | shortYear | month | day
  deriving DecidableEq, Repr

inductive LayoutPiece
  /-- A field of exactly `width` digits. -/
  | field (kind : DateField) (width : Nat)
  /-- A character that stands for itself. -/
  | literal (c : Char)
  deriving DecidableEq, Repr

structure DateLayout where
  pieces : List LayoutPiece
  deriving DecidableEq, Repr

namespace DateLayout

/-- The tokens that start with a digit, taken from the date 2 January 2006; of two that fit the
first is taken. -/
def tokens : List (List Char × DateField) :=
  [(['2', '0', '0', '6'], .year), (['0', '1'], .month), (['0', '2'], .day),
   (['0', '6'], .shortYear), (['1'], .month), (['2'], .day)]

def isFieldLetter (c : Char) : Bool := c = 'Y' ∨ c = 'M' ∨ c = 'D'

/-- The field that a run of `length` letters `c` stands for. -/
def runField? (c : Char) (length : Nat) : Option DateField :=
  if c = 'Y' ∧ length = 4 then some .year
  else if c = 'Y' ∧ length = 2 then some .shortYear
  else if c = 'M' ∧ length = 2 then some .month
  else if c = 'D' ∧ length = 2 then some .day
  else none

/-- Letters and numbers that no layout may hold: all but ASCII digits and the field letters. -/
def isUnsupported (c : Char) : Bool :=
  Text.isAlphanumeric c && !c.isDigit && !isFieldLetter c

/-- Cuts a layout into pieces from left to right, or gives the letter of the first run whose length
names no field. -/
def cut : List Char → Except Char (List LayoutPiece)
  | [] => .ok []
  | c :: rest =>
    if c.isDigit then
      match tokens.find? fun token => token.1.isPrefixOf (c :: rest) with
      | some (token, kind) =>
        (cut (rest.drop (token.length - 1))).map (.field kind token.length :: ·)
      | none => (cut rest).map (.literal c :: ·)
    else if isFieldLetter c then
      let length := (rest.takeWhile (· = c)).length + 1
      match runField? c length with
      | some kind => (cut (rest.drop (length - 1))).map (.field kind length :: ·)
      | none => .error c
    else (cut rest).map (.literal c :: ·)
  termination_by text => text.length
  decreasing_by all_goals (simp only [List.length_cons, List.length_drop]; omega)

/-- Reads a layout, or gives the character that it may not hold. -/
def ofText (text : List Char) : Except Char DateLayout :=
  match text.find? isUnsupported with
  | some c => .error c
  | none => (cut text).map (⟨·⟩)

def digitPattern : List Char := "[[:digit:]]".toList

def piecePattern : LayoutPiece → List Char
  | .field _ width => (List.replicate width digitPattern).flatten
  | .literal c => if c.isDigit then digitPattern else Regex.escapeChar c

/-- The pattern of the texts that a layout can have; any digit may stand for a literal digit. -/
def pattern (layout : DateLayout) : List Char := layout.pieces.flatMap piecePattern

structure Fields where
  year : Option Nat := none
  shortYear : Option Nat := none
  month : Option Nat := none
  day : Option Nat := none
  deriving DecidableEq, Repr

namespace Fields

def get (fields : Fields) : DateField → Option Nat
  | .year => fields.year
  | .shortYear => fields.shortYear
  | .month => fields.month
  | .day => fields.day

def set (fields : Fields) (kind : DateField) (value : Nat) : Fields :=
  match kind with
  | .year => { fields with year := some value }
  | .shortYear => { fields with shortYear := some value }
  | .month => { fields with month := some value }
  | .day => { fields with day := some value }

/-- Puts in a value, unless the field has a different one. -/
def agree? (fields : Fields) (kind : DateField) (value : Nat) : Option Fields :=
  match fields.get kind with
  | some present => if present = value then some fields else none
  | none => some (fields.set kind value)

/-- The full year; two digits from 69 on are of the twentieth century, others of the twenty-first. -/
def fullYear (fields : Fields) : Nat :=
  match fields.year, fields.shortYear with
  | some year, _ => year
  | none, some short => if 69 ≤ short then 1900 + short else 2000 + short
  | none, none => 0

/-- The date of the fields, where a missing month or day is the first. -/
def date? (fields : Fields) : Option Date :=
  Date.of? fields.fullYear (fields.month.getD 1) (fields.day.getD 1)

end Fields

/-- A number of exactly `width` digits, of which `value` stands before the text. -/
def readDigits? : (width value : Nat) → List Char → Option (Nat × List Char)
  | 0, value, text => some (value, text)
  | _ + 1, _, [] => none
  | width + 1, value, c :: text =>
    if c.isDigit then readDigits? width (value * 10 + decimalDigit c) text else none

def readFields? : List LayoutPiece → Fields → List Char → Option Fields
  | [], fields, [] => some fields
  | [], _, _ :: _ => none
  | .field kind width :: pieces, fields, text =>
    match readDigits? width 0 text with
    | some (value, rest) =>
      match fields.agree? kind value with
      | some fields => readFields? pieces fields rest
      | none => none
    | none => none
  | .literal _ :: _, _, [] => none
  | .literal c :: pieces, fields, x :: text =>
    if x = c then readFields? pieces fields text else none

def readDate? (layout : DateLayout) (text : List Char) : Option Date :=
  (readFields? layout.pieces {} text).bind Fields.date?

end DateLayout

end Lapse
