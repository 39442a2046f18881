import Lapse.Calendar.Date
import Lapse.Text.Intervals
import Lapse.Toml.Basic

/-!
# Numbers, dates and times in TOML

Integers lie in 64 bits and are written in base ten, sixteen, eight or two; digits may have single
underscores between them. The other numbers keep their text.
-/
namespace Lapse.Toml

/-- No underscore stands first, last or next to another. -/
def wellSpaced : List Char → Bool
  | [] => false
  | ['_'] => false
  | '_' :: _ => false
  | [_] => true
  | _ :: '_' :: rest => wellSpaced rest
  | _ :: rest => wellSpaced rest

/-- Digits with single underscores between them: as written, and the text after them. -/
def readDigits? (isDigit : Char → Bool) (text : List Char) : Option (List Char × List Char) :=
  let word := text.takeWhile fun c => isDigit c || c = '_'
  if wellSpaced word then some (word, text.dropWhile fun c => isDigit c || c = '_') else none

def digitsValue (base : Nat) (word : List Char) : Nat :=
  (word.filter (· ≠ '_')).foldl (fun n c => n * base + Text.hexDigit c) 0

def inBase? (base : Nat) (isDigit : Char → Bool) (text : List Char) :
    Option (Toml × List Char) := do
  let (word, rest) ← readDigits? isDigit text
  let value := digitsValue base word
  if value < Nat.pow 2 63 then return (.integer value, rest) else none

def isHexadecimal (c : Char) : Bool :=
  c.isDigit || ('a' ≤ c && c ≤ 'f') || ('A' ≤ c && c ≤ 'F')

def isOctal (c : Char) : Bool := '0' ≤ c && c ≤ '7'

def isBinary (c : Char) : Bool := c = '0' || c = '1'

/-- A sign, if there is one. -/
def readSign : List Char → List Char × List Char
  | '+' :: rest => (['+'], rest)
  | '-' :: rest => (['-'], rest)
  | text => ([], text)

def readFraction? : List Char → Option (List Char × List Char)
  | '.' :: rest => (readDigits? Char.isDigit rest).map fun (word, rest) => ('.' :: word, rest)
  | text => some ([], text)

/-- The mark of an exponent, a sign and digits, or nothing. -/
def readExponent? : List Char → Option (List Char × List Char)
  | c :: rest =>
    if c = 'e' ∨ c = 'E' then
      let (sign, rest) := readSign rest
      (readDigits? Char.isDigit rest).map fun (word, rest) => (c :: sign ++ word, rest)
    else some ([], c :: rest)
  | [] => some ([], [])

/-- A number `mantissa * 10 ^ exponent` that rounds to infinity among numbers of 53 binary digits:
one not below `2 ^ 1024 - 2 ^ 970`. -/
def isHuge (mantissa : Nat) (exponent : Int) : Bool :=
  let length : Int := (toString mantissa).length
  if mantissa = 0 ∨ length + exponent < 300 then false
  else if 320 < length + exponent then true
  else
    let bound := Nat.pow 2 1024 - Nat.pow 2 970
    if 0 ≤ exponent then bound ≤ mantissa * Nat.pow 10 exponent.toNat
    else bound * Nat.pow 10 (-exponent).toNat ≤ mantissa

/-- Whether sign, digits, fraction and exponent as written stand for a positive number that is too
large. -/
def overflows (sign whole fraction exponent : List Char) : Bool :=
  let digits := (fraction.drop 1).filter (· ≠ '_')
  let (exponentSign, exponentDigits) := readSign (exponent.drop 1)
  let shift : Int := digitsValue 10 exponentDigits
  sign ≠ ['-'] &&
    isHuge (digitsValue 10 (whole ++ digits))
      ((if exponentSign = ['-'] then -shift else shift) - digits.length)

/-- A number in base ten, or infinity, or no number. -/
def readDecimal? (text : List Char) : Option (Toml × List Char) :=
  let (sign, rest) := readSign text
  match rest with
  | 'i' :: 'n' :: 'f' :: rest => some (.float (String.ofList (sign ++ "inf".toList)), rest)
  | 'n' :: 'a' :: 'n' :: rest => some (.float (String.ofList (sign ++ "nan".toList)), rest)
  | _ => do
    let (whole, rest) ← readDigits? Char.isDigit rest
    let (fraction, rest) ← readFraction? rest
    let (exponent, rest) ← readExponent? rest
    if whole.head? = some '0' ∧ 1 < whole.length then none
    else if fraction.isEmpty ∧ exponent.isEmpty then
      let size : Int := digitsValue 10 whole
      let value := if sign = ['-'] then -size else size
      let bound : Int := Nat.pow 2 63
      if -bound ≤ value ∧ value < bound then return (.integer value, rest) else none
    else if overflows sign whole fraction exponent then none
    else return (.float (String.ofList (sign ++ whole ++ fraction ++ exponent)), rest)

/-- Exactly `count` digits: their value, and the text after them. -/
def readWidth? (count : Nat) (text : List Char) : Option (Nat × List Char) :=
  let digits := text.take count
  if digits.length = count ∧ digits.all Char.isDigit then
    some (digitsValue 10 digits, text.drop count)
  else none

def expect? (c : Char) : List Char → Option (List Char)
  | d :: rest => if c = d then some rest else none
  | [] => none

def afterDate? (text : List Char) : Option (List Char) := do
  let (year, rest) ← readWidth? 4 text
  let rest ← expect? '-' rest
  let (month, rest) ← readWidth? 2 rest
  let rest ← expect? '-' rest
  let (day, rest) ← readWidth? 2 rest
  (Calendar.Date.of? year month day).map fun _ => rest

/-- The text after the fraction of a second, if there is one. -/
def afterFraction (text : List Char) : List Char :=
  match text with
  | '.' :: rest => if (rest.head?.any Char.isDigit) then rest.dropWhile Char.isDigit else text
  | _ => text

def afterTime? (text : List Char) : Option (List Char) := do
  let (hour, rest) ← readWidth? 2 text
  let rest ← expect? ':' rest
  let (minute, rest) ← readWidth? 2 rest
  let rest ← expect? ':' rest
  let (second, rest) ← readWidth? 2 rest
  if hour ≤ 23 ∧ minute ≤ 59 ∧ second ≤ 60 then return afterFraction rest else none

/-- The text after the distance from Greenwich, if there is one. -/
def afterOffset (text : List Char) : List Char :=
  match text with
  | 'Z' :: rest => rest
  | 'z' :: rest => rest
  | _ :: rest =>
    let after : Option (List Char) := do
      let (hour, rest) ← readWidth? 2 rest
      let rest ← expect? ':' rest
      let (minute, rest) ← readWidth? 2 rest
      if (readSign text).1 ≠ [] ∧ hour ≤ 23 ∧ minute ≤ 59 then return rest else none
    after.getD text
  | [] => []

/-- The text after a date, a time or both. -/
def afterMoment? (text : List Char) : Option (List Char) :=
  match afterDate? text with
  | none => afterTime? text
  | some rest =>
    match rest with
    | c :: timeText =>
      if c = 'T' ∨ c = 't' ∨ c = ' ' then
        some (((afterTime? timeText).map afterOffset).getD rest)
      else some rest
    | [] => some rest

def readNumber? (text : List Char) : Option (Toml × List Char) :=
  match afterMoment? text with
  | some rest => some (.moment (String.ofList (text.take (text.length - rest.length))), rest)
  | none =>
    match text with
    | '0' :: 'x' :: rest => inBase? 16 isHexadecimal rest
    | '0' :: 'o' :: rest => inBase? 8 isOctal rest
    | '0' :: 'b' :: rest => inBase? 2 isBinary rest
    | _ => readDecimal? text

end Lapse.Toml
