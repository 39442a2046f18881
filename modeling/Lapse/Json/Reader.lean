import Lapse.Json.Basic
import Lapse.Text.Intervals

/-!
# Reading JSON

`ofText?` reads a text that is one JSON value. Values may stand within each other up to a depth of
127, and every escape must stand for a character.
-/
namespace Lapse.Json

def isGap (c : Char) : Bool := c = ' ' ∨ c = '\n' ∨ c = '\t' ∨ c = '\r'

def dropGap (text : List Char) : List Char := text.dropWhile isGap

def readFourDigits? : List Char → Option (Nat × List Char)
  | a :: b :: c :: d :: rest =>
    let digits := [a, b, c, d]
    if digits.all fun x => x.isDigit || ('a' ≤ x && x ≤ 'f') || ('A' ≤ x && x ≤ 'F') then
      some (Text.hexValue digits, rest)
    else none
  | _ => none

/-- A character by one code unit or by a pair of surrogates, from after `\u` on. -/
def readUnits? (text : List Char) : Option (Char × List Char) := do
  let (high, rest) ← readFourDigits? text
  if high < 0xd800 ∨ 0xe000 ≤ high then return (Char.ofNat high, rest)
  else if 0xdc00 ≤ high then none
  else match rest with
    | '\\' :: 'u' :: rest => do
      let (low, rest) ← readFourDigits? rest
      if 0xdc00 ≤ low ∧ low < 0xe000 then
        return (Char.ofNat ((high - 0xd800) * 0x400 + (low - 0xdc00) + 0x10000), rest)
      else none
    | _ => none

/-- The character of an escape, from after the backslash on. -/
def readEscape? : List Char → Option (Char × List Char)
  | '"' :: rest => some ('"', rest)
  | '\\' :: rest => some ('\\', rest)
  | '/' :: rest => some ('/', rest)
  | 'b' :: rest => some ('\x08', rest)
  | 'f' :: rest => some ('\x0c', rest)
  | 'n' :: rest => some ('\n', rest)
  | 'r' :: rest => some ('\r', rest)
  | 't' :: rest => some ('\t', rest)
  | 'u' :: rest => readUnits? rest
  | _ => none

/-- The characters of a string up to its closing quote, after those in `done`, which are in
reverse. There are at most `fuel` characters left. -/
def readString? : (fuel : Nat) → (done text : List Char) → Option (String × List Char)
  | 0, _, _ => none
  | _ + 1, _, [] => none
  | fuel + 1, done, c :: rest =>
    if c = '"' then some (String.ofList done.reverse, rest)
    else if c = '\\' then
      match readEscape? rest with
      | some (c, rest) => readString? fuel (c :: done) rest
      | none => none
    else if c.toNat < 32 then none
    else readString? fuel (c :: done) rest

/-- Cuts a text after the digits at its start. -/
def takeDigits (text : List Char) : List Char × List Char :=
  (text.takeWhile Char.isDigit, text.dropWhile Char.isDigit)

def readFraction? : List Char → Option (List Char × List Char)
  | '.' :: rest =>
    let (digits, rest) := takeDigits rest
    if digits.isEmpty then none else some ('.' :: digits, rest)
  | text => some ([], text)

/-- The mark of an exponent, a sign and digits, or nothing. -/
def readExponent? : List Char → Option (List Char × List Char)
  | c :: rest =>
    if c = 'e' ∨ c = 'E' then
      let (sign, rest) := match rest with
        | '+' :: rest => (['+'], rest)
        | '-' :: rest => (['-'], rest)
        | rest => ([], rest)
      let (digits, rest) := takeDigits rest
      if digits.isEmpty then none else some (c :: sign ++ digits, rest)
    else some ([], c :: rest)
  | [] => some ([], [])

/-- A number as it is written. Whole numbers that no 64 bits hold, and minus zero, are real. -/
def readNumber? (negative : Bool) (text : List Char) : Option (Json × List Char) := do
  let (digits, rest) := takeDigits text
  let (fraction, rest) ← readFraction? rest
  let (exponent, rest) ← readExponent? rest
  let value := digits.foldl (fun n c => n * 10 + (c.toNat - '0'.toNat)) 0
  let literal := (if negative then ['-'] else []) ++ digits ++ fraction ++ exponent
  if digits.isEmpty ∨ digits.head? = some '0' ∧ 1 < digits.length then none
  else if fraction.isEmpty ∧ exponent.isEmpty ∧
      (if negative then 0 < value ∧ value ≤ Nat.pow 2 63 else value < Nat.pow 2 64) then
    return (.int (if negative then -(value : Int) else value), rest)
  else return (.real (String.ofList literal), rest)

/-- The items of an array after its bracket, each read by `item`. -/
def readItems? (item : List Char → Option (Json × List Char)) :
    (fuel : Nat) → List Char → Option (List Json × List Char)
  | 0, _ => none
  | fuel + 1, text => do
    let (value, rest) ← item text
    match dropGap rest with
    | ']' :: rest => return ([value], rest)
    | ',' :: rest =>
      let (values, rest) ← readItems? item fuel rest
      return (value :: values, rest)
    | _ => none

/-- The members of an object after its brace, each value read by `item`; no name is longer than
`bound`. -/
def readMembers? (item : List Char → Option (Json × List Char)) (bound : Nat) :
    (fuel : Nat) → List Char → Option (List (String × Json) × List Char)
  | 0, _ => none
  | fuel + 1, text =>
    match dropGap text with
    | '"' :: rest => do
      let (name, rest) ← readString? bound [] rest
      match dropGap rest with
      | ':' :: rest =>
        let (value, rest) ← item rest
        match dropGap rest with
        | '\x7d' :: rest => return ([(name, value)], rest)
        | ',' :: rest =>
          let (members, rest) ← readMembers? item bound fuel rest
          return ((name, value) :: members, rest)
        | _ => none
      | _ => none
    | _ => none

def readWord? (word : List Char) (value : Json) (text : List Char) : Option (Json × List Char) :=
  if word.isPrefixOf text then some (value, text.drop word.length) else none

/-- A value in which others stand at most `depth - 1` deep, and the text after it, when the text is
shorter than `bound`. -/
def readValue? (bound : Nat) : (depth : Nat) → List Char → Option (Json × List Char)
  | depth, text =>
    match dropGap text, depth with
    | '[' :: rest, depth + 1 =>
      match dropGap rest with
      | ']' :: rest => if depth = 0 then none else some (.array [], rest)
      | _ =>
        if depth = 0 then none
        else (readItems? (readValue? bound depth) bound rest).map fun (items, rest) =>
          (.array items, rest)
    | '\x7b' :: rest, depth + 1 =>
      match dropGap rest with
      | '\x7d' :: rest => if depth = 0 then none else some (.object [], rest)
      | _ =>
        if depth = 0 then none
        else (readMembers? (readValue? bound depth) bound bound rest).map fun (members, rest) =>
          (.object members, rest)
    | '"' :: rest, _ =>
      (readString? bound [] rest).map fun (s, rest) => (.string s, rest)
    | '-' :: rest, _ => readNumber? true rest
    | 't' :: rest, _ => readWord? "rue".toList (.bool true) rest
    | 'f' :: rest, _ => readWord? "alse".toList (.bool false) rest
    | 'n' :: rest, _ => readWord? "ull".toList .null rest
    | c :: rest, _ => if c.isDigit then readNumber? false (c :: rest) else none
    | [], _ => none

/-- One more than how deep values may stand within each other. -/
def depthLimit : Nat := 128

/-- Reads a text that is one value with gaps around it. -/
def ofText? (text : List Char) : Option Json := do
  let (value, rest) ← readValue? (text.length + 1) depthLimit text
  if (dropGap rest).isEmpty then some value else none

end Lapse.Json
