import Lapse.Regex.Escape
import Lapse.Regex.Basic
import Lapse.Regex.Property
import Lapse.Regex.Reader.Flags
import Lapse.Text.Find

/-!
# Reading escapes

What a backslash and the characters after it stand for: a character, a class or a condition.
-/
namespace Lapse.Regex.Reader

inductive Primitive
  /-- One character; `byte` tells that it is written with two hexadecimal digits. -/
  | literal (c : Char) (byte : Bool)
  | set (s : CharSet)
  | look (l : Look)
  deriving Repr

def isHexDigit (c : Char) : Bool :=
  c.isDigit || ('a' ≤ c && c ≤ 'f') || ('A' ≤ c && c ≤ 'F')

/-- The character with this code point, if there is one. -/
def scalar? (n : Nat) : Option Char :=
  if n.isValidChar then some (Char.ofNat n) else none

/-- A set as it is matched under the flags for case. -/
def foldFor (flags : Flags) (s : CharSet) : CharSet :=
  if flags.ignoreCase then (if flags.unicode then .fold s else .foldAscii s) else s

/-- A set or, when `negated`, its complement. Without the flag `u` there are no complements, since
a byte that is not ASCII could match on its own. -/
def negate? (flags : Flags) (negated : Bool) (s : CharSet) : Option CharSet :=
  if negated then (if flags.unicode then some (.compl s) else none) else some s

/-- A character of a class, which must be ASCII without the flag `u`. -/
def setLiteral? (flags : Flags) (c : Char) : Option Char :=
  if flags.unicode || c.val < 128 then some c else none

/-- The value of exactly `count` hexadecimal digits, of which `value` is already read. -/
def readHexDigits? (flags : Flags) : (count value : Nat) → List Char → Option (Nat × List Char)
  | 0, value, text => some (value, text)
  | _ + 1, _, [] => none
  | count + 1, value, c :: text =>
    if isHexDigit c then
      match count with
      | 0 => some (value * 16 + Text.hexDigit c, text)
      | _ => readHexDigits? flags count (value * 16 + Text.hexDigit c) (skip flags text)
    else none

/-- A character by its code point: `count` digits, or any number of them in braces. -/
def readCodePoint? (flags : Flags) (count : Nat) (text : List Char) :
    Option (Primitive × List Char) :=
  match skip flags text with
  | '\x7b' :: rest =>
    match takeParts flags isHexDigit false rest with
    | (d :: digits, '\x7d' :: rest) =>
      (scalar? (Text.hexValue (d :: digits))).map fun c => (.literal c false, rest)
    | _ => none
  | text => do
    let (value, rest) ← readHexDigits? flags count 0 text
    let c ← scalar? value
    return (.literal c (count = 2), rest)

/-- The set that the text between the braces of a property class names. All three signs between a
property and its value mean the same, `!=` too. -/
def propertySet? (text : List Char) : Option CharSet :=
  let parts := (Text.splitAt? ['!', '='] text).or
    ((Text.splitAt? [':'] text).or (Text.splitAt? ['='] text))
  match parts with
  | some (property, value) => Property.ofValue? property value
  | none => Property.ofName? text

/-- The set of a property class with this name, and the text behind it. -/
def propertyClass? (flags : Flags) (negated : Bool) (name rest : List Char) :
    Option (Primitive × List Char) :=
  (propertySet? name).bind fun s =>
    if flags.unicode then
      (negate? flags negated (foldFor flags s)).bind fun s => some (.set s, rest)
    else none

/-- The name of a property class and the text behind it. -/
def propertyName? (flags : Flags) (text : List Char) : Option (List Char × List Char) :=
  match skip flags text with
  | [] => none
  | '\x7b' :: rest =>
    match takeParts flags (· ≠ '\x7d') false rest with
    | (name, _ :: rest) => some (name, rest)
    | (_, []) => none
  | c :: rest => if c = '\\' then none else some ([c], rest)

/-- A property class, from the character after `p` or `P` on. -/
def readProperty? (flags : Flags) (negated : Bool) (text : List Char) :
    Option (Primitive × List Char) :=
  (propertyName? flags text).bind fun (name, rest) => propertyClass? flags negated name rest

/-- The class of one of the letters `d`, `s` and `w`. -/
def letterSet (flags : Flags) (c : Char) : CharSet :=
  if c = 'd' then (if flags.unicode then .decimalDigit else .asciiDigit)
  else if c = 's' then (if flags.unicode then .blank else .asciiBlank)
  else (if flags.unicode then .word else .asciiWord)

def wordLook? (flags : Flags) (name : String) : Option Look :=
  let ascii := !flags.unicode
  if name = "start" then some (.wordStart ascii)
  else if name = "end" then some (.wordStop ascii)
  else if name = "start-half" then some (.wordStartHalf ascii)
  else if name = "end-half" then some (.wordStopHalf ascii)
  else none

/-- What follows `\b`: the kind of boundary in braces, or anything else. -/
def readBoundary? (flags : Flags) (text : List Char) : Option (Primitive × List Char) :=
  let plain := some (Primitive.look (.boundary !flags.unicode), text)
  match text with
  | '\x7b' :: rest =>
    let isNameChar (c : Char) := c.isAlpha || c = '-'
    match skip flags rest with
    | [] => none
    | c :: _ =>
      if isNameChar c then
        match takeParts flags isNameChar false rest with
        | (name, '\x7d' :: rest) =>
          (wordLook? flags (String.ofList name)).map fun l => (.look l, rest)
        | _ => none
      else plain
  | _ => plain

/-- An escape, from the character after the backslash on. -/
def readEscape? (flags : Flags) : List Char → Option (Primitive × List Char)
  | [] => none
  | c :: rest =>
    let literal (c : Char) := some (Primitive.literal c false, rest)
    let look (l : Look) := some (Primitive.look l, rest)
    if c = 'x' then readCodePoint? flags 2 rest
    else if c = 'u' then readCodePoint? flags 4 rest
    else if c = 'U' then readCodePoint? flags 8 rest
    else if c = 'p' then readProperty? flags false rest
    else if c = 'P' then readProperty? flags true rest
    else if c = 'd' ∨ c = 's' ∨ c = 'w' then some (.set (letterSet flags c), rest)
    else if c = 'D' ∨ c = 'S' ∨ c = 'W' then
      (negate? flags true (letterSet flags c.toLower)).map fun s => (.set s, rest)
    else if c = 'a' then literal '\x07'
    else if c = 'f' then literal '\x0c'
    else if c = 't' then literal '\t'
    else if c = 'n' then literal '\n'
    else if c = 'r' then literal '\r'
    else if c = 'v' then literal '\x0b'
    else if c = 'A' then look .start
    else if c = 'z' then look .stop
    else if c = 'b' then readBoundary? flags rest
    else if c = 'B' then look (.noBoundary !flags.unicode)
    else if c = '<' then look (.wordStart !flags.unicode)
    else if c = '>' then look (.wordStop !flags.unicode)
    else if c.val < 128 ∧ !c.isAlphanum then literal c
    else none

end Lapse.Regex.Reader
