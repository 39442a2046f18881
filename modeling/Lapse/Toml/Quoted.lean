import Lapse.Text.Intervals

/-!
# Quoted texts in TOML

A text stands between double quotes, with escapes, or between single quotes, as it is. Three quotes
on each side allow line ends and single quotes of the same kind within. `quote` writes a text in
the plainest way that can hold it, and `readQuoted?` reads all of them.
-/
namespace Lapse.Toml

def isGap (c : Char) : Bool := c = ' ' ∨ c = '\t'

/-- A character that is no control character, or a tab. -/
def isPlain (c : Char) : Bool := c = '\t' ∨ (32 ≤ c.toNat ∧ c.toNat ≠ 127)

def lineEnd? : List Char → Option (List Char)
  | '\n' :: rest => some rest
  | '\r' :: '\n' :: rest => some rest
  | _ => none

def isHexDigit (c : Char) : Bool :=
  c.isDigit || ('a' ≤ c && c ≤ 'f') || ('A' ≤ c && c ≤ 'F')

/-- A character by its number in `count` hexadecimal digits. -/
def readScalar? (count : Nat) (text : List Char) : Option (Char × List Char) :=
  let digits := text.take count
  let value := Text.hexValue digits
  if digits.length = count ∧ digits.all isHexDigit ∧ value.isValidChar then
    some (Char.ofNat value, text.drop count)
  else none

/-- The character of an escape, from after the backslash on. -/
def readEscape? : List Char → Option (Char × List Char)
  | 'b' :: rest => some ('\x08', rest)
  | 't' :: rest => some ('\t', rest)
  | 'n' :: rest => some ('\n', rest)
  | 'f' :: rest => some ('\x0c', rest)
  | 'r' :: rest => some ('\r', rest)
  | '"' :: rest => some ('"', rest)
  | '\\' :: rest => some ('\\', rest)
  | 'u' :: rest => readScalar? 4 rest
  | 'U' :: rest => readScalar? 8 rest
  | _ => none

/-- The rest of a text on one line up to its closing `mark`, after the characters in `done`, which
are in reverse. There are fewer than `fuel` characters left. -/
def readLine? (mark : Char) : (fuel : Nat) → (done text : List Char) →
    Option (List Char × List Char)
  | 0, _, _ => none
  | _ + 1, _, [] => none
  | fuel + 1, done, c :: rest =>
    if c = mark then some (done.reverse, rest)
    else if c = '\\' ∧ mark = '"' then
      match readEscape? rest with
      | some (c, rest) => readLine? mark fuel (c :: done) rest
      | none => none
    else if isPlain c then readLine? mark fuel (c :: done) rest
    else none

/-- Drops blanks and line ends. -/
def dropLines : List Char → List Char
  | [] => []
  | [c] => if isGap c ∨ c = '\n' then [] else [c]
  | c :: d :: rest =>
    if isGap c ∨ c = '\n' then dropLines (d :: rest)
    else if c = '\r' ∧ d = '\n' then dropLines rest
    else c :: d :: rest

/-- The text after blanks, a line end and all blanks and line ends that follow. -/
def continued? (text : List Char) : Option (List Char) :=
  (lineEnd? (text.dropWhile isGap)).map dropLines

/-- The rest of a text that may go over lines up to its three closing marks. Of up to five marks in
a row the last three close the text. -/
def readBlock? (mark : Char) : (fuel : Nat) → (done text : List Char) →
    Option (List Char × List Char)
  | 0, _, _ => none
  | _ + 1, _, [] => none
  | fuel + 1, done, c :: rest =>
    if c = mark then
      let marks := (c :: rest).takeWhile (· = mark)
      let rest := (c :: rest).dropWhile (· = mark)
      if marks.length < 3 then readBlock? mark fuel (marks ++ done) rest
      else if marks.length < 6 then some ((marks.drop 3 ++ done).reverse, rest)
      else none
    else if c = '\\' ∧ mark = '"' then
      match continued? rest, readEscape? rest with
      | some rest, _ => readBlock? mark fuel done rest
      | none, some (c, rest) => readBlock? mark fuel (c :: done) rest
      | none, none => none
    else match lineEnd? (c :: rest) with
      | some rest => readBlock? mark fuel ('\n' :: done) rest
      | none => if isPlain c then readBlock? mark fuel (c :: done) rest else none

/-- A text in quotes of any kind. A line end right after three opening marks is left out. -/
def readQuoted? (bound : Nat) (text : List Char) : Option (String × List Char) :=
  let read (mark : Char) (rest : List Char) :=
    match rest with
    | a :: b :: rest' =>
      if a = mark ∧ b = mark then
        readBlock? mark bound [] ((lineEnd? rest').getD rest')
      else readLine? mark bound [] rest
    | _ => readLine? mark bound [] rest
  match text with
  | '"' :: rest => (read '"' rest).map fun (s, rest) => (String.ofList s, rest)
  | '\'' :: rest => (read '\'' rest).map fun (s, rest) => (String.ofList s, rest)
  | _ => none

def readQuotedLine? (bound : Nat) : List Char → Option (String × List Char)
  | '"' :: rest => (readLine? '"' bound [] rest).map fun (s, rest) => (String.ofList s, rest)
  | '\'' :: rest => (readLine? '\'' bound [] rest).map fun (s, rest) => (String.ofList s, rest)
  | _ => none

structure QuoteStyle where
  /-- In double quotes, where escapes count. -/
  escapes : Bool
  /-- With three marks on each side. -/
  block : Bool
  deriving DecidableEq, Repr

def longestRun (mark : Char) (text : List Char) : Nat :=
  (text.foldl (fun (best, now) c => if c = mark then (max best (now + 1), now + 1) else (best, 0))
    (0, 0)).1

/-- Whether a text can stand in a style with no character changed but tabs. -/
def holds (style : QuoteStyle) (text : List Char) : Bool :=
  text.all (fun c => isPlain c ∨ c = '\n') &&
  (style.block || !text.contains '\n') &&
  (!style.escapes || !text.contains '\\') &&
  longestRun (if style.escapes then '"' else '\'') text ≤ if style.block then 2 else 0

/-- The first style that holds a text as it is; failing that, escapes on one line or, for a text
with line ends, on several. -/
def styleFor (text : List Char) : QuoteStyle :=
  (([⟨true, false⟩, ⟨false, false⟩, ⟨true, true⟩, ⟨false, true⟩] : List QuoteStyle).find?
    (holds · text)).getD ⟨true, text.contains '\n'⟩

def upperHexDigit (n : Nat) : Char :=
  if n < 10 then Char.ofNat ('0'.toNat + n) else Char.ofNat ('A'.toNat + (n - 10))

def escapeChar (block : Bool) (c : Char) : List Char :=
  if c = '\\' then ['\\', '\\']
  else if c = '\x08' then ['\\', 'b']
  else if c = '\t' then ['\\', 't']
  else if c = '\n' then if block then ['\n'] else ['\\', 'n']
  else if c = '\x0c' then ['\\', 'f']
  else if c = '\r' then ['\\', 'r']
  else if isPlain c then [c]
  else ['\\', 'u', '0', '0', upperHexDigit (c.toNat / 16), upperHexDigit (c.toNat % 16)]

/-- A text in double quotes, where `quotes` of them have just been written as they are. Among three
marks two quotes in a row may stand as they are. -/
def escapeText (block : Bool) : (quotes : Nat) → List Char → List Char
  | _, [] => []
  | quotes, c :: rest =>
    if c = '"' then
      if block ∧ quotes < 2 then c :: escapeText block (quotes + 1) rest
      else '\\' :: c :: escapeText block 0 rest
    else escapeChar block c ++ escapeText block 0 rest

/-- A text in quotes. A block begins on a new line when its text has line ends. -/
def quoteAs (style : QuoteStyle) (text : List Char) : List Char :=
  let mark := if style.escapes then '"' else '\''
  let marks := List.replicate (if style.block then 3 else 1) mark
  let gap := if style.block ∧ text.contains '\n' then ['\n'] else []
  marks ++ gap ++ (if style.escapes then escapeText style.block 0 text else text) ++ marks

def quote (text : String) : List Char := quoteAs (styleFor text.toList) text.toList

end Lapse.Toml
