import Lapse.Toml.Number
import Lapse.Toml.Quoted

/-!
# Reading TOML

`ofText?` gives the table of a document. Values may stand within each other up to a depth of 79,
and a key has fewer than 80 names.
-/
namespace Lapse.Toml

/-- What stands in messages for the reason why a text is no document. The reason is not kept. -/
def errorText : String := "<toml error>"

/-- One more than how deep values may stand within each other, and than the names of a key. -/
def depthLimit : Nat := 80

/-- Drops blanks, line ends and comments. -/
def dropFiller : (fuel : Nat) → List Char → List Char
  | 0, text => text
  | _ + 1, [] => []
  | fuel + 1, c :: rest =>
    if isGap c then dropFiller fuel rest
    else if c = '#' then dropFiller fuel (rest.dropWhile isPlain)
    else match lineEnd? (c :: rest) with
      | some rest => dropFiller fuel rest
      | none => c :: rest

/-- The text after a comment, if one stands here. -/
def dropComment : List Char → List Char
  | '#' :: rest => rest.dropWhile isPlain
  | text => text

/-- The text on the next line, when no more than blanks and a comment stand before it. -/
def nextLine? (text : List Char) : Option (List Char) :=
  match dropComment (text.dropWhile isGap) with
  | [] => some []
  | rest => lineEnd? rest

def isBareKeyChar (c : Char) : Bool := c.isAlphanum || c = '-' || c = '_'

def readName? (bound : Nat) (text : List Char) : Option (String × List Char) :=
  match readQuotedLine? bound text with
  | some result => some result
  | none =>
    let name := text.takeWhile isBareKeyChar
    if name.isEmpty then none else some (String.ofList name, text.dropWhile isBareKeyChar)

/-- The names of a key, with dots between them. -/
def readNames? (bound : Nat) : (fuel : Nat) → List Char → Option (List String × List Char)
  | 0, _ => none
  | fuel + 1, text => do
    let (name, rest) ← readName? bound (text.dropWhile isGap)
    match rest.dropWhile isGap with
    | '.' :: rest =>
      let (names, rest) ← readNames? bound fuel rest
      return (name :: names, rest)
    | rest => return ([name], rest)

def readKey? (bound : Nat) (text : List Char) : Option (DottedKey × List Char) := do
  let (names, rest) ← readNames? bound bound text
  if names.length < depthLimit then return (⟨names.dropLast, names.getLastD ""⟩, rest) else none

/-- The items of an array up to its closing bracket, each read by `item`. -/
def readItems? (bound : Nat) (item : List Char → Option (Toml × List Char)) :
    (fuel : Nat) → List Char → Option (List Toml × List Char)
  | 0, _ => none
  | fuel + 1, text =>
    match dropFiller bound text with
    | ']' :: rest => some ([], rest)
    | text => do
      let (value, rest) ← item text
      match dropFiller bound rest with
      | ']' :: rest => return ([value], rest)
      | ',' :: rest =>
        let (values, rest) ← readItems? bound item fuel rest
        return (value :: values, rest)
      | _ => none

/-- A key, its value read by `item`, and blanks around them. -/
def readPair? (bound : Nat) (item : List Char → Option (Toml × List Char)) (text : List Char) :
    Option ((DottedKey × Toml) × List Char) := do
  let (key, rest) ← readKey? bound text
  let rest ← expect? '=' rest
  let (value, rest) ← item (rest.dropWhile isGap)
  return ((key, value), rest.dropWhile isGap)

/-- The pairs of a table in braces after the opening one. -/
def readPairs? (bound : Nat) (item : List Char → Option (Toml × List Char)) :
    (fuel : Nat) → List Char → Option (List (DottedKey × Toml) × List Char)
  | 0, _ => none
  | fuel + 1, text => do
    let (pair, rest) ← readPair? bound item text
    match rest with
    | '\x7d' :: rest => return ([pair], rest)
    | ',' :: rest =>
      let (pairs, rest) ← readPairs? bound item fuel rest
      return (pair :: pairs, rest)
    | _ => none

/-- A table in braces after the opening one. -/
def readBraces? (bound : Nat) (item : List Char → Option (Toml × List Char)) (text : List Char) :
    Option (Toml × List Char) :=
  match text.dropWhile isGap with
  | '\x7d' :: rest => some (.table .braces [], rest)
  | _ => do
    let (pairs, rest) ← readPairs? bound item bound text
    return (← ofPairs? pairs, rest)

def readWord? (word : List Char) (value : Toml) (text : List Char) : Option (Toml × List Char) :=
  if word.isPrefixOf text then some (value, text.drop word.length) else none

/-- A value in which others stand at most `depth - 1` deep, and the text after it, when the text is
shorter than `bound`. -/
def readValue? (bound : Nat) : (depth : Nat) → List Char → Option (Toml × List Char)
  | depth, text =>
    match text, depth with
    | '"' :: _, _ => (readQuoted? bound text).map fun (s, rest) => (.string s, rest)
    | '\'' :: _, _ => (readQuoted? bound text).map fun (s, rest) => (.string s, rest)
    | 't' :: _, _ => readWord? "true".toList (.boolean true) text
    | 'f' :: _, _ => readWord? "false".toList (.boolean false) text
    | '[' :: rest, depth + 1 =>
      if depth = 0 then none
      else (readItems? bound (readValue? bound depth) bound rest).map fun (items, rest) =>
        (.array items, rest)
    | '\x7b' :: rest, depth + 1 =>
      if depth = 0 then none else readBraces? bound (readValue? bound depth) rest
    | _, _ => readNumber? text

def readStatement? (bound : Nat) (text : List Char) : Option (Statement × List Char) :=
  match text with
  | '[' :: '[' :: rest => do
    let (key, rest) ← readKey? bound rest
    return (.item key, ← nextLine? (← expect? ']' (← expect? ']' rest)))
  | '[' :: rest => do
    let (key, rest) ← readKey? bound rest
    return (.header key, ← nextLine? (← expect? ']' rest))
  | _ => do
    let ((key, value), rest) ← readPair? bound (readValue? bound depthLimit) text
    return (.assignment key value, ← nextLine? rest)

def readStatements? (bound : Nat) : (fuel : Nat) → List Char → Option (List Statement)
  | 0, _ => none
  | fuel + 1, text =>
    match dropFiller bound text with
    | [] => some []
    | text => do
      let (statement, rest) ← readStatement? bound text
      return statement :: (← readStatements? bound fuel rest)

/-- The table of a document, which may begin with a byte order mark. -/
def ofText? (text : List Char) : Option Entries :=
  let body := if text.head? = some '\ufeff' then text.drop 1 else text
  (readStatements? (body.length + 1) (body.length + 1) body).bind ofStatements?

end Lapse.Toml
