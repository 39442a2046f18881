import Lapse.Regex.Reader.Bracket

/-!
# Reading patterns

The reader goes over the text of a pattern once, from left to right. It keeps the groups that are
open and, in each of them, the alternatives and the items of the current one. `ofAnySize?` gives
the pattern of a text, or nothing when the text is not a pattern, and `ofText?` only patterns that
are not too large.
-/
namespace Lapse.Regex

/-- What stands in messages for the reason why a text is no pattern. The reason is not kept. -/
def errorText : String := "<regex error>"

namespace Reader

structure Item where
  regex : Regex
  /-- How deep the parts of the item stand within each other. -/
  height : Nat
  /-- A change of flags cannot be repeated, everything else can. -/
  repeatable : Bool
  deriving Repr

/-- An open group: its finished alternatives and the items of the current one, latest first. -/
structure Level where
  done : List Item
  items : List Item
  deriving Repr

namespace Level

def new : Level := ⟨[], []⟩

def push (level : Level) (item : Item) : Level := { level with items := item :: level.items }

/-- The sequence of the items of the current alternative. -/
def current (level : Level) : Item :=
  match level.items with
  | [] => ⟨.empty, 0, true⟩
  | [item] => item
  | items =>
    ⟨sequence (items.reverse.map (·.regex)), (items.map (·.height)).foldl max 0 + 1, true⟩

def split (level : Level) : Level := ⟨level.current :: level.done, []⟩

def close (level : Level) : Item :=
  match level.done with
  | [] => level.current
  | done =>
    let all := (level.current :: done).reverse
    ⟨choice (all.map (·.regex)), (all.map (·.height)).foldl max 0 + 1, true⟩

end Level

/-- What begins a group: its number and name when it captures. -/
structure Opening where
  capture : Option (Nat × Option String)
  /-- The flags to return to at its end. -/
  flags : Flags
  deriving Repr

structure State where
  flags : Flags
  /-- How many capturing groups have begun. -/
  captures : Nat
  names : List String
  level : Level
  /-- The enclosing groups, innermost first, each with what began the group inside it. -/
  outer : List (Level × Opening)
  deriving Repr

namespace State

def start : State := ⟨{}, 0, [], .new, []⟩

def push (s : State) (item : Item) : State := { s with level := s.level.push item }

/-- Begins a group inside which `flags` hold. -/
def enter (s : State) (capture : Option (Nat × Option String)) (flags : Flags) : State :=
  { s with
    flags := flags, level := .new, outer := (s.level, ⟨capture, s.flags⟩) :: s.outer }

def enterCapture (s : State) (name : Option String) : State :=
  { s.enter (some (s.captures + 1, name)) s.flags with
    captures := s.captures + 1, names := name.toList ++ s.names }

def leave? (s : State) : Option State :=
  match s.outer with
  | [] => none
  | (level, opening) :: outer =>
    let inner := s.level.close
    let regex := match opening.capture with
      | some (index, name) => .group index name inner.regex
      | none => inner.regex
    some { s with
      flags := opening.flags, level := level.push ⟨regex, inner.height + 1, true⟩, outer := outer }

/-- Takes back the last item, if it can be repeated. -/
def popRepeatable? (s : State) : Option (Item × State) :=
  match s.level.items with
  | item :: items =>
    if item.repeatable then some (item, { s with level := { s.level with items := items } })
    else none
  | [] => none

def repeatLast? (s : State) (least : Nat) (most : Option Nat) (greedy : Bool) : Option State := do
  let (item, s) ← s.popRepeatable?
  return s.push
    ⟨repetition item.regex least most (greedy != s.flags.swapGreed), item.height + 1, true⟩

end State

def isNameStart (c : Char) : Bool := c = '_' || Text.isAlphabetic c

def isNameChar (c : Char) : Bool :=
  c = '_' || c = '.' || c = '[' || c = ']' || Text.isAlphanumeric c

/-- The name of a group and the text after the bracket that ends it. -/
def readName? (text : List Char) : Option (String × List Char) :=
  let name := text.takeWhile (· ≠ '>')
  match name, text.drop name.length with
  | first :: others, _ :: rest =>
    if isNameStart first && others.all isNameChar then some (String.ofList name, rest) else none
  | _, _ => none

/-- A named group, from the first character of its name on. -/
def readNamedGroup? (s : State) (text : List Char) : Option (State × List Char) := do
  let (name, rest) ← readName? text
  if s.names.contains name then none else return (s.enterCapture (some name), rest)

/-- What follows `(?`: flags for the rest of the enclosing group or for a group of their own. -/
def readFlagGroup? (s : State) (text : List Char) : Option (State × List Char) := do
  let (signs, stop, rest) ← readSigns? text
  if !signsAllowed signs then none
  else
    let flags := s.flags.apply signs true
    if stop = ':' then return (s.enter none flags, rest)
    else if signs.isEmpty then none
    else return ({ s with flags := flags }.push ⟨.empty, 0, false⟩, rest)

/-- The beginning of a group from what follows its question mark on. -/
def readMarked? (s : State) : List Char → Option (State × List Char)
  | 'P' :: '<' :: rest => readNamedGroup? s rest
  | '<' :: '=' :: _ => none
  | '<' :: '!' :: _ => none
  | '<' :: rest => readNamedGroup? s rest
  | text => readFlagGroup? s text

/-- The beginning of a group, from the character after its parenthesis on. -/
def readGroup? (s : State) (text : List Char) : Option (State × List Char) :=
  match skip s.flags text with
  | '?' :: rest => readMarked? s rest
  | text => some (s.enterCapture none, text)

/-- A question mark, which makes a repetition lazy, is taken; `true` without one. -/
def readGreed : List Char → Bool × List Char
  | '?' :: rest => (false, rest)
  | text => (true, text)

/-- A number below 2³² with blanks around it. -/
def readBound? (flags : Flags) (text : List Char) : Option (Nat × List Char) :=
  let (digits, rest) := takeParts flags Char.isDigit false (text.dropWhile Text.isBlank)
  let value := digits.foldl (fun n c => n * 10 + (c.toNat - '0'.toNat)) 0
  if digits.isEmpty ∨ 4294967296 ≤ value then none
  else some (value, rest.dropWhile Text.isBlank)

/-- The bounds of a repetition from what follows its comma on. -/
def readMost? (flags : Flags) (least : Nat) (text : List Char) :
    Option (Nat × Option Nat × List Char) := do
  match skip flags text with
  | '\x7d' :: rest => return (least, none, rest)
  | text =>
    let (most, rest) ← readBound? flags text
    match rest with
    | '\x7d' :: rest => if least ≤ most then return (least, some most, rest) else none
    | _ => none

/-- The bounds of a repetition from what follows the first of them on. -/
def boundsBehind? (flags : Flags) (least : Nat) : List Char → Option (Nat × Option Nat × List Char)
  | '\x7d' :: rest => some (least, some least, rest)
  | ',' :: rest => readMost? flags least rest
  | _ => none

/-- The bounds of a counted repetition, from the character after its brace on. -/
def readBounds? (flags : Flags) (text : List Char) : Option (Nat × Option Nat × List Char) :=
  (readBound? flags (skip flags text)).bind fun (least, rest) => boundsBehind? flags least rest

def readCounted? (s : State) (text : List Char) : Option (State × List Char) := do
  let (least, most, rest) ← readBounds? s.flags text
  let (greedy, rest) := readGreed (skip s.flags rest)
  return (← s.repeatLast? least most greedy, rest)

/-- What a dot matches. Without the flag `u` it could match a byte that is not ASCII. -/
def dotSet? (flags : Flags) : Option CharSet :=
  if !flags.unicode then none
  else if flags.dotMatchesAll then some .any
  else if flags.crlf then some (.compl (.union (.singleton '\r') (.singleton '\n')))
  else some (.compl (.singleton '\n'))

def lineStartLook (flags : Flags) : Look :=
  if !flags.multiLine then .start else if flags.crlf then .lineStartCrlf else .lineStart

def lineStopLook (flags : Flags) : Look :=
  if !flags.multiLine then .stop else if flags.crlf then .lineStopCrlf else .lineStop

def primitiveRegex? (flags : Flags) : Primitive → Option Regex
  | .literal c byte =>
    if byte && !flags.unicode && 128 ≤ c.val then none
    else some (.set (foldFor flags (.singleton c)))
  | .set s => some (.set s)
  | .look l => some (.look l)

def step? (s : State) (text : List Char) : Option (State × List Char) :=
  let leaf (regex : Regex) := s.push ⟨regex, 0, true⟩
  match text with
  | [] => none
  | c :: rest =>
    if c = '(' then readGroup? s rest
    else if c = ')' then s.leave?.map fun s => (s, rest)
    else if c = '|' then some ({ s with level := s.level.split }, rest)
    else if c = '[' then
      (readBracket? s.flags rest).map fun (chars, height, rest) =>
        (s.push ⟨.set chars, height, true⟩, rest)
    else if c = '?' then
      let (greedy, rest) := readGreed rest
      (s.repeatLast? 0 (some 1) greedy).map fun s => (s, rest)
    else if c = '*' then
      let (greedy, rest) := readGreed rest
      (s.repeatLast? 0 none greedy).map fun s => (s, rest)
    else if c = '+' then
      let (greedy, rest) := readGreed rest
      (s.repeatLast? 1 none greedy).map fun s => (s, rest)
    else if c = '\x7b' then readCounted? s rest
    else if c = '\\' then do
      let (primitive, rest) ← readEscape? s.flags rest
      return (leaf (← primitiveRegex? s.flags primitive), rest)
    else if c = '.' then (dotSet? s.flags).map fun chars => (leaf (.set chars), rest)
    else if c = '^' then some (leaf (.look (lineStartLook s.flags)), rest)
    else if c = '$' then some (leaf (.look (lineStopLook s.flags)), rest)
    else (primitiveRegex? s.flags (.literal c false)).map fun regex => (leaf regex, rest)

def read? (s : State) (text : List Char) : Option State :=
  match skip s.flags text with
  | [] => some s
  | c :: rest =>
    match step? s (c :: rest) with
    | none => none
    | some (s, rest) => if rest.length < text.length then read? s rest else none
  termination_by text.length

/-- How deep the parts of a pattern may stand within each other. -/
def heightLimit : Nat := 250

/-- The pattern that is read when no group is open. -/
def State.finish? (s : State) : Option Regex :=
  match s.outer with
  | [] => if s.level.close.height ≤ heightLimit then some s.level.close.regex else none
  | _ :: _ => none

end Reader

/-- The pattern that a text is, however large. -/
def ofAnySize? (text : List Char) : Option Regex :=
  (Reader.read? .start text).bind Reader.State.finish?

/-- Which patterns are not too large. Their size is that of the machine that is built to search for
them, and how it is built is left open here. -/
class SizeLimit where
  admits : Regex → Bool

/-- The pattern that a text is, if it is one and not too large. -/
def ofText? [SizeLimit] (text : List Char) : Option Regex :=
  (ofAnySize? text).filter SizeLimit.admits

theorem ofText?_eq_some_iff [SizeLimit] {text : List Char} {regex : Regex} :
    ofText? text = some regex ↔ ofAnySize? text = some regex ∧ SizeLimit.admits regex = true :=
  Option.filter_eq_some_iff

end Lapse.Regex
