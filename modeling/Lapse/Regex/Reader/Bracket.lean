import Lapse.Regex.Reader.Escape

/-!
# Reading bracketed classes

A class in brackets holds characters, ranges, escapes, named classes and further classes, and may
combine sets of these by `&&`, `--` and `~~`.
-/
namespace Lapse.Regex.Reader

inductive SetOperation
  | inter | diff | symmDiff
  deriving DecidableEq, Repr

def SetOperation.apply : SetOperation → CharSet → CharSet → CharSet
  | inter, a, b => .inter a b
  | diff, a, b => .diff a b
  | symmDiff, a, b => .union (.diff a b) (.diff b a)

structure OpenClass where
  negated : Bool
  /-- The last operator with its left operand. -/
  pending : Option (SetOperation × CharSet)
  /-- How deep the parts of that operand stand within each other. -/
  leftHeight : Nat
  /-- The union of what stands after the last operator. -/
  members : CharSet
  /-- How many parts stand after the last operator. -/
  parts : Nat
  /-- How deep the parts of the deepest of them stand within each other. -/
  height : Nat
  deriving Repr

namespace OpenClass

def new (negated : Bool) : OpenClass := ⟨negated, none, 0, .empty, 0, 0⟩

def add (c : OpenClass) (s : CharSet) : OpenClass :=
  { c with members := .union c.members s, parts := c.parts + 1 }

/-- Adds a class whose parts stand so deep within each other. -/
def addClass (c : OpenClass) (s : CharSet) (height : Nat) : OpenClass :=
  { c.add s with height := max c.height height }

/-- How deep the parts of the class stand within each other. Several parts side by side are one
level of their own, and so is each operator. -/
def depth (c : OpenClass) : Nat :=
  let right := if c.parts ≤ 1 then c.height else c.height + 1
  match c.pending with
  | none => right
  | some _ => max c.leftHeight right + 1

def value (c : OpenClass) (flags : Flags) : CharSet :=
  match c.pending with
  | none => c.members
  | some (operation, left) => operation.apply (foldFor flags left) (foldFor flags c.members)

def operate (c : OpenClass) (flags : Flags) (operation : SetOperation) : OpenClass :=
  { c with
    pending := some (operation, c.value flags), leftHeight := c.depth,
    members := .empty, parts := 0, height := 0 }

def close? (c : OpenClass) (flags : Flags) : Option CharSet :=
  negate? flags c.negated (foldFor flags (c.value flags))

end OpenClass

/-- Whether a class is negated, and the text behind the circumflex. -/
def circumflex (flags : Flags) : List Char → Bool × List Char
  | '^' :: rest => (true, skip flags rest)
  | text => (false, text)

/-- An open class from what follows its circumflex on: any number of hyphens that stand for
themselves, or a closing bracket that does. -/
def openedClass? (flags : Flags) (negated : Bool) (text : List Char) :
    Option (OpenClass × List Char) :=
  let (hyphens, text) := takeParts flags (· = '-') false text
  let level : OpenClass := .new negated
  match hyphens, text with
  | _, [] => none
  | _ :: _, text => some ({ level.add (.singleton '-') with parts := hyphens.length }, text)
  | [], ']' :: rest =>
    match skip flags rest with
    | [] => none
    | text => some (level.add (.singleton ']'), text)
  | [], text => some (level, text)

/-- What follows an opening bracket. -/
def readOpening? (flags : Flags) (text : List Char) : Option (OpenClass × List Char) :=
  let (negated, text) := circumflex flags (skip flags text)
  openedClass? flags negated text

/-- The set that a text up to `:]` names, and the text behind that. -/
def readClassName? (negated : Bool) (text : List Char) : Option (Bool × CharSet × List Char) :=
  let name := text.takeWhile (· ≠ ':')
  match text.drop name.length with
  | ':' :: ']' :: rest =>
    (CharSet.posix.lookup (String.ofList name)).map fun s => (negated, s, rest)
  | _ => none

/-- A named class, from the character after its opening bracket on: whether it is negated, and the
set. -/
def readNamed? : List Char → Option (Bool × CharSet × List Char)
  | ':' :: '^' :: rest => readClassName? true rest
  | ':' :: rest => readClassName? false rest
  | _ => none

/-- A character, an escape or any other single part of a class. -/
def readPart? (flags : Flags) : List Char → Option (Primitive × List Char)
  | [] => none
  | c :: rest => if c = '\\' then readEscape? flags rest else some (.literal c false, rest)

def partSet? (flags : Flags) : Primitive → Option CharSet
  | .literal c _ => (setLiteral? flags c).map .singleton
  | .set s => some s
  | .look _ => none

def partLiteral? (flags : Flags) : Primitive → Option Char
  | .literal c _ => setLiteral? flags c
  | _ => none

/-- The next character that is no blank, where blanks are skipped. A number sign is passed over, but
not the comment that it begins. -/
def peek? (flags : Flags) (text : List Char) : Option Char :=
  if flags.ignoreBlank then
    let rest := text.dropWhile Text.isBlank
    if rest.head? = some '#' then (rest.tail.dropWhile Text.isBlank).head? else rest.head?
  else text.head?

/-- A part that is read already, or the range that it begins. A hyphen before a bracket or another
hyphen makes no range. -/
def rangeBehind? (flags : Flags) (first : Primitive) (rest : List Char) :
    Option (CharSet × List Char) := do
  match skip flags rest with
  | [] => none
  | '-' :: after =>
    if peek? flags after = some ']' ∨ peek? flags after = some '-' then
      return (← partSet? flags first, '-' :: after)
    else
      let (last, rest) ← readPart? flags (skip flags after)
      let low ← partLiteral? flags first
      let high ← partLiteral? flags last
      if low ≤ high then return (.interval low high, rest) else none
  | rest => return (← partSet? flags first, rest)

/-- A part or a range of two parts. -/
def readRange? (flags : Flags) (text : List Char) : Option (CharSet × List Char) :=
  (readPart? flags text).bind fun (first, rest) => rangeBehind? flags first rest

inductive BracketStep
  | more (levels : List OpenClass) (rest : List Char)
  | closed (s : CharSet) (height : Nat) (rest : List Char)
  deriving Repr

/-- Reads the next part inside the open classes `levels`, the innermost first. -/
def bracketStep? (flags : Flags) (levels : List OpenClass) (text : List Char) :
    Option BracketStep :=
  match levels, skip flags text with
  | [], _ => none
  | _, [] => none
  | level :: outer, c :: rest =>
    if c = '[' then
      match readNamed? rest with
      | some (negated, s, rest) => do
        let s ← negate? flags negated (foldFor flags s)
        return .more (level.add s :: outer) rest
      | none => (readOpening? flags rest).map fun (inner, rest) => .more (inner :: levels) rest
    else if c = ']' then do
      let s ← level.close? flags
      match outer with
      | [] => return .closed s (level.depth + 1) rest
      | parent :: more => return .more (parent.addClass s (level.depth + 1) :: more) rest
    else if c = '&' ∧ rest.head? = some '&' then
      some (.more (level.operate flags .inter :: outer) (rest.drop 1))
    else if c = '-' ∧ rest.head? = some '-' then
      some (.more (level.operate flags .diff :: outer) (rest.drop 1))
    else if c = '~' ∧ rest.head? = some '~' then
      some (.more (level.operate flags .symmDiff :: outer) (rest.drop 1))
    else (readRange? flags (c :: rest)).map fun (s, rest) => .more (level.add s :: outer) rest

/-- The set of the outermost open class, how deep its classes stand within each other, and the text
after its closing bracket. -/
def readLevels? (flags : Flags) (levels : List OpenClass) (text : List Char) :
    Option (CharSet × Nat × List Char) :=
  match bracketStep? flags levels text with
  | none => none
  | some (.closed s height rest) => some (s, height, rest)
  | some (.more levels rest) =>
    if rest.length < text.length then readLevels? flags levels rest else none
  termination_by text.length

/-- A bracketed class, from the character after its opening bracket on. -/
def readBracket? (flags : Flags) (text : List Char) : Option (CharSet × Nat × List Char) := do
  let (level, rest) ← readOpening? flags text
  readLevels? flags [level] rest

end Lapse.Regex.Reader
