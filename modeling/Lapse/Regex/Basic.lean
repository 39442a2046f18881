import Lapse.Regex.CharSet

/-!
# Patterns

The structure of a pattern, the places of a text, the conditions on them, and what the groups of a
pattern match.
-/
namespace Lapse

/-- Conditions on the characters on both sides of a place. -/
inductive Regex.Look
  | start | stop | lineStart | lineStop | lineStartCrlf | lineStopCrlf
  | boundary (ascii : Bool) | noBoundary (ascii : Bool)
  | wordStart (ascii : Bool) | wordStop (ascii : Bool)
  | wordStartHalf (ascii : Bool) | wordStopHalf (ascii : Bool)
  deriving DecidableEq, Repr

inductive Regex
  | empty
  | set (s : Regex.CharSet)
  | look (l : Regex.Look)
  | seq (a b : Regex)
  | alt (a b : Regex)
  /-- At least `least` and at most `most` times `a`, more rather than fewer when `greedy`. -/
  | repeated (a : Regex) (least : Nat) (most : Option Nat) (greedy : Bool)
  /-- A capturing group, its number counted from one. -/
  | group (index : Nat) (name : Option String) (a : Regex)
  deriving Repr

namespace Regex

/-- A place in a text: how many characters stand before it, the last of them, and those after. -/
structure Cursor where
  position : Nat
  previous : Option Char
  after : List Char
  deriving DecidableEq, Repr

/-- What a group matched and how many characters stand before it. -/
structure Capture where
  start : Nat
  text : List Char
  deriving DecidableEq, Repr

/-- The captures of the groups by number; the first entry of a group counts. -/
abbrev Captures := List (Nat × Capture)

namespace Cursor

def atStart (text : List Char) : Cursor := ⟨0, none, text⟩

/-- The place after the character `c`, which the characters `rest` follow. -/
def past (p : Cursor) (c : Char) (rest : List Char) : Cursor := ⟨p.position + 1, some c, rest⟩

def captureTo (first last : Cursor) : Capture :=
  ⟨first.position, first.after.take (last.position - first.position)⟩

end Cursor

def isWordAt (ascii : Bool) (c : Option Char) : Bool :=
  c.any fun c => if ascii then CharSet.asciiWord.mem c else CharSet.word.mem c

namespace Look

def holds (l : Look) (p : Cursor) : Bool :=
  let previous := p.previous
  let next := p.after.head?
  match l with
  | start => previous.isNone
  | stop => next.isNone
  | lineStart => previous.all (· = '\n')
  | lineStop => next.all (· = '\n')
  | lineStartCrlf => previous.all (· = '\n') || (previous = some '\r' && next ≠ some '\n')
  | lineStopCrlf => next.all (· = '\r') || (next = some '\n' && previous ≠ some '\r')
  | boundary ascii => isWordAt ascii previous != isWordAt ascii next
  | noBoundary ascii => isWordAt ascii previous == isWordAt ascii next
  | wordStart ascii => !isWordAt ascii previous && isWordAt ascii next
  | wordStop ascii => isWordAt ascii previous && !isWordAt ascii next
  | wordStartHalf ascii => !isWordAt ascii previous
  | wordStopHalf ascii => !isWordAt ascii next

end Look

def groups : Regex → List (Nat × Option String)
  | empty | set _ | look _ => []
  | seq a b | alt a b => a.groups ++ b.groups
  | repeated a .. => a.groups
  | group index name a => (index, name) :: a.groups

def groupIndex? (r : Regex) (name : String) : Option Nat :=
  (r.groups.find? fun g => g.2 = some name).map (·.1)

/-- How many groups there are, the whole match among them. -/
def groupCount (r : Regex) : Nat := r.groups.foldl (fun n g => max n (g.1 + 1)) 1

/-- The one way to match a list of patterns one after the other. -/
def sequence : List Regex → Regex
  | [] => empty
  | [a] => a
  | a :: rest => seq a (sequence rest)

/-- The choice between patterns; without any, nothing matches. -/
def choice : List Regex → Regex
  | [] => set .empty
  | [a] => a
  | a :: rest => alt a (choice rest)

/-- Whether a match can only be empty. -/
def takesNothing : Regex → Bool
  | empty | look _ => true
  | set _ => false
  | seq a b | alt a b => a.takesNothing && b.takesNothing
  | repeated a .. => a.takesNothing
  | group _ _ a => a.takesNothing

/-- A repetition. What takes nothing is not repeated more than once; a repetition no times has no
groups, and one that is exactly once is the pattern itself. -/
def repetition (a : Regex) (least : Nat) (most : Option Nat) (greedy : Bool) : Regex :=
  let (least, most) :=
    if a.takesNothing then (min least 1, some (min (most.getD 1) 1)) else (least, most)
  if most = some 0 then empty
  else if least = 1 ∧ most = some 1 then a
  else repeated a least most greedy

end Regex

end Lapse
