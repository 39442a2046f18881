import Std.Data.HashSet
import Lapse.Regex.Basic

/-!
# Searching

The search for the first match of a pattern. Of the ways to match at one place the first is taken:
the earlier alternative, one more time rather than an end when a repetition is greedy, an end rather
than one more time when it is not.

Where a pattern leaves a choice, the choice is met at most once at each place: what follows from it
does not depend on how the place was reached, so meeting it again gives nothing that the first time
did not give. This bounds the search by the number of choices times the number of places, and it
ends a repetition of what takes nothing.
-/
namespace Lapse.Regex

/-- The choices that have been met: the number of the choice and how many characters stand before
the place. -/
abbrev Visited := Std.HashSet (Nat × Nat)

/-- What is still to be matched, as a function of the place and the captures reached. A failure tells
the choices that have been met. -/
abbrev Rest (α : Type) := Cursor → Captures → Visited → Except Visited α

/-- Whether a match takes at least one character. -/
def consumes : Regex → Bool
  | empty | look _ => false
  | set _ => true
  | seq a b => a.consumes || b.consumes
  | alt a b => a.consumes && b.consumes
  | repeated a least _ _ => least ≠ 0 && a.consumes
  | group _ _ a => a.consumes

/-- How many choices a pattern leaves; each of the copies that a repetition stands for has its own. -/
def choices : Regex → Nat
  | empty | set _ | look _ => 0
  | seq a b => a.choices + b.choices
  | alt a b => 1 + a.choices + b.choices
  | repeated a 0 none _ => 2 + a.choices
  | repeated a least none _ => least * a.choices + 1
  | repeated a least (some most) _ => least * a.choices + (most - least) * (1 + a.choices)
  | group _ _ a => a.choices

section Choice

variable {α : Type}

/-- The choice with the number `id`: `first`, and where that fails `second`. -/
def choose (id : Nat) (first second : Rest α) : Rest α := fun p caps visited =>
  if visited.contains (id, p.position) then .error visited
  else
    match first p caps (visited.insert (id, p.position)) with
    | .ok a => .ok a
    | .error visited => second p caps visited

/-- The choice between one more time and an end. -/
def moreOrEnd (greedy : Bool) (id : Nat) (more stop : Rest α) : Rest α :=
  if greedy then choose id more stop else choose id stop more

/-- Exactly `n` times `m`, which is given the number of its first choice; a copy has `width` choices. -/
def exactly (m : Nat → Rest α → Rest α) (width : Nat) : (n id : Nat) → Rest α → Rest α
  | 0, _, k => k
  | n + 1, id, k => m id (exactly m width n (id + width) k)

def atMost (m : Nat → Rest α → Rest α) (width : Nat) (greedy : Bool) (k : Rest α) :
    (n id : Nat) → Rest α
  | 0, _, p, caps, visited => k p caps visited
  | n + 1, id, p, caps, visited =>
    moreOrEnd greedy id (m (id + 1) (atMost m width greedy k n (id + 1 + width))) k p caps visited

/-- Any number of times `m`. No more than `fuel` characters are left; an end at the same place
meets the choice again. -/
def onward (m : Rest α → Rest α) (greedy : Bool) (id : Nat) (k : Rest α) : (fuel : Nat) → Rest α
  | 0, _, _, visited => .error visited
  | fuel + 1, p, caps, visited =>
    moreOrEnd greedy id (m (onward m greedy id k fuel)) k p caps visited

/-- Any number of times `m`, the choice having the number `id`. -/
def anyTimes (m : Rest α → Rest α) (greedy : Bool) (id : Nat) (k : Rest α) : Rest α :=
  fun p caps visited => onward m greedy id k (p.after.length + 1) p caps visited

end Choice

/-- The first way to match at a place after which `k` succeeds, and the outcome of `k`. The choices
of the pattern are numbered from `id`. -/
def run {α : Type} : Regex → (id : Nat) → Rest α → Rest α
  | empty, _, k => k
  | set s, _, k => fun p caps visited =>
    match p.after with
    | [] => .error visited
    | c :: rest => if s.mem c then k (p.past c rest) caps visited else .error visited
  | look l, _, k => fun p caps visited => if l.holds p then k p caps visited else .error visited
  | seq a b, id, k => a.run id (b.run (id + a.choices) k)
  | alt a b, id, k => choose id (a.run (id + 1) k) (b.run (id + 1 + a.choices) k)
  | repeated a 0 none greedy, id, k =>
    if a.consumes then anyTimes (a.run (id + 1)) greedy id k
    else
      let once := a.run (id + 2) (anyTimes (a.run (id + 2)) greedy (id + 1) k)
      moreOrEnd greedy id once k
  | repeated a (least + 1) none greedy, id, k =>
    let last := id + least * a.choices
    exactly a.run a.choices least id
      (a.run last (anyTimes (a.run last) greedy (last + a.choices) k))
  | repeated a least (some most) greedy, id, k =>
    exactly a.run a.choices least id
      (atMost a.run a.choices greedy k (most - least) (id + least * a.choices))
  | group index _ a, id, k => fun p caps visited =>
    a.run id (fun q caps visited => k q ((index, p.captureTo q) :: caps) visited) p caps visited

/-- Whether a match may start at a place, judged by the next character. -/
def mayStart : Regex → Cursor → Bool
  | empty, _ => true
  | set s, p => p.after.head?.any s.mem
  | look l, p => l.holds p
  | seq a _, p => a.mayStart p
  | alt a b, p => a.mayStart p || b.mayStart p
  | repeated a least _ _, p => least = 0 || a.mayStart p
  | group _ _ a, p => a.mayStart p

/-- The captures of the first match at a place, the whole match under number zero. -/
def matchAt? (r : Regex) (p : Cursor) : Option Captures :=
  if r.mayStart p then (r.run 0 (fun q caps _ => .ok ((0, p.captureTo q) :: caps)) p [] ∅).toOption
  else none

/-- The captures of the leftmost match in `after`, whose start is at `position` behind the character
`previous`. -/
def searchFrom (r : Regex) (position : Nat) (previous : Option Char) :
    (after : List Char) → Option Captures
  | [] => r.matchAt? ⟨position, previous, []⟩
  | c :: after =>
    match r.matchAt? ⟨position, previous, c :: after⟩ with
    | some caps => some caps
    | none => searchFrom r (position + 1) (some c) after

def search? (r : Regex) (text : List Char) : Option Captures := r.searchFrom 0 none text

def isMatch (r : Regex) (text : List Char) : Bool := (r.search? text).isSome

def fits (r : Regex) (text : List Char) : Bool :=
  (r.run 0 (fun q _ visited => if q.after.isEmpty then .ok () else .error visited)
    (.atStart text) [] ∅).toBool

end Lapse.Regex
