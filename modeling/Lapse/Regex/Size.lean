import Lapse.Regex.Reader

/-!
# Estimated sizes of patterns

The machine that searches for a pattern has a state for each byte of a character and for each place
where ways part or meet. `size` estimates the bytes that these states take when repetitions are
written out. Large sets are counted by the number of their intervals, and what the machine shares
between parts of a pattern is counted for each of them. Running commands takes this estimate for the
limit that `ofText?` leaves open; what is proved of patterns holds for any limit.
-/
namespace Lapse.Regex

/-- What one state takes. -/
def stateSize : Nat := 32

/-- What one more way out of a state takes. -/
def waySize : Nat := 4

/-- What one more range of bytes takes. -/
def rangeSize : Nat := 8

namespace CharSet

/-- What the ranges of an interval take. Beyond ASCII there is a handful of states for each number
of bytes. -/
def intervalSize (first last : Char) : Nat :=
  if last.val < 128 then rangeSize else 8 * stateSize * (last.utf8Size - first.utf8Size + 1)

/-- What an interval of a table takes, on the average. -/
def tableIntervalSize : Nat := 60

/-- What the ranges of a set take. -/
def size : CharSet → Nat
  | empty => 0
  | interval first last => intervalSize first last
  | word => 775 * tableIntervalSize
  | blank => 10 * tableIntervalSize
  | categories kinds =>
    tableIntervalSize * (Text.Category.runs.kinds.toList.filter kinds.contains).length
  | table t => tableIntervalSize * (t.ends.size / 2)
  | union a b | diff a b => a.size + b.size
  | inter a b => min a.size b.size
  | compl a => a.size + 32 * stateSize
  | fold a | foldAscii a => a.size + min a.size (32 * stateSize)

/-- What the states of a set take: of one character those of its bytes, else also the two states
between which the ranges lead. -/
def statesSize (s : CharSet) : Nat :=
  match s with
  | interval first last =>
    if first = last then stateSize * first.utf8Size else 2 * stateSize + s.size
  | s => 2 * stateSize + s.size

end CharSet

def size : Regex → Nat
  | empty | look _ => stateSize
  | set s => s.statesSize
  | seq a b => a.size + b.size
  | alt a b => a.size + b.size + 2 * (stateSize + waySize)
  | repeated a 0 none _ =>
    a.size + (if a.takesNothing then 3 * stateSize + 4 * waySize else stateSize + 2 * waySize)
  | repeated a least none _ => least * a.size + stateSize + 2 * waySize
  | repeated a least (some most) _ =>
    if least = most then most * a.size
    else most * a.size + (most - least) * (stateSize + 2 * waySize) + stateSize
  | group _ _ a => a.size + 2 * stateSize

def sizeLimit : Nat := 10 * 1024 * 1024

instance : SizeLimit := ⟨fun regex => regex.size ≤ sizeLimit⟩

end Lapse.Regex
