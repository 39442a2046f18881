import Lapse.Text.FoldTable
import Lapse.Text.Intervals

/-!
# Simple case folding

Two characters are the same regardless of case when they have one simple case folding. The classes
of this relation with more than one member are tabled; every other character is alone in its class.
-/
namespace Lapse.Text

def splitAtDots (word : List Char) : List (List Char) :=
  word.foldr (fun c parts =>
    if c = '.' then [] :: parts
    else match parts with
      | [] => [[c]]
      | p :: rest => (c :: p) :: rest) [[]]

namespace CaseFold

/-- The tabled classes by member, in ascending order of the member. -/
def table : Array (Nat × List Char) :=
  let classes := (foldClasses.flatMap fun line => words line.toList).map fun word =>
    (splitAtDots word).map fun digits => Char.ofNat (hexValue digits)
  let entries := classes.flatMap fun members => members.map fun c => (c.toNat, members)
  (entries.mergeSort fun a b => a.1 ≤ b.1).toArray

def keys : Array Nat := table.map (·.1)

def swapAscii (c : Char) : Char :=
  if c.isLower then c.toUpper else c.toLower

/-- The members of the class of `c`, `c` among them. -/
def classOf (c : Char) : List Char :=
  if c.val < 128 ∧ c ≠ 'k' ∧ c ≠ 'K' ∧ c ≠ 's' ∧ c ≠ 'S' then
    if c.isAlpha then [c, swapAscii c] else [c]
  else
    match table[countAtMost keys c.toNat keys.size 0 keys.size - 1]? with
    | some (key, members) => if key = c.toNat then members else [c]
    | none => [c]

end CaseFold

end Lapse.Text
