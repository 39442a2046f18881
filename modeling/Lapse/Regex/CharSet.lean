import Lapse.Text.Blank
import Lapse.Text.CaseFold
import Lapse.Text.Category

/-!
# Sets of characters

The sets that a pattern can name, built from intervals and properties by the operations of the
pattern language. `mem` decides membership.
-/
namespace Lapse.Regex

open Lapse.Text (Category Intervals)

inductive CharSet
  | empty
  | interval (first last : Char)
  | word
  | blank
  | categories (kinds : List Category)
  | table (t : Intervals)
  | union (a b : CharSet)
  | inter (a b : CharSet)
  | diff (a b : CharSet)
  | compl (a : CharSet)
  /-- The characters that agree with one of `a` regardless of case. -/
  | fold (a : CharSet)
  /-- The same for the case of ASCII letters only. -/
  | foldAscii (a : CharSet)
  deriving Repr

namespace CharSet

def mem : CharSet → Char → Bool
  | empty, _ => false
  | interval first last, c => first ≤ c && c ≤ last
  | word, c => Text.isWord c
  | blank, c => Text.isBlank c
  | categories kinds, c => kinds.contains (Category.of c)
  | table t, c => t.contains c
  | union a b, c => a.mem c || b.mem c
  | inter a b, c => a.mem c && b.mem c
  | diff a b, c => a.mem c && !b.mem c
  | compl a, c => !a.mem c
  | fold a, c => (Text.CaseFold.classOf c).any a.mem
  | foldAscii a, c => a.mem c || (c.isAlpha && a.mem (Text.CaseFold.swapAscii c))

def singleton (c : Char) : CharSet := interval c c

@[simp] theorem mem_singleton (c x : Char) : (singleton c).mem x = (x == c) := by
  rw [Bool.eq_iff_iff, beq_iff_eq, singleton, mem, Bool.and_eq_true, decide_eq_true_iff,
    decide_eq_true_iff]
  exact ⟨fun h => Char.le_antisymm h.2 h.1, fun h => h ▸ ⟨Char.le_refl _, Char.le_refl _⟩⟩

def ofList (sets : List CharSet) : CharSet := sets.foldr union empty

def any : CharSet := compl empty

def decimalDigit : CharSet := categories [.nd]

def asciiDigit : CharSet := interval '0' '9'

def asciiAlpha : CharSet := union (interval 'A' 'Z') (interval 'a' 'z')

def asciiAlphanumeric : CharSet := union asciiDigit asciiAlpha

def asciiWord : CharSet := union asciiAlphanumeric (singleton '_')

/-- Tab, line feed, vertical tab, form feed, carriage return and space. -/
def asciiBlank : CharSet := union (interval '\t' '\r') (singleton ' ')

/-- The classes that are written between `[:` and `:]`. -/
def posix : List (String × CharSet) :=
  [("alnum", asciiAlphanumeric), ("alpha", asciiAlpha), ("ascii", interval '\x00' '\x7f'),
   ("blank", union (singleton '\t') (singleton ' ')),
   ("cntrl", union (interval '\x00' '\x1f') (singleton '\x7f')), ("digit", asciiDigit),
   ("graph", interval '!' '~'), ("lower", interval 'a' 'z'), ("print", interval ' ' '~'),
   ("punct", ofList [interval '!' '/', interval ':' '@', interval '[' '\x60',
     interval '\x7b' '~']),
   ("space", asciiBlank), ("upper", interval 'A' 'Z'), ("word", asciiWord),
   ("xdigit", ofList [asciiDigit, interval 'A' 'F', interval 'a' 'f'])]

end CharSet

end Lapse.Regex
