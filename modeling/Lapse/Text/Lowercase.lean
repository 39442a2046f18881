import Lapse.Text.LowercaseTable
import Lapse.Text.Property

/-!
# Small letters

A text in small letters. Most characters have one small letter or stand for themselves; the capital
I with a dot becomes two characters, and a capital sigma at the end of a word has a form of its own.
-/
namespace Lapse.Text.Lowercase

def Run.covers (r : Run) (code : Nat) : Bool :=
  r.first ≤ code && code ≤ r.last && (code - r.first) % r.step = 0

/-- The small letters of a character wherever it stands. -/
def ofChar (c : Char) : List Char :=
  if c.val < 128 then [c.toLower]
  else if c = '\u0130' then ['i', '\u0307']
  else match runs.find? fun r => r.covers c.toNat with
    | some r => [Char.ofNat (r.small + (c.toNat - r.first))]
    | none => [c]

/-- Whether the first character that case does not ignore has a case. -/
def meetsCased (text : List Char) : Bool :=
  (text.dropWhile Property.caseIgnorable.contains).head?.any Property.cased.contains

/-- The small sigma between two texts, the one in front in reverse. -/
def sigma (before after : List Char) : Char :=
  if meetsCased before && !meetsCased after then 'ς' else 'σ'

/-- The small letters of `text`, which stands behind the characters `before`, these in reverse. -/
def lettersFrom (before : List Char) : (text : List Char) → List Char
  | [] => []
  | c :: rest =>
    (if c = 'Σ' then [sigma before rest] else ofChar c) ++ lettersFrom (c :: before) rest

def letters (text : List Char) : List Char := lettersFrom [] text

end Lapse.Text.Lowercase
