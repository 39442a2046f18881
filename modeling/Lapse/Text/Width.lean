import Lapse.Text.Property
import Lapse.Text.WidthTable

/-!
# Display width

How many columns a text takes in a terminal: wide characters take two, combining and ignorable
ones none, and an emoji written with several characters takes two in all.
-/
namespace Lapse.Text.Width

def ofChar (c : Char) : Nat :=
  if c.val < 128 then 1
  else if zero.contains c then 0
  else if double.contains c then 2
  else 1

/-- What the characters before a place offer to the character after it. -/
inductive Before
  /-- Nothing that joins. -/
  | plain
  /-- A carriage return. -/
  | carriageReturn
  /-- An emoji; a skin tone may follow when `takesTone`. -/
  | emoji (takesTone : Bool)
  /-- An emoji and a joiner. -/
  | joiner
  deriving DecidableEq, Repr

def joiner : Char := '\u200d'

def emojiStyle : Char := '\ufe0f'

def isEmoji (c : Char) : Bool := 128 ≤ c.val && Property.extendedPictographic.contains c

/-- The columns of the characters `text`, which stand after `before`. -/
def columns (before : Before) : (text : List Char) → Nat
  | [] => 0
  | c :: rest =>
    if c = '\r' then 1 + columns .carriageReturn rest
    else if c = '\n' ∧ before = .carriageReturn then columns .plain rest
    else if c = joiner ∧ (before = .emoji true ∨ before = .emoji false) then
      columns .joiner rest
    else if before = .emoji true ∧ Property.emojiModifier.contains c then
      columns (.emoji false) rest
    else if isEmoji c then
      (if before = .joiner then 0
        else if rest.head? = some emojiStyle then 2 else ofChar c) +
        columns (.emoji (Property.emojiModifierBase.contains c)) rest
    else if c = emojiStyle ∧ (before = .emoji true ∨ before = .emoji false) then
      columns (.emoji false) rest
    else if rest.head? = some emojiStyle ∧ Property.emoji.contains c then
      2 + columns .plain rest
    else ofChar c + columns .plain rest

def ofText (s : String) : Nat := columns .plain s.toList

end Lapse.Text.Width
