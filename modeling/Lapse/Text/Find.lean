/-!
# Finding and cutting

The first place of a text in another, and the parts of a list between marks.
-/
namespace Lapse.Text

/-- The parts of a list between the members equal to `mark`. -/
def splitAll {α : Type} [DecidableEq α] (mark : α) : List α → List (List α)
  | [] => [[]]
  | a :: rest =>
    if a = mark then [] :: splitAll mark rest
    else match splitAll mark rest with
      | [] => [[a]]
      | part :: parts => (a :: part) :: parts

/-- Cuts a text around the first place where `mark` stands. -/
def splitAt? (mark : List Char) : List Char → Option (List Char × List Char)
  | [] => if mark.isEmpty then some ([], []) else none
  | c :: rest =>
    if mark.isPrefixOf (c :: rest) then some ([], (c :: rest).drop mark.length)
    else (splitAt? mark rest).map fun (front, back) => (c :: front, back)

/-- The text with `replacement` for the first `mark` in it. -/
def replaceFirst (mark replacement text : List Char) : List Char :=
  match splitAt? mark text with
  | some (front, back) => front ++ replacement ++ back
  | none => text

end Lapse.Text
