/-!
# Blank characters

White space in the sense of Unicode, the removal of it from the ends of a text, and the words
between it.
-/
namespace Lapse.Text

/-- The characters with the property `White_Space`. -/
def isBlank (c : Char) : Bool :=
  ('\t' ≤ c ∧ c ≤ '\r') ∨ c = ' ' ∨ c = '\u0085' ∨ c = '\u00a0' ∨ c = '\u1680' ∨
  ('\u2000' ≤ c ∧ c ≤ '\u200a') ∨ c = '\u2028' ∨ c = '\u2029' ∨ c = '\u202f' ∨
  c = '\u205f' ∨ c = '\u3000'

/-- The ASCII blanks: tab, line feed, vertical tab, form feed, carriage return and space. -/
def isAsciiBlank (c : Char) : Bool :=
  ('\t' ≤ c ∧ c ≤ '\r') ∨ c = ' '

def trimStart (s : List Char) : List Char := s.dropWhile isBlank

def trimEnd (s : List Char) : List Char := (s.reverse.dropWhile isBlank).reverse

def trim (s : List Char) : List Char := trimEnd (trimStart s)

/-- The words of a text, where `current` holds the word begun so far in reverse. -/
def splitWordsFrom : (text current : List Char) → List (List Char)
  | [], [] => []
  | [], c :: current => [(c :: current).reverse]
  | c :: text, current =>
    if !isBlank c then splitWordsFrom text (c :: current)
    else if current = [] then splitWordsFrom text []
    else current.reverse :: splitWordsFrom text []

def splitWords (text : List Char) : List (List Char) := splitWordsFrom text []

end Lapse.Text
