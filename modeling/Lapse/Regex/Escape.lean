/-!
# Escaped texts

A pattern that stands for one given text: a backslash before every character that has a meaning of
its own in patterns.
-/
namespace Lapse.Regex

/-- The characters with a meaning of their own somewhere in a pattern. -/
def isMeta (c : Char) : Bool :=
  c = '\\' ∨ c = '.' ∨ c = '+' ∨ c = '*' ∨ c = '?' ∨ c = '(' ∨ c = ')' ∨ c = '|' ∨ c = '[' ∨
  c = ']' ∨ c = '\x7b' ∨ c = '\x7d' ∨ c = '^' ∨ c = '$' ∨ c = '#' ∨ c = '&' ∨ c = '-' ∨ c = '~'

def escapeChar (c : Char) : List Char :=
  if isMeta c then ['\\', c] else [c]

def escape (s : List Char) : List Char := s.flatMap escapeChar

end Lapse.Regex
