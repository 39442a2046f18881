/-!
# Lines of a text

A line ends before a line feed, or before a carriage return and a line feed, or at the end of a
text that does not end in a line feed.
-/
namespace Lapse.Text

/-- A line in reverse without the carriage return at its end. -/
def dropReturn : List Char → List Char
  | '\r' :: rest => rest
  | line => line

/-- The lines of a text, where `current` holds the line begun so far in reverse. -/
def linesFrom : (text current : List Char) → List (List Char)
  | [], [] => []
  | [], c :: current => [(c :: current).reverse]
  | c :: text, current =>
    if c = '\n' then (dropReturn current).reverse :: linesFrom text []
    else linesFrom text (c :: current)

def lines (text : List Char) : List (List Char) := linesFrom text []

/-- Each line with its number, counted from one. -/
def numberedLines (text : List Char) : List (Nat × List Char) :=
  (lines text).mapIdx fun i line => (i + 1, line)

end Lapse.Text
