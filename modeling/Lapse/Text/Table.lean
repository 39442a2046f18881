import Lapse.Text.Width

/-!
# Boxed tables

A table of texts drawn with lines around its cells. Every column is as wide as its widest line, and
a cell with line feeds takes several lines.
-/
namespace Lapse.Text

structure Table where
  header : List String
  rows : List (List String)
  deriving DecidableEq, Repr

/-- The characters of a horizontal line: its two ends, its crossings and what lies between. -/
structure Rule where
  left : Char
  fill : Char
  cross : Char
  right : Char
  deriving DecidableEq, Repr

namespace Table

def top : Rule := ⟨'┌', '─', '┬', '┐'⟩

def belowHeader : Rule := ⟨'╞', '═', '╪', '╡'⟩

def between : Rule := ⟨'├', '╌', '┼', '┤'⟩

def bottom : Rule := ⟨'└', '─', '┴', '┘'⟩

def cellLines (cell : String) : List String := cell.splitOn "\n"

def cellWidth (cell : String) : Nat := ((cellLines cell).map Width.ofText).foldl max 1

/-- The width of each column of a table with `count` columns. -/
def widths (t : Table) : List Nat :=
  (List.range t.header.length).map fun i =>
    ((t.header :: t.rows).map fun row => cellWidth (row.getD i "")).foldl max 1

def blanks (n : Nat) : String := String.ofList (List.replicate n ' ')

def drawRule (r : Rule) (widths : List Nat) : String :=
  String.ofList [r.left] ++
  (String.ofList [r.cross]).intercalate
    (widths.map fun w => String.ofList (List.replicate (w + 2) r.fill)) ++
  String.ofList [r.right]

/-- One line of a row: `texts` are the lines of its cells at that height. -/
def drawLine (widths : List Nat) (texts : List String) : String :=
  "│" ++ "┆".intercalate ((widths.zip texts).map fun (w, s) =>
    " " ++ s ++ blanks (w - Width.ofText s) ++ " ") ++ "│"

/-- The lines of a row, as many as its tallest cell has. -/
def drawRow (widths : List Nat) (row : List String) : List String :=
  let cells := row.map cellLines
  let height := (cells.map List.length).foldl max 1
  (List.range height).map fun i => drawLine widths (cells.map fun lines => lines.getD i "")

def draw (t : Table) : List String :=
  let widths := t.widths
  let rows := t.rows.map (drawRow widths)
  drawRule top widths :: drawRow widths t.header ++ drawRule belowHeader widths ::
    [drawRule between widths].intercalate rows ++ [drawRule bottom widths]

def text (t : Table) : String := "\n".intercalate t.draw

end Table

end Lapse.Text
