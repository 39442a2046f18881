import Lapse.Report.Basic
import Lapse.Text.Table

/-!
# Reports as tables

A box with the counts, a table of the tags by falling count and a table of the findings.
-/
namespace Lapse.Report

def boxWidth : Nat := 58

def boxLine (label : String) (n : Nat) : String :=
  let text := " " ++ label ++ ": " ++ toString n
  "│" ++ text ++ Text.Table.blanks (boxWidth - 1 - text.length) ++ " │\n"

def boxTitle : String :=
  let title := "Overdue - Annotation Report"
  let room := boxWidth - 2 - title.length
  "│ " ++ Text.Table.blanks (room / 2) ++ title ++ Text.Table.blanks (room - room / 2) ++ " │\n"

def box (r : Report) : String :=
  let line := String.ofList (List.replicate boxWidth '─')
  "╭" ++ line ++ "╮\n" ++ boxTitle ++
    boxLine "Files Scanned" r.filesScanned ++
    boxLine "Annotations" r.total ++
    boxLine "Violations" r.violationCount ++
    "╰" ++ line ++ "╯\n\n"

/-- The tags by falling count, those of one count in ascending order. -/
def tagsByCount (r : Report) : TagCounts := r.byTag.mergeSort fun a b => b.2 ≤ a.2

def tagTable (r : Report) : Text.Table :=
  ⟨["Tag", "Count"], r.tagsByCount.map fun (tag, n) => [tag, toString n]⟩

def findingRow (f : Finding) : List String :=
  [f.file.display, toString f.note.line, f.note.tag,
    (f.note.expiry.map (·.text)).getD "-", f.violation.getD "ok"]

def findingTable (findings : List Finding) : Text.Table :=
  ⟨["File", "Line", "Tag", "Expiry", "Status"], findings.map findingRow⟩

def table (r : Report) (selection : Selection) : String :=
  let findings := r.selected selection
  r.box ++
    (if r.byTag.isEmpty then "" else "Summary by Tag:\n" ++ r.tagTable.text ++ "\n\n") ++
    (if findings.isEmpty then "" else (findingTable findings).text ++ "\n")

end Lapse.Report
