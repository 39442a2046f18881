import Lapse.Report.Basic
import Lapse.Text.Blank

/-!
# Reports as lines

One line for each finding: file, line number and description.
-/
namespace Lapse

/-- The violation, or tag, date and content of a note that passes. -/
def Finding.description (f : Finding) : String :=
  match f.violation with
  | some violation => violation
  | none =>
    let expiry := match f.note.expiry with
      | some date => date.text
      | none => "no expiry"
    String.ofList (Text.trimEnd
      (f.note.tag ++ " (" ++ expiry ++ ") " ++ f.note.content).toList)

def Finding.textLine (f : Finding) : String :=
  f.file.display ++ ":" ++ toString f.note.line ++ " " ++ f.description

def Report.text (r : Report) (selection : Selection) : String :=
  String.join ((r.selected selection).map fun f => f.textLine ++ "\n")

end Lapse
