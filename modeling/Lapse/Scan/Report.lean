import Lapse.Log
import Lapse.Report.Json
import Lapse.Report.Table
import Lapse.Report.Text
import Lapse.Scan.Notes
import Lapse.Settings.Source

/-!
# Scans

A scan takes settings and an instant to a report: the files are collected and read, and each of
their notes is checked.
-/
namespace Lapse

inductive ReportError
  | unwritable
  | notWritten (path : Path) (cause : FileError)
  deriving DecidableEq, Repr

def ReportError.message : ReportError → String
  | unwritable => "Failed to serialize report to JSON: path contains invalid UTF-8 characters"
  | notWritten path cause =>
    "Failed to write output to " ++ path.display ++ ": " ++ cause.message

inductive ScanFailure
  | settings (e : SettingsError)
  | logFilter (text : String) (e : Log.FilterError)
  | style (e : StyleError)
  | scanner (e : ScanError)
  | listing (e : ScanError)
  | reading (e : ScanError)
  | report (e : ReportError)
  deriving DecidableEq, Repr

namespace ScanFailure

def context : ScanFailure → String
  | settings _ => "Failed to read configuration"
  | logFilter text _ => "Invalid log level: " ++ text
  | style _ => "Failed while creating matcher"
  | scanner _ => "Failed while creating file scanner"
  | listing _ => "Failed while listing files"
  | reading _ => "Failed while parsing files"
  | report _ => "Failed to generate report"

def cause : ScanFailure → String
  | settings e => e.message
  | logFilter _ e => e.message
  | style e => e.message
  | scanner e | listing e | reading e => e.message
  | report e => e.message

def message (f : ScanFailure) : String := f.context ++ ": " ++ f.cause

end ScanFailure

def Policy.findings (policy : Policy) (scanned : List (Path × List Note)) : List Finding :=
  scanned.flatMap fun (file, notes) => notes.map fun note =>
    { file, note, violation := (policy.check note).map Violation.message }

namespace Report

def ofScan [Regex.SizeLimit] (t : FileTree) (s : Settings) (now : Calendar.Instant) :
    Except ScanFailure Report := do
  let matcher ← s.style.compile.mapError .style
  let scanner ← (Scanner.ofOptions s.scanOptions).mapError .scanner
  let files ← (scanner.collect t s.inputs).mapError .listing
  let scanned ← (Scan.notes matcher t files).mapError .reading
  return .ofFindings (Policy.findings ⟨now, s.strict⟩ scanned) s.inputs scanned.length now

end Report

inductive ReportFormat
  | text | table | json
  deriving DecidableEq, Repr

namespace Report

/-- The written form of a report. All findings are in JSON, whatever is selected. -/
def written (r : Report) (selection : Selection) : ReportFormat → Except ReportError String
  | .text => .ok (r.text selection)
  | .table => .ok (r.table selection)
  | .json => match r.jsonText? with
    | some text => .ok text
    | none => .error .unwritable

def save (t : FileTree) (p : Path) (text : String) : Except ReportError FileTree :=
  (t.writeText p text).mapError (.notWritten p)

end Report

end Lapse
