import Lapse.Json.Printer
import Lapse.Json.Reader
import Lapse.Report.Basic

/-!
# Reports as JSON

The JSON form of a report and the reading of it. Reading is strict: every field is wanted but a
date or a violation, which are null when they are missing, no field may stand twice, and other
fields count for nothing. The counts are kept as they are.
-/
namespace Lapse

open Calendar (Date Instant)

def optional {α : Type} (f : α → Json) : Option α → Json
  | some a => f a
  | none => .null

namespace Note

def members (a : Note) : List (String × Json) :=
  [("comment_prefix", .string a.opener), ("tag", .string a.tag), ("content", .string a.content),
   ("expiry", optional (fun (d : Date) => .string d.text) a.expiry),
   ("line_number", .int a.line), ("original_line", .string a.source)]

/-- A member that may be missing or null. -/
def optionalMember? {α : Type} (members : List (String × Json)) (name : String)
    (read : Json → Option α) : Option (Option α) :=
  match Json.countMember members name, Json.member? members name with
  | 0, _ => some none
  | _, none => none
  | _, some .null => some none
  | _, some value => (read value).map some

def ofMembers? (members : List (String × Json)) : Option Note := do
  let text (name : String) := (Json.member? members name).bind Json.string?
  return {
    opener := ← text "comment_prefix"
    tag := ← text "tag"
    content := ← text "content"
    expiry := ← optionalMember? members "expiry" fun j => j.string?.bind Date.ofText?
    line := ← (Json.member? members "line_number").bind Json.count?
    source := ← text "original_line" }

end Note

namespace Finding

/-- The JSON form, if the file's path is a text. -/
def toJson? (f : Finding) : Option Json := do
  let file ← f.file.text?
  return .object (("file", .string file) :: f.note.members ++
    [("violation", optional .string f.violation)])

def ofJson? (j : Json) : Option Finding := do
  let members ← j.object?
  return {
    file := Path.ofString (← (Json.member? members "file").bind Json.string?)
    note := ← Note.ofMembers? members
    violation := ← Note.optionalMember? members "violation" Json.string? }

end Finding

namespace Report

def fieldNames : List String :=
  ["scan_paths", "files_scanned", "total_annotations", "violation_count", "by_tag", "findings",
   "scan_time"]

/-- The JSON form, if all paths are texts. -/
def toJson? (r : Report) : Option Json := do
  let paths ← r.paths.mapM Path.text?
  let findings ← r.findings.mapM Finding.toJson?
  return .object (fieldNames.zip
    [.array (paths.map .string), .int r.filesScanned, .int r.total, .int r.violationCount,
     .object (r.byTag.map fun (tag, n) => (tag, .int n)), .array findings,
     .string r.time.text])

def jsonText? (r : Report) : Option String :=
  r.toJson?.map fun j => String.ofList (Json.pretty 0 j)

/-- Counts by tag; of two for one tag the later holds. -/
def readCounts? (members : List (String × Json)) : Option TagCounts :=
  members.foldlM (fun counts (tag, j) => do
    let n ← j.count?
    return counts.adjust tag fun _ => n) []

/-- The fields in order, from an object or an array. -/
def fields? : Json → Option (List Json)
  | .object members => fieldNames.mapM (Json.member? members)
  | .array items => if items.length = fieldNames.length then some items else none
  | _ => none

def ofJson? (j : Json) : Option Report := do
  match ← fields? j with
  | [paths, filesScanned, total, violationCount, byTag, findings, time] =>
    return {
      paths := ← (← paths.array?).mapM fun j => j.string?.map Path.ofString
      filesScanned := ← filesScanned.count?
      total := ← total.count?
      violationCount := ← violationCount.count?
      byTag := ← readCounts? (← byTag.object?)
      findings := ← (← findings.array?).mapM Finding.ofJson?
      time := ← (← time.string?) |> Instant.ofText? }
  | _ => none

def ofJsonText? (text : String) : Option Report := (Json.ofText? text.toList).bind ofJson?

end Report

end Lapse
