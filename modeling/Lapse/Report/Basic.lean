import Lapse.Path
import Lapse.Policy

/-!
# Reports

What a scan found: the notes with their files and the outcome of the check, and the counts.
-/
namespace Lapse

structure Finding where
  file : Path
  note : Note
  violation : Option String
  deriving DecidableEq

def Finding.isViolation (f : Finding) : Bool := f.violation.isSome

/-- How often each tag occurs, in ascending order of the tags. -/
abbrev TagCounts := List (String × Nat)

namespace TagCounts

/-- The counts with `f` applied to the one of `tag`, which is zero when it is not among them. -/
def adjust (tag : String) (f : Nat → Nat) : TagCounts → TagCounts
  | [] => [(tag, f 0)]
  | (t, n) :: rest =>
    if t = tag then (t, f n) :: rest
    else if tag < t then (tag, f 0) :: (t, n) :: rest
    else (t, n) :: adjust tag f rest

def ofTags (tags : List String) : TagCounts :=
  tags.foldl (fun counts tag => adjust tag (· + 1) counts) []

end TagCounts

structure Report where
  /-- The paths that were scanned, as given. -/
  paths : List Path
  filesScanned : Nat
  total : Nat
  violationCount : Nat
  byTag : TagCounts
  findings : List Finding
  time : Calendar.Instant
  deriving DecidableEq

namespace Report

def ofFindings (findings : List Finding) (paths : List Path) (filesScanned : Nat)
    (time : Calendar.Instant) : Report :=
  { paths, filesScanned
    total := findings.length
    violationCount := (findings.filter Finding.isViolation).length
    byTag := .ofTags (findings.map fun f => f.note.tag)
    findings, time }

def violations (r : Report) : List Finding := r.findings.filter Finding.isViolation

def hasViolations (r : Report) : Bool := 0 < r.violationCount

end Report

inductive Selection
  | violations | all
  deriving DecidableEq, Repr

def Report.selected (r : Report) : Selection → List Finding
  | .violations => r.violations
  | .all => r.findings

end Lapse
