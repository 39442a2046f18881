import Lapse.CommentStyle
import Lapse.Scan.Collect

/-!
# The notes in files

Every file is read but those that are taken for binary and those that are too large. Bytes that are
no text do not keep it from being read.
-/
namespace Lapse.Scan

def sizeLimit : Nat := 10 * 1024 * 1024

inductive Skip
  | binary | large
  deriving DecidableEq, Repr

def skip? (t : FileTree) (p : Path) : Option Skip :=
  if isLikelyBinary p then some .binary
  else match t.node p with
    | .ok (.file content) => if sizeLimit < content.size then some .large else none
    | _ => none

def notesOf (m : Matcher) (t : FileTree) (p : Path) : Except ScanError (Path × List Note) :=
  match t.read p with
  | .ok content => .ok (p, m.matchLines (Text.Utf8.decodeLossy content).toList)
  | .error cause => .error (.notProcessed p cause)

/-- The files that are read, in ascending order, each with its notes. -/
def notes (m : Matcher) (t : FileTree) (files : List Path) :
    Except ScanError (List (Path × List Note)) := do
  let scanned ← (files.filter fun p => (skip? t p).isNone).mapM (notesOf m t)
  return (keepFirst (fun a b => decide (a.1.Same b.1)) scanned).mergeSort
    fun a b => Path.le a.1 b.1

end Lapse.Scan
