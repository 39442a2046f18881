import Lapse.Scan.Walk

/-!
# The files of a scan

Paths that are given stand for files, directories for all files that a walk finds below them. Each
file counts once, under the path that came first, and the paths are in ascending order.
-/
namespace Lapse

/-- The members of a list that are `same` as none before them. -/
def keepFirst {α : Type} (same : α → α → Bool) : List α → List α
  | [] => []
  | a :: rest => a :: (keepFirst same rest).filter fun b => !same a b

namespace Scanner

def expand (s : Scanner) (t : FileTree) (p : Path) : Except ScanError (List Path) :=
  if s.excludes? t p then .ok []
  else match t.node p with
    | .error cause => .error (.noSuchFile p cause)
    | .ok (.dir entries) => if s.recursive then s.walk t p entries else .error (.directoryGiven p)
    | .ok _ => .ok [p]

/-- Two paths whose absolute forms have the same components. -/
def sameFile (t : FileTree) (p q : Path) : Bool :=
  ((t.absolute? p).getD p).Same ((t.absolute? q).getD q)

def collect (s : Scanner) (t : FileTree) (inputs : List Path) : Except ScanError (List Path) := do
  let found ← inputs.mapM (s.expand t)
  return (keepFirst (sameFile t) found.flatten).mergeSort Path.le

/-- The given paths that are excluded, up to one that cannot be used. -/
def excludedInputs (s : Scanner) (t : FileTree) (inputs : List Path) : List Path :=
  (inputs.takeWhile fun p => (s.expand t p).isOk).filter (s.excludes? t)

end Scanner

end Lapse
