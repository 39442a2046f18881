import Lapse.Scan.Basic

/-!
# Walking through directories

A walk gives the files below a directory. Links are not followed. What a scanner excludes or
ignores is left out, a directory with all that is below it.
-/
namespace Lapse.Scanner

open Ignore (Surroundings)

def nameText (name : FileName) : String := (Path.text? ⟨name⟩).getD ""

def leavesOut (s : Scanner) (t : FileTree) (around : Option Surroundings) (p : Path)
    (name : FileName) (isDirectory : Bool) : Bool :=
  around.any (·.isIgnored p name isDirectory) ||
  (isDirectory && s.ignoredDirs.contains (nameText name)) ||
  s.excludes? t p

mutual

def walkEntry (s : Scanner) (t : FileTree) (around : Option Surroundings) (p : Path)
    (name : FileName) : Node → List Path
  | .file _ => if s.leavesOut t around p name false then [] else [p]
  | .link _ => []
  | .dir entries =>
    if s.leavesOut t around p name true then []
    else walkEntries s t (around.map fun around => around.enter t p) p entries

def walkEntries (s : Scanner) (t : FileTree) (around : Option Surroundings) (directory : Path) :
    List (FileName × Node) → List Path
  | [] => []
  | (name, node) :: rest =>
    walkEntry s t around (directory.joinName name) name node ++
      walkEntries s t around directory rest

end

/-- The path that stands for the standard input and not for a directory. -/
def standardInput : Path := Path.ofString "-"

def walk (s : Scanner) (t : FileTree) (p : Path) (entries : List (FileName × Node)) :
    Except ScanError (List Path) :=
  if p.Same standardInput then .ok []
  else if s.useIgnoreFiles then
    match Surroundings.atStart t p with
    | (around, []) => .ok (s.walkEntries t (some (around.enter t p)) p entries)
    | (_, faults) => .error (.notListed p faults)
  else .ok (s.walkEntries t none p entries)

end Lapse.Scanner
