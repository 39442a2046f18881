import Lapse.Ignore.Scope
import Lapse.Scan.Binary
import Lapse.Settings

/-!
# Scanners

Which files are looked at, and what can go wrong on the way to their notes.
-/
namespace Lapse

namespace Scan

structure Options where
  recursive : Bool
  excludes : List String
  ignoredDirs : List String
  useIgnoreFiles : Bool
  deriving DecidableEq, Repr

end Scan

def Settings.scanOptions (s : Settings) : Scan.Options :=
  ⟨s.recursive, s.excludes, s.ignoredDirs, s.useIgnoreFiles⟩

inductive ScanError
  | invalidExclude (pattern : String)
  | noSuchFile (path : Path) (cause : FileError)
  /-- A directory was given, but only files are searched. -/
  | directoryGiven (path : Path)
  /-- Ignore files above a directory have faults. -/
  | notListed (path : Path) (faults : List Ignore.Fault)
  | notProcessed (path : Path) (cause : FileError)
  deriving DecidableEq, Repr

def ScanError.message : ScanError → String
  | invalidExclude pattern => "Invalid exclude pattern: " ++ pattern ++ ": " ++ Regex.errorText
  | noSuchFile path cause => "No such file: " ++ path.display ++ ": " ++ cause.message
  | directoryGiven path => "Cannot process directory " ++ path.display ++ " without recursion"
  | notListed path faults => "Failed to list " ++ path.display ++ ": " ++
      "\n".intercalate (faults.map Ignore.Fault.message)
  | notProcessed path cause => "Failed to process " ++ path.display ++ ": " ++ cause.message

structure Scanner where
  recursive : Bool
  excludes : List Regex
  ignoredDirs : List String
  useIgnoreFiles : Bool

namespace Scanner

/-- The pattern of a text; one that is empty excludes nothing. -/
def readExclude [Regex.SizeLimit] (pattern : String) : Except ScanError (List Regex) :=
  if pattern = "" then .ok []
  else match Regex.ofText? pattern.toList with
    | some regex => .ok [regex]
    | none => .error (.invalidExclude pattern)

def ofOptions [Regex.SizeLimit] (o : Scan.Options) : Except ScanError Scanner := do
  let excludes ← o.excludes.mapM readExclude
  return ⟨o.recursive, excludes.flatten, o.ignoredDirs, o.useIgnoreFiles⟩

/-- Whether a pattern matches a path as it is or its absolute form. -/
def excludes? (s : Scanner) (t : FileTree) (p : Path) : Bool :=
  !s.excludes.isEmpty &&
    let given := p.display.toList
    let full := ((t.absolute? p).getD p).display.toList
    s.excludes.any fun r => r.isMatch given || r.isMatch full

end Scanner

end Lapse
