import Lapse.FileTree.Resolve
import Lapse.Ignore.Glob
import Lapse.Text.Blank

/-!
# Ignore rules

An ignore file has one rule in each line: a glob pattern for paths to leave out or, after an
exclamation mark, to keep. Of the rules that fit a path the last one decides.
-/
namespace Lapse.Ignore

structure Rule where
  glob : Glob
  /-- What fits is kept and not left out. -/
  keeps : Bool
  directoriesOnly : Bool

inductive Defect
  | badGlob (text : String) (error : GlobError)
  | notText
  deriving DecidableEq, Repr

structure Fault where
  file : Path
  line : Nat
  defect : Defect
  deriving DecidableEq, Repr

def Fault.message (f : Fault) : String :=
  f.file.display ++ ": line " ++ toString f.line ++ ": " ++
    match f.defect with
    | .badGlob text error => "error parsing glob '" ++ text ++ "': " ++ error.message
    | .notText => FileError.notText.message

namespace Rule

/-- The line without blanks at its end, unless a backslash precedes the last one. -/
def trimLine (line : List Char) : List Char :=
  if ['\\', ' '].isSuffixOf line then line else Text.trimEnd line

/-- The pattern of whole paths that a rule stands for: one without a slash may stand below any
directories, and one that ends in two stars is for what is in a directory, not for the
directory. -/
def wholePattern (anchored : Bool) (pattern : List Char) : List Char :=
  let pattern :=
    if anchored ∨ pattern.contains '/' ∨ pattern = ['*', '*'] then pattern
    else '*' :: '*' :: '/' :: pattern
  if ['/', '*', '*'].isSuffixOf pattern then pattern ++ ['/', '*'] else pattern

/-- The text without a slash at its end and a backslash before it, and whether there was one. -/
def dropLastSlash (pattern : List Char) : List Char × Bool :=
  match pattern.reverse with
  | '/' :: '\\' :: rest => (rest.reverse, true)
  | '/' :: rest => (rest.reverse, true)
  | _ => (pattern, false)

/-- The rule of a line that is not blank and no comment. -/
def ofPattern (line : List Char) : Except GlobError Rule := do
  let (keeps, anchored, pattern) :=
    match line with
    | '\\' :: '!' :: _ => (false, false, line.drop 1)
    | '\\' :: '#' :: _ => (false, false, line.drop 1)
    | '!' :: '/' :: rest => (true, true, rest)
    | '!' :: rest => (true, false, rest)
    | '/' :: rest => (false, true, rest)
    | _ => (false, false, line)
  let (pattern, directoriesOnly) := dropLastSlash pattern
  return ⟨← Glob.ofText (wholePattern anchored pattern), keeps, directoriesOnly⟩

def ofLine (line : List Char) : Except Defect (Option Rule) :=
  let trimmed := trimLine line
  if line.head? = some '#' ∨ trimmed = [] then .ok none
  else match ofPattern trimmed with
    | .ok rule => .ok (some rule)
    | .error e => .error (.badGlob (String.ofList trimmed) e)

def fits (r : Rule) (p : Path) (isDirectory : Bool) : Bool :=
  (!r.directoriesOnly || isDirectory) && r.glob.fits p

end Rule

inductive Verdict
  | ignored | kept
  deriving DecidableEq, Repr

structure RuleSet where
  directory : Path
  rules : List Rule

namespace RuleSet

def none (directory : Path) : RuleSet := ⟨directory, []⟩

/-- The bytes of a path without some at its start, if it starts with them. -/
def dropStart (start : List UInt8) (p : Path) : Path :=
  if start.isPrefixOf p.bytes then ⟨p.bytes.drop start.length⟩ else p

def currentSlash : List UInt8 := [dot, slash]

/-- A path as seen from the directory of the rules. -/
def relative (s : RuleSet) (p : Path) : Path :=
  let p := dropStart currentSlash p
  let directory := dropStart currentSlash s.directory
  if directory.Same ⟨[dot]⟩ ∨ !p.bytes.contains slash then p
  else if directory.bytes.isPrefixOf p.bytes then
    dropStart [slash] (dropStart directory.bytes p)
  else p

/-- The verdict of the last rule that fits a path. -/
def verdict? (s : RuleSet) (p : Path) (isDirectory : Bool) : Option Verdict :=
  let path := s.relative p
  (s.rules.reverse.find? fun r => r.fits path isDirectory).map fun r =>
    if r.keeps then .kept else .ignored

def splitLines (content : ByteArray) : List (List UInt8) :=
  let lines := Text.splitAll 10 content.data.toList
  let lines := if lines.getLast? = some [] then lines.dropLast else lines
  lines.map fun line => if line.getLast? = some 13 then line.dropLast else line

/-- Reads lines from number `number` on, up to one that is no text. -/
def readLines (file : Path) : (number : Nat) → List (List UInt8) → List Rule × List Fault
  | _, [] => ([], [])
  | number, line :: rest =>
    match Path.text? ⟨line⟩ with
    | .none => ([], [⟨file, number, .notText⟩])
    | some text =>
      let chars := if number = 1 then text.toList.dropWhile (· = '\ufeff') else text.toList
      let (rules, faults) := readLines file (number + 1) rest
      match Rule.ofLine chars with
      | .ok .none => (rules, faults)
      | .ok (some rule) => (rule :: rules, faults)
      | .error defect => (rules, ⟨file, number, defect⟩ :: faults)

/-- The rules of a file, which hold below `directory`, and its faults. That a file ends in what is
no text is not a fault by itself. -/
def load (t : FileTree) (directory file : Path) : RuleSet × List Fault :=
  match t.read file with
  | .error _ => (none directory, [])
  | .ok content =>
    let (rules, faults) := readLines file 1 (splitLines content)
    (⟨directory, rules⟩, if faults.all (·.defect = .notText) then [] else faults)

end RuleSet

end Lapse.Ignore
