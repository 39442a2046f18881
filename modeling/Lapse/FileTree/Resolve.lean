import Lapse.FileTree.Basic

/-!
# Where a path leads

A path is followed part by part. A symbolic link is replaced by its target, at most forty times.
-/
namespace Lapse

/-- What a path leads to: a node under its names, or a free name in a directory. -/
inductive Place
  | taken (names : List FileName) (node : Node)
  | free (directory : List FileName) (name : FileName)
  deriving Inhabited

namespace FileTree

/-- The longest name of a file, in bytes. -/
def nameLimit : Nat := 255

/-- One more than the length of the longest path, in bytes. -/
def pathLimit : Nat := 4096

/-- How many links are followed on the way of one path. -/
def linkLimit : Nat := 40

def parts (p : Path) : List FileName := Text.splitAll slash p.bytes

/-- Follows parts from the directory `at`. At a link, which is followed at the end only if `last`
says so, `onLink` goes on with its target and the parts left. -/
def follow (root : Entries) (last : Bool)
    (onLink : List FileName → Path → List FileName → Except FileError Place) :
    (start : List FileName) → (parts : List FileName) → Except FileError Place
  | start, [] =>
    match root.find? start with
    | some node => .ok (.taken start node)
    | none => .error .missing
  | start, part :: parts =>
    if part = [] ∨ part = [dot] then follow root last onLink start parts
    else if part = [dot, dot] then follow root last onLink start.dropLast parts
    else if nameLimit < part.length then .error .nameTooLong
    else
      let names := start ++ [part]
      match root.find? names with
      | none => if parts = [] then .ok (.free start part) else .error .missing
      | some (.dir _) => follow root last onLink names parts
      | some (.link target) =>
        if parts = [] ∧ !last then .ok (.taken names (.link target)) else onLink start target parts
      | some (.file content) =>
        if parts = [] then .ok (.taken names (.file content)) else .error .notDirectory

/-- Follows parts and at most `links` links. -/
def followLinks (root : Entries) (last : Bool) :
    (links : Nat) → (start parts : List FileName) → Except FileError Place
  | 0 => follow root last fun _ _ _ => .error .tooManyLinks
  | links + 1 => follow root last fun start target rest =>
    followLinks root last links (if target.isAbsolute then [] else start) (parts target ++ rest)

/-- The place of a path; a link at its end is followed if `last` says so. -/
def place (t : FileTree) (p : Path) (last : Bool := true) : Except FileError Place :=
  if p.bytes.contains 0 then .error .zeroByte
  else if p.bytes = [] then .error .missing
  else if pathLimit ≤ p.bytes.length then .error .nameTooLong
  else followLinks t.root last linkLimit (if p.isAbsolute then [] else t.here) (parts p)

/-- The names and the node of a path, links followed. -/
def locate (t : FileTree) (p : Path) : Except FileError (List FileName × Node) :=
  match t.place p with
  | .ok (.taken names node) => .ok (names, node)
  | .ok (.free _ _) => .error .missing
  | .error e => .error e

def node (t : FileTree) (p : Path) : Except FileError Node := (t.locate p).map (·.2)

def has (t : FileTree) (p : Path) : Bool := (t.node p).isOk

def isFile (t : FileTree) (p : Path) : Bool := (t.node p).toOption matches some (.file _)

def isDirectory (t : FileTree) (p : Path) : Bool := (t.node p).toOption matches some (.dir _)

/-- The path of a node without links and dots. -/
def realPath? (t : FileTree) (p : Path) : Option Path :=
  (t.locate p).toOption.map fun (names, _) => names.foldl Path.joinName ⟨[slash]⟩

def read (t : FileTree) (p : Path) : Except FileError ByteArray := do
  match ← t.node p with
  | .file content => .ok content
  | _ => .error .isDirectory

def readText (t : FileTree) (p : Path) : Except FileError String := do
  match String.fromUTF8? (← t.read p) with
  | some text => .ok text
  | none => .error .notText

end FileTree

end Lapse
