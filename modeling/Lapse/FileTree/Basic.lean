import Lapse.Path

/-!
# File trees

Files, directories and symbolic links below a root directory, with a working directory and a home.
A node is named by the names that lead to it from the root.
-/
namespace Lapse

inductive Node
  | file (content : ByteArray)
  | link (target : Path)
  | dir (entries : List (FileName × Node))
  deriving Inhabited

abbrev Entries := List (FileName × Node)

inductive FileError
  | missing
  | notDirectory
  | isDirectory
  | tooManyLinks
  | nameTooLong
  | zeroByte
  | notText
  deriving DecidableEq, Repr

def FileError.message : FileError → String
  | missing => "No such file or directory (os error 2)"
  | notDirectory => "Not a directory (os error 20)"
  | isDirectory => "Is a directory (os error 21)"
  | tooManyLinks => "Too many levels of symbolic links (os error 40)"
  | nameTooLong => "File name too long (os error 36)"
  | zeroByte => "file name contained an unexpected NUL byte"
  | notText => "stream did not contain valid UTF-8"

namespace Entries

def find? : List FileName → Entries → Option Node
  | [], entries => some (.dir entries)
  | name :: names, entries =>
    match entries.lookup name with
    | some (.dir inner) => find? names inner
    | some node => if names = [] then some node else none
    | none => none

/-- Gives an entry a new node, or adds it as the last one. -/
def set (name : FileName) (node : Node) : Entries → Entries
  | [] => [(name, node)]
  | entry :: rest => if entry.1 = name then (name, node) :: rest else entry :: set name node rest

/-- Puts a node where names lead to, when the names before the last one lead to a directory. -/
def put (node : Node) : List FileName → Entries → Entries
  | [], entries => entries
  | [name], entries => set name node entries
  | name :: names, entries =>
    match entries.lookup name with
    | some (.dir inner) => set name (.dir (put node names inner)) entries
    | _ => entries

def erase : List FileName → Entries → Entries
  | [], entries => entries
  | [name], entries => entries.filter fun entry => entry.1 ≠ name
  | name :: names, entries =>
    match entries.lookup name with
    | some (.dir inner) => set name (.dir (erase names inner)) entries
    | _ => entries

end Entries

structure FileTree where
  root : Entries
  here : List FileName
  home : Option Path
  deriving Inhabited

def FileTree.herePath (t : FileTree) : Path :=
  t.here.foldl Path.joinName ⟨[slash]⟩

/-- The absolute path as written from the working directory. -/
def FileTree.absolute? (t : FileTree) (p : Path) : Option Path := Path.absolute? t.herePath p

end Lapse
