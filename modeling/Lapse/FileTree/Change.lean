import Lapse.FileTree.Resolve

/-!
# Changing a file tree
-/
namespace Lapse.FileTree

/-- The directory that a path names an entry of. -/
def directoryOf (t : FileTree) (p : Path) : Path :=
  match p.parent? with
  | some above => if above.bytes = [] then t.herePath else above
  | none => p

/-- Writes a file. One that exists gets a new content, and a link is written through; there must be
a directory for one that does not exist. -/
def write (t : FileTree) (p : Path) (content : ByteArray) : Except FileError FileTree :=
  let store (names : List FileName) : FileTree :=
    { t with root := t.root.put (.file content) names }
  match t.place p with
  | .ok (.taken names (.file _)) => .ok (store names)
  | .ok (.taken _ _) => .error .isDirectory
  | .ok (.free directory name) =>
    match t.root.find? directory with
    | some (.dir _) => .ok (store (directory ++ [name]))
    | _ => .error .missing
  | .error e =>
    if p.bytes.getLast? = some slash ∧ t.isDirectory (t.directoryOf p) then .error .isDirectory
    else .error e

def writeText (t : FileTree) (p : Path) (text : String) : Except FileError FileTree :=
  t.write p text.toUTF8

/-- Removes a file, or a link and not what it leads to. -/
def remove (t : FileTree) (p : Path) : Except FileError FileTree :=
  match t.place p false with
  | .ok (.taken _ (.dir _)) => .error .isDirectory
  | .ok (.taken names _) => .ok { t with root := t.root.erase names }
  | .ok (.free _ _) => .error .missing
  | .error e => .error e

def enter (t : FileTree) (p : Path) : Except FileError FileTree := do
  match ← t.locate p with
  | (names, .dir _) => .ok { t with here := names }
  | _ => .error .notDirectory

/-- Puts a node at a free place or in the place of another node that is no directory. -/
def plant (t : FileTree) (p : Path) (node : Node) : FileTree :=
  match t.place p false with
  | .ok (.free directory name) => { t with root := t.root.put node (directory ++ [name]) }
  | .ok (.taken _ (.dir _)) => t
  | .ok (.taken names _) => { t with root := t.root.put node names }
  | .error _ => t

/-- Puts a node at a path, with all directories that are missing on the way. -/
def plantBelow (t : FileTree) (p : Path) (node : Node) : FileTree :=
  let above := (p.ancestors.drop 1).reverse
  (above.foldl (fun t directory => if t.has directory then t else t.plant directory (.dir [])) t)
    |>.plant p node

end Lapse.FileTree
