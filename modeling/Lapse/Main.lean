import Lapse.CommandLine.Run
import Std.Time.DateTime.Timestamp

/-!
# The program

Takes the part of the disk that a command can look at as a file tree, runs the command on it, and
writes the file that it changed and both outputs.
-/
namespace Lapse.Disk

/-- The content that stands for one that is too large to be read. -/
def largeContent : ByteArray := ⟨Array.replicate (Scan.sizeLimit + 1) 0⟩

def contentOf (name : String) : IO ByteArray := do
  let path := (← IO.currentDir) / name
  if Scan.sizeLimit < (← path.metadata).byteSize.toNat then return largeContent else IO.FS.readBinFile name

/-- The node of a file or directory. Directories that are among `shallow` are taken without what is
in them. -/
partial def nodeOf (shallow : List String) (name : String) : IO Node := do
  let path := (← IO.currentDir) / name
  match (← path.symlinkMetadata).type with
  | .symlink =>
    let target ← try some <$> IO.FS.realPath path catch _ => pure none
    return .link (Path.ofString ((target.map toString).getD ""))
  | .dir =>
    let entries ← (← path.readDir).toList.mapM fun entry => do
      let bytes := (Path.ofString entry.fileName).bytes
      if shallow.contains entry.fileName && (← entry.path.isDir) then
        return (bytes, Node.dir [])
      else return (bytes, ← nodeOf shallow (toString entry.path))
    return .dir entries
  | _ => return .file (← contentOf name)

/-- Adds what is at a path, with all that is below it when `deep` says so. -/
def add (t : FileTree) (p : Path) (deep : Bool) (shallow : List String) : IO FileTree := do
  let path := (← IO.currentDir) / p.display
  if !(← path.pathExists) then
    match path.parent with
    | some parent =>
      if ← parent.isDir then
        return t.plantBelow (Path.ofString (toString parent)) (.dir [])
      else return t
    | none => return t
  else if (← path.isDir) && !deep then return t.plantBelow p (.dir [])
  else
    let node ← try nodeOf shallow p.display catch _ => pure (.dir [])
    let t := t.plantBelow p node
    match t.locate p with
    | .ok (names, .dir _) => return { t with root := t.root.put node names }
    | _ => return t

def bareTree : IO FileTree := do
  let here := Path.ofString (toString (← IO.currentDir))
  let home := (← IO.getEnv "HOME").map Path.ofString
  let t := FileTree.plantBelow ⟨[], [], home⟩ here (.dir [])
  return (t.enter here).toOption.getD t

/-- The files that can hold settings or ignore rules for what is in a directory. -/
def specialFiles (t : FileTree) : List Path :=
  let above := t.herePath.ancestors.flatMap fun directory =>
    [".overdue.toml", ".ignore", ".gitignore", ".git/info/exclude"].map fun name =>
      directory.join (Path.ofString name)
  let atHome := t.home.toList.flatMap fun home =>
    [".overdue.toml", ".gitconfig", ".config/git/config", ".config/git/ignore"].map fun name =>
      home.join (Path.ofString name)
  above ++ atHome

/-- The part of the disk that a scan can look at. -/
def treeForScan (t : FileTree) (c : Circumstances) (a : ScanArguments) : IO FileTree := do
  let named := a.config.toList ++ a.output.toList
  let t ← (specialFiles t ++ named).foldlM (fun t p => add t p false []) t
  match CommandLine.prepare t c a with
  | .error _ => return t
  | .ok (_, settings, _) =>
    settings.inputs.foldlM (fun t p => add t p true settings.ignoredDirs) t

def environment : IO CommandLine.Environment := do
  let names := CommandLine.Parameter.ofScan.filterMap CommandLine.Parameter.environmentName
  let values ← names.mapM fun name => do
    return (← IO.getEnv name).map fun value => (name, value)
  return values.filterMap id

def clock : IO Calendar.Instant := do
  let now := (← Std.Time.Timestamp.now).val
  return ⟨now.second.val, now.nano.val.toNat⟩

def writeBack (before after : FileTree) (p : Path) : IO Unit := do
  match (before.read p).toOption, (after.read p).toOption with
  | old, some new =>
    if old.map (·.data) = some new.data then return else IO.FS.writeBinFile p.display new
  | _, none => return

end Lapse.Disk

open Lapse in
def main (arguments : List String) : IO UInt32 := do
  let c : Circumstances := ⟨← Disk.environment, none, ← Disk.clock⟩
  let bare ← Disk.bareTree
  let (t, changed) ← match CommandLine.command c.environment arguments with
    | .ok (.check a) | .ok (.list a) => do pure (← Disk.treeForScan bare c a, a.output)
    | .ok (.init p _) => do pure (← Disk.add bare p false [], some p)
    | .error _ => pure (bare, none)
  let outcome := CommandLine.run t c arguments
  for entry in outcome.log do IO.eprintln entry.text
  for p in changed do Disk.writeBack t outcome.files p
  IO.print outcome.output
  IO.eprint outcome.errors
  return outcome.code.toUInt32
