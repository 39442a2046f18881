import Lapse.Ignore.Rules
import Lapse.Regex.Reader
import Lapse.Regex.Search
import Lapse.Text.Lines

/-!
# Scopes of ignore rules

Every directory can have ignore files. Those of the nearest directory decide first, and of one
directory the rules for all tools come before those for version control, which count only inside a
repository. `isIgnored` says which entries are left out.
-/
namespace Lapse.Ignore

structure Scope where
  directory : Path
  /-- The rules for all tools. -/
  general : RuleSet
  /-- The rules for version control. -/
  shared : RuleSet
  /-- The rules that the repository keeps for itself. -/
  own : RuleSet
  /-- The directory is the top of a repository. -/
  isRepository : Bool

namespace Scope

def named (p : Path) (name : String) : Path := p.join (Path.ofString name)

def firstLine? (t : FileTree) (p : Path) : Option String := do
  let text ← (t.readText p).toOption
  let line ← (Text.lines text.toList).head?
  return String.ofList line

/-- The directory with the data of the repository in `directory`. A file in its place names another
one, which names the one that is shared. -/
def repositoryData? (t : FileTree) (directory : Path) : Option Path :=
  let marker := named directory ".git"
  if t.isFile marker then do
    let line ← firstLine? t marker
    let start := "gitdir: "
    if start.toList.isPrefixOf line.toList then
      let data := Path.ofString (String.ofList (line.toList.drop start.length))
      let shared ← firstLine? t (named data "commondir")
      return if shared.toList.head? = some '.' then data.join (Path.ofString shared)
        else Path.ofString shared
    else none
  else some marker

/-- The rules of a directory, and the faults in their files. -/
def load (t : FileTree) (directory : Path) : Scope × List Fault :=
  let (general, a) := RuleSet.load t directory (named directory ".ignore")
  let (shared, b) := RuleSet.load t directory (named directory ".gitignore")
  let (own, c) :=
    match repositoryData? t directory with
    | some data => RuleSet.load t directory (named data "info/exclude")
    | none => (RuleSet.none directory, [])
  let isRepository := t.has (named directory ".git") || t.has (named directory ".jj")
  (⟨directory, general, shared, own, isRepository⟩, a ++ b ++ c)

end Scope

structure Surroundings where
  /-- The scopes from the directory up to where the walk starts. -/
  inside : List Scope
  /-- The scopes above where the walk starts, nearest first, by their real paths. -/
  outside : List Scope
  /-- The real path of where the walk starts. -/
  start : Path
  /-- The rules for all repositories of the user. -/
  userWide : RuleSet

namespace Surroundings

/-- The path of an entry below the real path of where the walk starts. -/
def realPath (s : Surroundings) (p : Path) : Path :=
  match s.inside.getLast? with
  | none => s.start.join p
  | some scope =>
    if scope.directory.Same ⟨[dot]⟩ then s.start.join p
    else
      let start := RuleSet.dropStart RuleSet.currentSlash scope.directory
      s.start.join (RuleSet.dropStart [slash] (RuleSet.dropStart start.bytes p))

/-- The scopes with the path of an entry as each of them sees it, nearest first. -/
def views (s : Surroundings) (p : Path) : List (Scope × Path) :=
  s.inside.map (·, p) ++ s.outside.map (·, s.realPath p)

/-- The scopes up to the top of the nearest repository. -/
def untilRepository : List (Scope × Path) → List (Scope × Path)
  | [] => []
  | view :: rest => view :: if view.1.isRepository then [] else untilRepository rest

/-- The verdict on an entry. -/
def verdict? (s : Surroundings) (p : Path) (isDirectory : Bool) : Option Verdict :=
  let p := RuleSet.dropStart RuleSet.currentSlash p
  let views := s.views p
  let first (views : List (Scope × Path)) (rules : Scope → RuleSet) : Option Verdict :=
    views.findSome? fun (scope, path) => (rules scope).verdict? path isDirectory
  let general := first views Scope.general
  if views.any fun view => view.1.isRepository then
    let views := untilRepository views
    general <|> first views Scope.shared <|> first views Scope.own <|>
      s.userWide.verdict? p isDirectory
  else general

/-- Whether an entry is left out. Without a verdict, hidden ones are. -/
def isIgnored (s : Surroundings) (p : Path) (name : FileName) (isDirectory : Bool) : Bool :=
  match s.verdict? p isDirectory with
  | some .ignored => true
  | some .kept => false
  | none => name.head? = some dot

/-- The surroundings of what is in a directory of the walk. -/
def enter (t : FileTree) (s : Surroundings) (directory : Path) : Surroundings :=
  { s with inside := (Scope.load t directory).1 :: s.inside }

/-- The setting for the file with the rules for all repositories. -/
def excludesSetting? (text : String) : Option String := do
  let pattern ← Regex.ofAnySize?
    "(?im)^\\s*excludesfile\\s*=\\s*\"?\\s*(\\S+?)\\s*\"?\\s*$".toList
  let captures ← pattern.search? text.toList
  return String.ofList (← captures.lookup 1).text

/-- A text with the path of the home directory for each tilde. -/
def expandHome (home : Path) (text : String) : String :=
  String.ofList (text.toList.flatMap fun c => if c = '~' then home.display.toList else [c])

/-- The file with the rules for all repositories of the user. -/
def userWideFile (t : FileTree) (home : Path) : Path :=
  let setting (file : String) : Option Path := do
    let content ← (t.read (Scope.named home file)).toOption
    let text ← excludesSetting? (Text.Utf8.decodeLossy content)
    return Path.ofString (expandHome home text)
  (setting ".gitconfig" <|> setting ".config/git/config").getD
    (Scope.named home ".config/git/ignore")

def userRules (t : FileTree) : RuleSet :=
  match t.home with
  | none => RuleSet.none t.herePath
  | some home =>
    let file := userWideFile t home
    if t.isFile file then (RuleSet.load t t.herePath file).1 else RuleSet.none t.herePath

/-- The paths above a real path, nearest first. -/
def pathsAbove (p : Path) : List Path := p.ancestors.drop 1

/-- The surroundings of where a walk starts, and the faults in the files above it. -/
def atStart (t : FileTree) (p : Path) : Surroundings × List Fault :=
  let start := (t.realPath? p).getD p
  let scopes := (pathsAbove start).map (Scope.load t)
  (⟨[], scopes.map (·.1), start, userRules t⟩, (scopes.map (·.2)).reverse.flatten)

end Surroundings

end Lapse.Ignore
