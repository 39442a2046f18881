import Lapse.CommentStyle
import Lapse.Path
import Lapse.Toml.Printer
import Lapse.Toml.Reader

/-!
# Settings

What to look for, where, and how strictly. Settings are written as a TOML document with one
assignment for each of them; a document that leaves some out has the defaults for these.
-/
namespace Lapse

structure Settings where
  style : CommentStyle
  strict : Bool
  /-- Directories are searched with all that is below them. -/
  recursive : Bool
  inputs : List Path
  excludes : List String
  ignoredDirs : List String
  /-- Files that an ignore file names are left out. -/
  useIgnoreFiles : Bool
  logLevel : String
  deriving DecidableEq, Repr

namespace Settings

def default : Settings where
  style :=
    { openers := ["//", "#", "/*"]
      tags := ["TODO", "FIXME"]
      template := "\x7btag\x7d(?:\\[\x7bdate\x7d\\])?"
      dateLayout := "YYYY-MM-DD"
      caseSensitive := true }
  strict := false
  recursive := true
  inputs := [Path.ofString "."]
  excludes := []
  ignoredDirs := [".git", "node_modules", "target", "dist", "build", ".venv", "venv", "vendor",
    "__pycache__"]
  useIgnoreFiles := true
  logLevel := "warn"

/-- The fields of the written form in order; none when the text of an input is unknown. -/
def fields? (s : Settings) : Option (List (String × Toml.Field)) := do
  let inputs ← s.inputs.mapM Path.text?
  return [
    ("comment_prefixes", .texts s.style.openers),
    ("tags", .texts s.style.tags),
    ("expiry_pattern", .text s.style.template),
    ("date_layout", .text s.style.dateLayout),
    ("case_sensitive", .flag s.style.caseSensitive),
    ("strict", .flag s.strict),
    ("recursive", .flag s.recursive),
    ("files", .texts inputs),
    ("exclude_patterns", .texts s.excludes),
    ("ignored_dirs", .texts s.ignoredDirs),
    ("respect_gitignore", .flag s.useIgnoreFiles),
    ("log_level", .text s.logLevel)]

def text? (s : Settings) : Option String :=
  s.fields?.map fun fields => String.ofList (Toml.documentText fields)

/-- The value of a key as read by `as`, or the default when the table has no such key. -/
def valueOr? {α : Type} (entries : Toml.Entries) (as : Toml → Option α) (key : String)
    (default : α) : Option α :=
  match Toml.find? entries key with
  | none => some default
  | some value => as value

/-- The settings of a table. Keys that are no settings do not matter. -/
def ofEntries? (entries : Toml.Entries) : Option Settings := do
  let texts := valueOr? entries Toml.strings?
  let text := valueOr? entries Toml.string?
  let flag := valueOr? entries Toml.boolean?
  let inputs (value : Toml) := value.strings?.map fun names => names.map Path.ofString
  return {
    style :=
      { openers := ← texts "comment_prefixes" default.style.openers
        tags := ← texts "tags" default.style.tags
        template := ← text "expiry_pattern" default.style.template
        dateLayout := ← text "date_layout" default.style.dateLayout
        caseSensitive := ← flag "case_sensitive" default.style.caseSensitive }
    strict := ← flag "strict" default.strict
    recursive := ← flag "recursive" default.recursive
    inputs := ← valueOr? entries inputs "files" default.inputs
    excludes := ← texts "exclude_patterns" default.excludes
    ignoredDirs := ← texts "ignored_dirs" default.ignoredDirs
    useIgnoreFiles := ← flag "respect_gitignore" default.useIgnoreFiles
    logLevel := ← text "log_level" default.logLevel }

def ofText? (text : String) : Option Settings := (Toml.ofText? text.toList).bind ofEntries?

end Settings

end Lapse
