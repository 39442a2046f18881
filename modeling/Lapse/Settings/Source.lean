import Lapse.FileTree.Change
import Lapse.Settings

/-!
# Where settings come from

Settings are read from the file that is named or, when none is, from the nearest `.overdue.toml` in
the working directory or above it, or else from the one in the home directory. Without any of them
the defaults hold.
-/
namespace Lapse

inductive SettingsError
  | unreadable (path : Path) (cause : FileError)
  | malformed (path : Path)
  | unwritable
  | notWritten (path : Path) (cause : FileError)
  deriving DecidableEq, Repr

def SettingsError.message : SettingsError → String
  | unreadable path cause => "Failed to load config from " ++ path.display ++
      ": Failed to read config file: " ++ path.display ++ ": " ++ cause.message
  | malformed path => "Failed to load config from " ++ path.display ++
      ": Failed to parse config file: " ++ path.display ++ ": " ++ Toml.errorText
  | unwritable => "Failed to serialize config: path contains invalid UTF-8 characters"
  | notWritten path cause =>
    "Failed to write config to " ++ path.display ++ ": " ++ cause.message

namespace Settings

def fileName : Path := Path.ofString ".overdue.toml"

/-- The nearest file with settings in a directory or above it. -/
def findAbove? (t : FileTree) (start : Path) : Option Path :=
  (start.ancestors.map fun directory => directory.join fileName).find? t.isFile

def findAtHome? (t : FileTree) : Option Path :=
  (t.home.map fun home => home.join fileName).filter t.isFile

def source? (t : FileTree) (named : Option Path) : Option Path :=
  named <|> findAbove? t t.herePath <|> findAtHome? t

def loadFile (t : FileTree) (p : Path) : Except SettingsError Settings :=
  match t.readText p with
  | .error cause => .error (.unreadable p cause)
  | .ok text =>
    match ofText? text with
    | some settings => .ok settings
    | none => .error (.malformed p)

def loadFrom (t : FileTree) (source : Option Path) : Except SettingsError Settings :=
  match source with
  | some p => loadFile t p
  | none => .ok default

def load (t : FileTree) (named : Option Path) : Except SettingsError Settings :=
  loadFrom t (source? t named)

def save (s : Settings) (t : FileTree) (p : Path) : Except SettingsError FileTree :=
  match s.text? with
  | none => .error .unwritable
  | some text => (t.writeText p text).mapError (.notWritten p)

end Settings

end Lapse
