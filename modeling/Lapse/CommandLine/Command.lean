import Lapse.CommandLine.Reader
import Lapse.Scan.Report

/-!
# Commands

The commands that a command line can ask for. What is given to a scan goes over the settings.
-/
namespace Lapse

/-- What is given to a scan. -/
structure ScanArguments where
  files : List Path
  config : Option Path
  openers : List String
  tags : List String
  template : Option String
  dateLayout : Option String
  caseInsensitive : Bool
  strict : Bool
  noRecursive : Bool
  excludes : List String
  noIgnoreFiles : Bool
  format : ReportFormat
  output : Option Path
  logLevel : Option String
  verbose : Bool
  deriving DecidableEq, Repr

inductive Command
  | check (arguments : ScanArguments)
  | list (arguments : ScanArguments)
  | init (path : Path) (force : Bool)
  deriving DecidableEq, Repr

namespace ScanArguments

/-- The settings with all that is given in their place. Excluded patterns are added to them, and a
verbose scan logs all that helps to understand it. -/
def applyTo (a : ScanArguments) (s : Settings) : Settings where
  style :=
    { openers := if a.openers.isEmpty then s.style.openers else a.openers
      tags := if a.tags.isEmpty then s.style.tags else a.tags
      template := a.template.getD s.style.template
      dateLayout := a.dateLayout.getD s.style.dateLayout
      caseSensitive := s.style.caseSensitive && !a.caseInsensitive }
  strict := s.strict || a.strict
  recursive := s.recursive && !a.noRecursive
  inputs := if a.files.isEmpty then s.inputs else a.files
  excludes := s.excludes ++ a.excludes
  ignoredDirs := s.ignoredDirs
  useIgnoreFiles := s.useIgnoreFiles && !a.noIgnoreFiles
  logLevel := if a.verbose then "debug" else a.logLevel.getD s.logLevel

end ScanArguments

namespace CommandLine

def formatNamed (name : String) : ReportFormat :=
  if name = "json" then .json else if name = "table" then .table else .text

def Given.flag (g : Given) (p : Parameter) : Bool := g.values p = ["true"]

def Given.value? (g : Given) (p : Parameter) : Option String := (g.values p).head?

def scanArguments (g : Given) : ScanArguments where
  files := (g.values .files).map Path.ofString
  config := (g.value? .config).map Path.ofString
  openers := g.values .openers
  tags := g.values .tags
  template := g.value? .template
  dateLayout := g.value? .dateLayout
  caseInsensitive := g.flag .caseInsensitive
  strict := g.flag .strict
  noRecursive := g.flag .noRecursive
  excludes := g.values .excludes
  noIgnoreFiles := g.flag .noIgnoreFiles
  format := formatNamed ((g.value? .format).getD "text")
  output := (g.value? .output).map Path.ofString
  logLevel := g.value? .logLevel
  verbose := g.flag .verbose

def commandNames : List String := ["check", "list", "init", "help"]

/-- Help may be asked for one command, by its name. -/
def helpError : List String → UsageError
  | [] => .helpRequested
  | [name] => if commandNames.contains name then .helpRequested else .unknownCommand
  | _ => .unknownCommand

/-- Reads what stands in front of the name of a command, where only help and the version can be
asked for. -/
def leadingError (text : String) : UsageError :=
  match text.toList with
  | '-' :: '-' :: rest =>
    let name := String.ofList (rest.takeWhile (· ≠ '='))
    if name = "help" ∨ name = "version" then
      if rest.contains '=' then .unexpectedValue
      else if name = "help" then .helpRequested else .versionRequested
    else .unknownArgument
  | '-' :: 'h' :: _ => .helpRequested
  | '-' :: 'V' :: _ => .versionRequested
  | '-' :: _ :: _ => .unknownArgument
  | _ => .unknownCommand

def command (environment : Environment) (arguments : List String) : Except UsageError Command :=
  let scan (rest : List String) := (given Parameter.ofScan environment rest).map scanArguments
  match arguments with
  | [] => .error .commandMissing
  | "check" :: rest => (scan rest).map .check
  | "list" :: rest => (scan rest).map .list
  | "init" :: rest => do
    let g ← given Parameter.ofInit environment rest
    let path := ((g.value? .path).map Path.ofString).getD Settings.fileName
    return .init path (g.flag .force)
  | "help" :: rest => .error (helpError rest)
  | ["--"] => .error .commandMissing
  | "--" :: name :: _ =>
    .error (if commandNames.contains name then .unknownArgument else .unknownCommand)
  | text :: _ => .error (leadingError text)

end CommandLine

end Lapse
