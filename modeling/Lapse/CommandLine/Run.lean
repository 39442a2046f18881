import Lapse.CommandLine.Command
import Lapse.Regex.Size
import Lapse.Text.Quoted

/-!
# Running commands

What a command line does with a file tree: the exit code, what it writes to both outputs, the log
entries, and the tree that it leaves. The code is 0 when all notes pass, 1 when one fails, and 2
when the command itself fails.
-/
namespace Lapse

structure Outcome where
  code : Nat
  output : String
  errors : String
  log : List Log.Entry
  files : FileTree

/-- What a command depends on besides the files. -/
structure Circumstances where
  environment : CommandLine.Environment
  /-- The filter for log entries that comes before the one in the settings. -/
  logFilter : Option String
  now : Calendar.Instant

namespace Outcome

/-- A command that failed and left the files as they were. -/
def failed (t : FileTree) (message : String) (log : List Log.Entry) : Outcome :=
  ⟨2, "", "overdue: " ++ message ++ "\n", log, t⟩

end Outcome

namespace CommandLine

def lineEntries (m : Matcher) (number : Nat) (line : List Char) : List Log.Entry :=
  let entry (level : Log.Level) (message : String) : Log.Entry :=
    ⟨level, "overdue::matcher", message⟩
  let quoted (text : List Char) := Text.Quoted.text (String.ofList text)
  let matched (c : Regex.Capture) :=
    entry .trace ("line " ++ toString number ++ ": matched " ++ quoted c.text)
  match m.readLine number line with
  | .nothing => []
  | .found c _ => [matched c]
  | .badDate c date => [matched c, entry .debug ("skipping line " ++ toString number ++ ": " ++
      quoted date ++ " is not a valid " ++ m.layoutText ++ " date")]

def fileEntries (m : Matcher) (t : FileTree) (p : Path) : List Log.Entry :=
  let skipped (kind : String) : List Log.Entry :=
    [⟨.debug, "overdue::scanner", "skipping " ++ kind ++ " file " ++ p.display⟩]
  match Scan.skip? t p, t.read p with
  | some .binary, _ => skipped "binary"
  | some .large, _ => skipped "large"
  | none, .ok content =>
    (Text.numberedLines (Text.Utf8.decodeLossy content).toList).flatMap fun (number, line) =>
      lineEntries m number line
  | none, .error _ => []

/-- The entry that tells where the settings come from. -/
def sourceEntry (source : Option Path) : Log.Entry where
  level := .debug
  target := "overdue"
  message := match source with
    | some p => "using config " ++ p.display
    | none => "no config file found, using defaults"

/-- The entries of a scan, as far as it gets. -/
def scanEntries [Regex.SizeLimit] (t : FileTree) (source : Option Path) (s : Settings)
    (now : Calendar.Instant) : List Log.Entry :=
  let main (level : Log.Level) (message : String) : Log.Entry := ⟨level, "overdue", message⟩
  let start := [sourceEntry source, main .debug ("using tags " ++ Text.Quoted.list s.style.tags)]
  let pattern := match s.style.patternOf with
    | .ok (source, _) => [⟨.debug, "overdue::matcher",
        "using regex " ++ Text.Quoted.text (String.ofList source) ++ " to parse comments"⟩]
    | .error _ => []
  match s.style.compile, Scanner.ofOptions s.scanOptions with
  | .ok matcher, .ok scanner =>
    let excluded := (scanner.excludedInputs t s.inputs).map fun p =>
      ⟨.debug, "overdue::scanner", "excluding " ++ p.display⟩
    let rest := match scanner.collect t s.inputs with
      | .error _ => []
      | .ok files =>
        main .info ("scanning " ++ toString files.length ++ " files") ::
          files.flatMap (fileEntries matcher t)
    let found := match Report.ofScan t s now with
      | .error _ => []
      | .ok r => [main .info ("found " ++ toString r.total ++ " annotations, " ++
          toString r.violationCount ++ " failing")]
    start ++ pattern ++ excluded ++ rest ++ found
  | _, _ => start ++ pattern

/-- The entries of a scan that a filter shows. -/
def shownEntries [Regex.SizeLimit] (f : Log.Filter) (t : FileTree) (source : Option Path)
    (s : Settings) (now : Calendar.Instant) : List Log.Entry :=
  if f.isQuiet then [] else (scanEntries t source s now).filter f.shows

def logFilter (override : Option String) (s : Settings) : Except ScanFailure Log.Filter :=
  match override.bind fun text => (Log.Filter.ofText text).toOption with
  | some filter => .ok filter
  | none => (Log.Filter.ofText s.logLevel).mapError (.logFilter s.logLevel)

/-- Writes a report to the file that is named or else to the output. -/
def deliver (t : FileTree) (r : Report) (selection : Selection) (a : ScanArguments)
    (log : List Log.Entry) : Except ReportError Outcome := do
  let text ← r.written selection a.format
  let code := if r.hasViolations then 1 else 0
  match a.output with
  | none => return ⟨code, text, "", log, t⟩
  | some p =>
    let files ← Report.save t p text
    return ⟨code, "", "Report written to " ++ p.display ++ "\n", log, files⟩

/-- The settings of a scan that come from `source`, and the filter for log entries. -/
def prepareFrom (t : FileTree) (c : Circumstances) (a : ScanArguments) (source : Option Path) :
    Except ScanFailure (Option Path × Settings × Log.Filter) := do
  let loaded ← (Settings.loadFrom t source).mapError .settings
  let settings := a.applyTo loaded
  return (source, settings, ← logFilter c.logFilter settings)

/-- A scan with settings that come from `source`. -/
def scanFrom [Regex.SizeLimit] (t : FileTree) (c : Circumstances) (selection : Selection)
    (a : ScanArguments) (source : Option Path) : Outcome :=
  match prepareFrom t c a source with
  | .error f => .failed t f.message []
  | .ok (source, settings, filter) =>
    let log := shownEntries filter t source settings c.now
    match Report.ofScan t settings c.now with
    | .error f => .failed t f.message log
    | .ok r =>
      match deliver t r selection a log with
      | .ok outcome => outcome
      | .error e => .failed t (ScanFailure.report e).message log

/-- The settings of a scan, where they come from, and the filter for log entries. -/
def prepare (t : FileTree) (c : Circumstances) (a : ScanArguments) :
    Except ScanFailure (Option Path × Settings × Log.Filter) :=
  prepareFrom t c a (Settings.source? t a.config)

def scan [Regex.SizeLimit] (t : FileTree) (c : Circumstances) (selection : Selection)
    (a : ScanArguments) : Outcome :=
  scanFrom t c selection a (Settings.source? t a.config)

/-- Writes the default settings to a file; one that exists only by force. -/
def init (t : FileTree) (p : Path) (force : Bool) : Outcome :=
  if t.has p ∧ !force then
    .failed t (p.display ++ " already exists, use --force to overwrite it") []
  else match Settings.default.save t p with
    | .ok files => ⟨0, "Wrote " ++ p.display ++ "\n", "", [], files⟩
    | .error e => .failed t e.message []

def versionText : String := "overdue 0.1.0\n"

/-- The answer to a command line that is no command. What it says about the usage of commands is
left out. -/
def refuse (t : FileTree) : UsageError → Outcome
  | .helpRequested => ⟨0, "", "", [], t⟩
  | .versionRequested => ⟨0, versionText, "", [], t⟩
  | _ => ⟨2, "", "", [], t⟩

def run [Regex.SizeLimit] (t : FileTree) (c : Circumstances) (arguments : List String) : Outcome :=
  match command c.environment arguments with
  | .error e => refuse t e
  | .ok (.check a) => scan t c .violations a
  | .ok (.list a) => scan t c .all a
  | .ok (.init p force) => init t p force

end CommandLine

end Lapse
