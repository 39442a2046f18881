import Lapse.Proofs.Scan.TextPaths
import Lapse.Proofs.Scan.Verdict

/-!
# Exit codes

The exit code of a scan is the same whatever is selected, in which format it is written and where it
is written to. A check that is written as text writes nothing exactly when its code is 0.
-/
namespace Lapse

theorem Report.text_eq_empty_iff (r : Report) (selection : Selection) :
    r.text selection = "" ↔ r.selected selection = [] := by
  rw [text]
  cases r.selected selection with
  | nil => simp
  | cons f findings => simp [String.append_eq_empty_iff]

/-- Of the findings of a report as it is made, some are violations exactly when it has any. -/
theorem Report.hasViolations_ofFindings (findings : List Finding) (paths : List Path) (n : Nat)
    (now : Calendar.Instant) :
    (ofFindings findings paths n now).hasViolations ↔
      (ofFindings findings paths n now).selected .violations ≠ [] := by
  rw [hasViolations, decide_eq_true_iff]
  exact List.length_pos_iff

namespace Settings

theorem exists_of_valueOr?_eq_some {α : Type} {entries : Toml.Entries} {read : Toml → Option α}
    {key : String} {default value : α} (h : valueOr? entries read key default = some value) :
    value = default ∨ ∃ j, read j = some value := by
  rw [valueOr?] at h
  split at h
  · exact .inl (Option.some.inj h).symm
  · exact .inr ⟨_, h⟩

theorem isText_of_mem_inputs_default {p : Path} (hp : p ∈ default.inputs) : p.IsText := by
  rw [List.mem_singleton.1 hp]
  exact Path.isText_ofString "."

theorem isText_of_mem_inputs_of_ofEntries? {entries : Toml.Entries} {s : Settings}
    (h : ofEntries? entries = some s) {p : Path} (hp : p ∈ s.inputs) : p.IsText := by
  simp only [ofEntries?, Option.bind_eq_bind, Option.bind_eq_some_iff] at h
  obtain ⟨_, -, _, -, _, -, _, -, _, -, _, -, _, -, inputs, hinputs, _, -, _, -, _, -, _, -, h⟩ := h
  cases h
  rcases exists_of_valueOr?_eq_some hinputs with rfl | ⟨j, hread⟩
  · exact isText_of_mem_inputs_default hp
  · obtain ⟨names, -, rfl⟩ := Option.map_eq_some_iff.1 hread
    obtain ⟨name, -, rfl⟩ := List.mem_map.1 hp
    exact Path.isText_ofString name

/-- The inputs of settings that are loaded are texts. -/
theorem isText_of_mem_inputs {t : FileTree} {source : Option Path} {s : Settings}
    (h : loadFrom t source = .ok s) {p : Path} (hp : p ∈ s.inputs) : p.IsText := by
  cases source with
  | none =>
    cases h
    exact isText_of_mem_inputs_default hp
  | some path =>
    rw [loadFrom, loadFile] at h
    split at h
    · cases h
    split at h
    · next settings hread =>
      cases h
      obtain ⟨entries, -, hentries⟩ := Option.bind_eq_some_iff.1 hread
      exact isText_of_mem_inputs_of_ofEntries? hentries hp
    · cases h

end Settings

/-- What a command writes, to the output or to the file that is named for it. -/
def Outcome.written? (o : Outcome) (output : Option Path) : Option String :=
  match output with
  | none => some o.output
  | some p => (o.files.readText p).toOption

namespace CommandLine

variable {t : FileTree} {c : Circumstances} {a : ScanArguments} {selection : Selection}

/-- The code as the files, the settings and the time decide it. -/
def verdict [Regex.SizeLimit] (t : FileTree) (c : Circumstances) (a : ScanArguments) : Nat :=
  match prepare t c a with
  | .error _ => 2
  | .ok (_, settings, _) =>
    match Report.ofScan t settings c.now with
    | .error _ => 2
    | .ok r => if r.hasViolations then 1 else 0

theorem verdict_le [Regex.SizeLimit] (t : FileTree) (c : Circumstances) (a : ScanArguments) :
    verdict t c a ≤ 2 := by
  rw [verdict]
  split
  · exact Nat.le_refl 2
  split
  · exact Nat.le_refl 2
  · split <;> omega

/-- The settings of a scan have texts for inputs when the files that are given are texts. -/
theorem isText_of_mem_inputs_of_prepare {source : Option Path} {s : Settings} {filter : Log.Filter}
    (hfiles : ∀ p ∈ a.files, p.IsText) (h : prepare t c a = .ok (source, s, filter)) :
    ∀ p ∈ s.inputs, p.IsText := by
  rw [prepare, prepareFrom] at h
  cases hload : Settings.loadFrom t (Settings.source? t a.config) with
  | error e =>
    rw [hload] at h
    cases h
  | ok loaded =>
    cases hfilter : logFilter c.logFilter (a.applyTo loaded) with
    | error e =>
      simp only [hload, hfilter, Except.mapError, bind, Except.bind] at h
      cases h
    | ok shown =>
      simp only [hload, hfilter, Except.mapError, bind, Except.bind] at h
      cases h
      intro p hp
      rw [ScanArguments.applyTo] at hp
      dsimp only at hp
      split at hp
      · exact Settings.isText_of_mem_inputs hload hp
      · exact hfiles p hp

/-- A report whose paths are texts is delivered wherever a file can be written. -/
theorem exists_deliver {r : Report} (htexts : r.HasTextPaths)
    (houtput : ∀ p ∈ a.output, t.Writable p) (log : List Log.Entry) :
    ∃ text outcome, r.written selection a.format = .ok text ∧
      deliver t r selection a log = .ok outcome ∧ outcome.written? a.output = some text := by
  have hwritten : ∃ text, r.written selection a.format = .ok text := by
    cases a.format with
    | text => exact ⟨_, rfl⟩
    | table => exact ⟨_, rfl⟩
    | json =>
      obtain ⟨text, htext⟩ := Option.isSome_iff_exists.1 (Report.isSome_jsonText? htexts)
      exact ⟨text, by rw [Report.written, htext]⟩
  obtain ⟨text, hwritten⟩ := hwritten
  refine ⟨text, ?_⟩
  rw [deliver, hwritten]
  cases ha : a.output with
  | none => exact ⟨_, rfl, rfl, rfl⟩
  | some p =>
    obtain ⟨t', hwrite, hread⟩ := (houtput p ha).exists_writeText text
    let outcome : Outcome := ⟨if r.hasViolations then 1 else 0, "",
      "Report written to " ++ p.display ++ "\n", log, t'⟩
    refine ⟨outcome, rfl, ?_, ?_⟩
    · simp only [Report.save, hwrite, Except.mapError, bind, Except.bind]
      rfl
    · rw [Outcome.written?, hread]
      rfl

/-- How a scan is reported does not matter for its code. A check that is written as text, and that
gets as far as a report, writes nothing exactly when its code is 0. -/
theorem scan_spec [Regex.SizeLimit] (hnames : t.HasTextNames) (hfiles : ∀ p ∈ a.files, p.IsText)
    (houtput : ∀ p ∈ a.output, t.Writable p) :
    (scan t c selection a).code = verdict t c a ∧
      (selection = .violations → a.format = .text → verdict t c a ≠ 2 →
        ∃ text, (scan t c selection a).written? a.output = some text ∧
          (text = "" ↔ verdict t c a = 0)) := by
  rw [verdict]
  cases hprepare : prepare t c a with
  | error f =>
    have hscan : scan t c selection a = .failed t f.message [] := by
      rw [prepare] at hprepare
      rw [scan, scanFrom, hprepare]
    rw [hscan]
    exact ⟨rfl, fun _ _ h => absurd rfl h⟩
  | ok prepared =>
    obtain ⟨source, s, filter⟩ := prepared
    dsimp only
    cases hreport : Report.ofScan t s c.now with
    | error f =>
      rw [scan_eq_of_failure hprepare hreport]
      exact ⟨rfl, fun _ _ h => absurd rfl h⟩
    | ok r =>
      dsimp only
      have hinputs := isText_of_mem_inputs_of_prepare hfiles hprepare
      have htexts := Report.hasTextPaths_of_ofScan hnames hinputs hreport
      obtain ⟨text, outcome, hwritten, hdeliver, htext⟩ :=
        @exists_deliver t a selection r htexts houtput (shownEntries filter t source s c.now)
      have hscan : scan t c selection a = outcome := by
        rw [scan_eq_of_report hprepare hreport, hdeliver]
      rw [hscan]
      refine ⟨code_of_deliver hdeliver, fun hselection hformat _ => ⟨text, htext, ?_⟩⟩
      rw [hformat] at hwritten
      cases hwritten
      obtain ⟨m, scanner, files, scanned, -, -, rfl⟩ := Report.exists_of_ofScan hreport
      have hviolations := Report.hasViolations_ofFindings
        (Policy.findings ⟨c.now, s.strict⟩ scanned) s.inputs scanned.length c.now
      rw [Report.text_eq_empty_iff, hselection]
      split
      · next h => simpa using hviolations.1 h
      · next h => simpa using not_not.1 (mt hviolations.2 h)

/-- The command that reports a selection of the notes. -/
def scanCommand : Selection → ScanArguments → Command
  | .violations => .check
  | .all => .list

variable {environment : Environment} {arguments : List String}

theorem run_eq_scan [Regex.SizeLimit]
    (h : command c.environment arguments = .ok (scanCommand selection a)) :
    run t c arguments = scan t c selection a := by
  rw [run, h]
  cases selection <;> rfl

theorem exists_scanArguments_of_command
    (h : command environment arguments = .ok (scanCommand selection a)) :
    ∃ g, a = scanArguments g := by
  have hscan {make : ScanArguments → Command} {rest : List String}
      (h : ((given Parameter.ofScan environment rest).map scanArguments).map make =
        .ok (scanCommand selection a)) : ∃ g, scanCommand selection a = make (scanArguments g) := by
    cases hgiven : given Parameter.ofScan environment rest with
    | error e =>
      rw [hgiven] at h
      cases h
    | ok g =>
      rw [hgiven] at h
      exact ⟨g, (Except.ok.inj h).symm⟩
  rw [command.eq_def] at h
  dsimp only at h
  split at h
  · cases h
  · obtain ⟨g, h⟩ := hscan h
    cases selection <;> cases h
    exact ⟨g, rfl⟩
  · obtain ⟨g, h⟩ := hscan h
    cases selection <;> cases h
    exact ⟨g, rfl⟩
  · next rest =>
    cases hgiven : given Parameter.ofInit environment rest with
    | error e =>
      rw [hgiven] at h
      cases h
    | ok g =>
      rw [hgiven] at h
      cases selection <;> cases h
  all_goals cases h

/-- The files that are given on a command line are texts. -/
theorem isText_of_mem_files (h : command environment arguments = .ok (scanCommand selection a)) :
    ∀ p ∈ a.files, p.IsText := by
  obtain ⟨g, rfl⟩ := exists_scanArguments_of_command h
  intro p hp
  obtain ⟨name, -, rfl⟩ := List.mem_map.1 hp
  exact Path.isText_ofString name

/-- Commands that scan for the same notes end with the same code, 0, 1 or 2, whether they check or
list, in whatever format, and whether they write to the output or to a file that can be written. A
check that is written as text writes nothing exactly when its code is 0, unless it is 2. -/
theorem run_code_of_reporting [Regex.SizeLimit] (hnames : t.HasTextNames) (c : Circumstances)
    {a : ScanArguments} {environment environment' : Environment}
    {arguments arguments' : List String} {selection selection' : Selection}
    {format format' : ReportFormat} {output output' : Option Path}
    (h : command environment arguments =
      .ok (scanCommand selection { a with format := format, output := output }))
    (h' : command environment' arguments' =
      .ok (scanCommand selection' { a with format := format', output := output' }))
    (houtput : ∀ p ∈ output, t.Writable p) (houtput' : ∀ p ∈ output', t.Writable p) :
    let outcome := run t { c with environment := environment } arguments
    let outcome' := run t { c with environment := environment' } arguments'
    outcome.code = outcome'.code ∧ outcome.code ≤ 2 ∧
      (selection = .violations → format = .text → outcome.code ≠ 2 →
        ∃ text, outcome.written? output = some text ∧ (text = "" ↔ outcome.code = 0)) := by
  intro outcome outcome'
  have hfiles : ∀ p ∈ a.files, p.IsText :=
    @isText_of_mem_files { a with format := format, output := output } _ _ _ h
  -- Neither the format nor the output has a part in the verdict.
  obtain ⟨hcode, htext⟩ := @scan_spec t { c with environment := environment }
    { a with format := format, output := output } selection _ hnames hfiles houtput
  obtain ⟨hcode', -⟩ := @scan_spec t { c with environment := environment' }
    { a with format := format', output := output' } selection' _ hnames hfiles houtput'
  have hrun : outcome = _ := run_eq_scan h
  have hrun' : outcome' = _ := run_eq_scan h'
  rw [hrun, hrun', hcode, hcode']
  exact ⟨rfl, verdict_le t _ _, htext⟩

/-- A check that writes a text and a list that the environment asks to write to a file as JSON. Both
get as far as a report. -/
theorem run_code_of_reporting_to_file :
    let t : FileTree :=
      { root := [("a.rs".toUTF8.data.toList, .file "// TODO[2020-01-31] old\n".toUTF8)]
        here := []
        home := none }
    let c : Circumstances := ⟨[], none, ⟨1700000000, 0⟩⟩
    let environment := [("OVERDUE_FORMAT", "json"), ("OVERDUE_OUTPUT", "report.json")]
    let checked := run t c ["check", "a.rs"]
    let listed := run t { c with environment := environment } ["list", "a.rs"]
    checked.code = listed.code ∧ checked.code < 2 ∧ (checked.output = "" ↔ checked.code = 0) := by
  intro t c environment checked listed
  have hnames : t.HasTextNames := by
    intro names node h
    cases h with
    | here h =>
      cases List.mem_singleton.1 h
      decide
    | through h _ => cases List.mem_singleton.1 h
  have hplace : t.place (Path.ofString "report.json") =
      .ok (.free [] (Path.ofString "report.json").bytes) := by cbv
  let a : ScanArguments := scanArguments [(.files, ["a.rs"])]
  have hcheck : command [] ["check", "a.rs"] =
      .ok (scanCommand .violations { a with format := .text, output := none }) := by rfl
  have hlist : command environment ["list", "a.rs"] =
      .ok (scanCommand .all
        { a with format := .json, output := some (Path.ofString "report.json") }) := by rfl
  obtain ⟨hcode, -, htext⟩ := run_code_of_reporting hnames c hcheck hlist (by simp)
    (by simpa using .new hplace rfl)
  -- The file is read with the default settings.
  let s : Settings := { Settings.default with inputs := [Path.ofString "a.rs"] }
  let scanner : Scanner := ⟨true, [], Settings.default.ignoredDirs, true⟩
  have hprepare : ∃ filter, prepare t c a = .ok (none, s, filter) := ⟨_, by cbv⟩
  have hstyle : s.style.compile.toOption.isSome := by decide +kernel
  have hf : scanner.collect t s.inputs = .ok [Path.ofString "a.rs"] := by cbv
  have hlt : checked.code < 2 := by
    cases hm : s.style.compile with
    | error e =>
      rw [hm] at hstyle
      cases hstyle
    | ok m =>
      obtain ⟨filter, hprepare⟩ := hprepare
      obtain ⟨r, hr, -⟩ := Report.exists_ofScan hm rfl hf c.now (by decide +kernel)
      have hscan : checked.code = verdict t c a :=
        (congrArg Outcome.code (run_eq_scan hcheck)).trans
          (scan_spec hnames (isText_of_mem_files hcheck) (by simp)).1
      rw [hscan, verdict, hprepare]
      dsimp only
      rw [hr]
      dsimp only
      split <;> decide
  obtain ⟨text, hwritten, hempty⟩ := htext rfl rfl (Nat.ne_of_lt hlt)
  cases hwritten
  exact ⟨hcode, hlt, hempty⟩

end CommandLine

end Lapse
