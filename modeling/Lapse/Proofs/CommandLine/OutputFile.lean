import Lapse.Proofs.CommandLine.ExitCode
import Lapse.Proofs.FileTree.Write

/-!
# What a scan changes

A command that fails leaves all files as they were. A scan that ends with a report writes the whole
report, to the output or to the one file that is named for it, and changes nothing else.
-/
namespace Lapse.CommandLine

variable {t : FileTree} {c : Circumstances} {selection : Selection} {a : ScanArguments}

/-- The report goes to the output and the files are as they were, or it goes to the file that is
named for it and nothing else changes. -/
def Delivers (t : FileTree) (a : ScanArguments) (text : String) (o : Outcome) : Prop :=
  match a.output with
  | none => o.files = t ∧ o.output = text
  | some p => t.OnlyWrites o.files p text.toUTF8

/-- An end of a scan with a report of the files as they were before. -/
def EndsWithReport [Regex.SizeLimit] (t : FileTree) (c : Circumstances) (selection : Selection)
    (a : ScanArguments) (o : Outcome) : Prop :=
  ∃ source s filter r text, prepare t c a = .ok (source, s, filter) ∧
    Report.ofScan t s c.now = .ok r ∧ r.written selection a.format = .ok text ∧
    o.code = (if r.hasViolations then 1 else 0) ∧ Delivers t a text o

/-- A report that is delivered is written in full. -/
theorem exists_of_deliver {r : Report} {log : List Log.Entry} {o : Outcome}
    (h : deliver t r selection a log = .ok o) :
    ∃ text, r.written selection a.format = .ok text ∧ Delivers t a text o := by
  rw [deliver] at h
  cases hwritten : r.written selection a.format with
  | error e =>
    rw [hwritten] at h
    cases h
  | ok text =>
    rw [hwritten] at h
    refine ⟨text, rfl, ?_⟩
    rw [Delivers]
    cases ha : a.output with
    | none =>
      simp only [ha, bind, Except.bind] at h
      cases h
      exact ⟨rfl, rfl⟩
    | some p =>
      cases hwrite : t.write p text.toUTF8 with
      | error e =>
        simp only [ha, Report.save, FileTree.writeText, hwrite, Except.mapError, bind,
          Except.bind] at h
        cases h
      | ok files =>
        simp only [ha, Report.save, FileTree.writeText, hwrite, Except.mapError, bind,
          Except.bind] at h
        cases h
        exact FileTree.onlyWrites_of_write hwrite

/-- A scan fails and leaves the files as they were, or it ends with a report. -/
theorem scan_fails_or_reports [Regex.SizeLimit] (t : FileTree) (c : Circumstances)
    (selection : Selection) (a : ScanArguments) :
    ((scan t c selection a).code = 2 ∧ (scan t c selection a).files = t) ∨
      EndsWithReport t c selection a (scan t c selection a) := by
  cases hprepare : prepare t c a with
  | error f =>
    rw [prepare] at hprepare
    rw [scan, scanFrom, hprepare]
    exact .inl ⟨rfl, rfl⟩
  | ok prepared =>
    obtain ⟨source, s, filter⟩ := prepared
    cases hreport : Report.ofScan t s c.now with
    | error f =>
      rw [scan_eq_of_failure hprepare hreport]
      exact .inl ⟨rfl, rfl⟩
    | ok r =>
      rw [scan_eq_of_report hprepare hreport]
      cases hdeliver : deliver t r selection a (shownEntries filter t source s c.now) with
      | error e => exact .inl ⟨rfl, rfl⟩
      | ok o =>
        obtain ⟨text, hwritten, hdelivers⟩ := exists_of_deliver hdeliver
        exact .inr ⟨source, s, filter, r, text, hprepare, hreport, hwritten,
          code_of_deliver hdeliver, hdelivers⟩

theorem EndsWithReport.code_ne [Regex.SizeLimit] {o : Outcome}
    (h : EndsWithReport t c selection a o) : o.code ≠ 2 := by
  obtain ⟨_, _, _, r, _, -, -, -, hcode, -⟩ := h
  rw [hcode]
  cases r.hasViolations <;> decide

theorem files_init_of_code (p : Path) (force : Bool) (h : (init t p force).code = 2) :
    (init t p force).files = t := by
  rw [init] at h ⊢
  split
  · rfl
  · next hfree =>
    rw [if_neg hfree] at h
    split at h
    · cases h
    · rfl

theorem files_refuse (t : FileTree) (e : UsageError) : (refuse t e).files = t := by
  cases e <;> rfl

/-- A command that ends with code 2 leaves all files as they were, and so does a command line that
asks for no command. A check or a list that ends with another code has written its whole report,
and has changed at most the file that is named for it. -/
theorem run_changes_only_output [Regex.SizeLimit] (t : FileTree) (c : Circumstances)
    (arguments : List String) :
    let outcome := run t c arguments
    (outcome.code = 2 → outcome.files = t) ∧
    (∀ e, command c.environment arguments = .error e → outcome.files = t) ∧
    ∀ selection a, command c.environment arguments = .ok (scanCommand selection a) →
      outcome.code ≠ 2 → EndsWithReport t c selection a outcome := by
  intro outcome
  have hscan {selection : Selection} {a : ScanArguments}
      (h : command c.environment arguments = .ok (scanCommand selection a)) :
      (outcome.code = 2 ∧ outcome.files = t) ∨ EndsWithReport t c selection a outcome := by
    have hrun : outcome = scan t c selection a := run_eq_scan h
    rw [hrun]
    exact scan_fails_or_reports t c selection a
  have hunchanged {selection : Selection} {a : ScanArguments}
      (h : command c.environment arguments = .ok (scanCommand selection a))
      (hcode : outcome.code = 2) : outcome.files = t :=
    (hscan h).elim And.right fun hends => absurd hcode hends.code_ne
  refine ⟨fun hcode => ?_, fun e h => ?_, fun selection a h hcode => ?_⟩
  · cases h : command c.environment arguments with
    | error e =>
      have hrun : outcome = refuse t e := by
        simp only [outcome, run, h]
      rw [hrun, files_refuse]
    | ok asked =>
      cases asked with
      | check a => exact @hunchanged .violations a h hcode
      | list a => exact @hunchanged .all a h hcode
      | init p force =>
        have hrun : outcome = init t p force := by
          simp only [outcome, run, h]
        rw [hrun] at hcode ⊢
        exact files_init_of_code p force hcode
  · have hrun : outcome = refuse t e := by
      simp only [outcome, run, h]
    rw [hrun, files_refuse]
  · exact (hscan h).resolve_left fun hfails => hcode hfails.1

/-- A check that finds nothing to read and a check that ends with a report. Both are to write to a
file that exists. -/
theorem run_changes_only_output_of_check :
    let t : FileTree :=
      { root := [("a.rs".toUTF8.data.toList, .file "// TODO[2020-01-31] old\n".toUTF8),
          ("report.txt".toUTF8.data.toList, .file "kept".toUTF8)]
        here := []
        home := none }
    let c : Circumstances := ⟨[], none, ⟨1700000000, 0⟩⟩
    let output := Path.ofString "report.txt"
    let failed := run t c ["check", "b.rs", "-o", "report.txt"]
    let checked := run t c ["check", "a.rs", "-o", "report.txt"]
    failed.code = 2 ∧ failed.files.readText output = .ok "kept" ∧
      checked.code ≠ 2 ∧ ∃ text : String, t.OnlyWrites checked.files output text.toUTF8 := by
  intro t c output failed checked
  obtain ⟨hunchanged, -, -⟩ := run_changes_only_output t c ["check", "b.rs", "-o", "report.txt"]
  obtain ⟨-, -, hreport⟩ := run_changes_only_output t c ["check", "a.rs", "-o", "report.txt"]
  have hfailed : failed.code = 2 := by decide +kernel
  let a : ScanArguments := scanArguments [(.files, ["a.rs"]), (.output, ["report.txt"])]
  have hcheck : command [] ["check", "a.rs", "-o", "report.txt"] =
      .ok (scanCommand .violations a) := by rfl
  have hplace : t.place output = .ok (.taken [output.bytes] (.file "kept".toUTF8)) := by cbv
  have hwritable : ∀ p ∈ a.output, t.Writable p := by
    intro p hp
    cases hp
    exact .old hplace
  have hnames : t.HasTextNames := by
    intro names node h
    cases h with
    | here h =>
      rcases List.mem_cons.1 h with h | h
      · cases h
        decide
      · cases List.mem_singleton.1 h
        decide
    | through h _ =>
      rcases List.mem_cons.1 h with h | h
      · cases h
      · cases List.mem_singleton.1 h
  -- The file is read with the default settings.
  let s : Settings := { Settings.default with inputs := [Path.ofString "a.rs"] }
  let scanner : Scanner := ⟨true, [], Settings.default.ignoredDirs, true⟩
  have hprepare : ∃ filter, prepare t c a = .ok (none, s, filter) := ⟨_, by cbv⟩
  have hstyle : s.style.compile.toOption.isSome := by decide +kernel
  have hfiles : scanner.collect t s.inputs = .ok [Path.ofString "a.rs"] := by cbv
  have hchecked : checked.code ≠ 2 := by
    cases hm : s.style.compile with
    | error e =>
      rw [hm] at hstyle
      cases hstyle
    | ok m =>
      obtain ⟨filter, hprepare⟩ := hprepare
      obtain ⟨r, hr, -⟩ := Report.exists_ofScan hm rfl hfiles c.now (by decide +kernel)
      have hcode : checked.code = verdict t c a :=
        (congrArg Outcome.code (run_eq_scan hcheck)).trans
          (scan_spec hnames (isText_of_mem_files hcheck) hwritable).1
      rw [hcode, verdict, hprepare]
      dsimp only
      rw [hr]
      dsimp only
      split <;> decide
  obtain ⟨_, _, _, _, text, -, -, -, -, hdelivers⟩ := hreport .violations a hcheck hchecked
  refine ⟨hfailed, ?_, hchecked, text, hdelivers⟩
  rw [show failed.files = t from hunchanged hfailed]
  cbv

end Lapse.CommandLine
