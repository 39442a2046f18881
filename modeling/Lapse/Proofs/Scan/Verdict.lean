import Mathlib
import Lapse.CommandLine.Run
import Lapse.Proofs.Scan.Findings

/-!
# The verdict of a scan

A scan whose files can all be read reports all of their notes and ends with code 1 exactly when one
of them fails. One unreadable file is enough for it to end with code 2 and without a report.
-/
namespace Lapse

open CommandLine

/-- A report tells of all notes in some files, and of nothing else. -/
structure Report.Tells (r : Report) (policy : Policy) (m : Matcher) (t : FileTree)
    (files : List Path) : Prop where
  findings : r.findings = files.flatMap (policy.findingsIn m t)
  ordered : r.findings.Pairwise Finding.Precedes
  filesScanned : r.filesScanned = files.length
  hasViolations : r.hasViolations ↔ policy.Rejects m t files

variable {t : FileTree} {s : Settings} {m : Matcher} {scanner : Scanner} {files : List Path}

theorem Report.ofScan_eq [Regex.SizeLimit] (hm : s.style.compile = .ok m)
    (hs : Scanner.ofOptions s.scanOptions = .ok scanner)
    (hf : scanner.collect t s.inputs = .ok files) (now : Calendar.Instant) :
    Report.ofScan t s now = ((Scan.notes m t files).mapError .reading).map fun scanned =>
      .ofFindings (Policy.findings ⟨now, s.strict⟩ scanned) s.inputs scanned.length now := by
  rw [Report.ofScan, hm, hs]
  simp only [Except.mapError, bind, Except.bind, hf]
  cases Scan.notes m t files <;> rfl

theorem Report.exists_ofScan [Regex.SizeLimit] (hm : s.style.compile = .ok m)
    (hs : Scanner.ofOptions s.scanOptions = .ok scanner)
    (hf : scanner.collect t s.inputs = .ok files) (now : Calendar.Instant)
    (hread : ∀ p ∈ files.filter (Scan.reads t), (t.read p).isOk) :
    ∃ r, Report.ofScan t s now = .ok r ∧
      r.Tells ⟨now, s.strict⟩ m t (files.filter (Scan.reads t)) := by
  have hascends := Scanner.ascending_collect hf
  rw [Report.ofScan_eq hm hs hf, Scan.notes_eq_ok hascends hread]
  refine ⟨_, rfl, ?_⟩
  dsimp only
  rw [Policy.findings_map, List.length_map]
  exact {
    findings := rfl
    ordered := Policy.pairwise_findingsIn _ m (hascends.filter _)
    filesScanned := rfl
    hasViolations := Policy.hasViolations_iff .. }

theorem Report.ofScan_eq_error [Regex.SizeLimit] (hm : s.style.compile = .ok m)
    (hs : Scanner.ofOptions s.scanOptions = .ok scanner)
    (hf : scanner.collect t s.inputs = .ok files) (now : Calendar.Instant)
    (hread : ∃ p ∈ files.filter (Scan.reads t), ¬ (t.read p).isOk) :
    ∃ p ∈ files.filter (Scan.reads t), ∃ cause, t.read p = .error cause ∧
      Report.ofScan t s now = .error (.reading (.notProcessed p cause)) := by
  obtain ⟨p, hp, cause, hcause, hnotes⟩ := Scan.notes_eq_error (m := m) hread
  refine ⟨p, hp, cause, hcause, ?_⟩
  rw [Report.ofScan_eq hm hs hf, hnotes]
  rfl

namespace CommandLine

variable {c : Circumstances} {selection : Selection} {a : ScanArguments} {source : Option Path}
  {filter : Log.Filter}

theorem code_of_deliver {r : Report} {log : List Log.Entry} {outcome : Outcome}
    (h : deliver t r selection a log = .ok outcome) :
    outcome.code = if r.hasViolations then 1 else 0 := by
  rw [deliver] at h
  cases hwritten : r.written selection a.format with
  | error e =>
    rw [hwritten] at h
    cases h
  | ok text =>
    rw [hwritten] at h
    cases ha : a.output with
    | none =>
      simp only [ha, bind, Except.bind] at h
      cases h
      rfl
    | some p =>
      cases hsave : Report.save t p text with
      | error e =>
        simp only [ha, bind, Except.bind, hsave] at h
        cases h
      | ok tree =>
        simp only [ha, bind, Except.bind, hsave] at h
        cases h
        rfl

theorem scan_eq_of_report [Regex.SizeLimit] (hp : prepare t c a = .ok (source, s, filter))
    {r : Report} (hr : Report.ofScan t s c.now = .ok r) :
    scan t c selection a =
      match deliver t r selection a (shownEntries filter t source s c.now) with
      | .ok outcome => outcome
      | .error e => .failed t (ScanFailure.report e).message
          (shownEntries filter t source s c.now) := by
  rw [prepare] at hp
  cases hd : deliver t r selection a (shownEntries filter t source s c.now) <;>
    simp only [scan, scanFrom, hp, hr, hd]

theorem scan_eq_of_failure [Regex.SizeLimit] (hp : prepare t c a = .ok (source, s, filter))
    {f : ScanFailure} (hr : Report.ofScan t s c.now = .error f) :
    scan t c selection a = .failed t f.message (shownEntries filter t source s c.now) := by
  rw [prepare] at hp
  simp only [scan, scanFrom, hp, hr]

end CommandLine

/-- What a scan does when its style, its exclusions and its inputs are accepted: the files to be
read are in strictly ascending order and pairwise different. If all of them can be read, the report
tells of all their notes, and a command that delivers it ends with code 1 or 0, as some note fails
or none does. If one cannot be read, there is no report, and a command ends with code 2, writes
nothing and changes no file. -/
theorem scan_tells_all_notes [Regex.SizeLimit] (hm : s.style.compile = .ok m)
    (hs : Scanner.ofOptions s.scanOptions = .ok scanner)
    (hf : scanner.collect t s.inputs = .ok files) (c : Circumstances) :
    files.Pairwise (Scanner.Ascends t) ∧
    ((∀ p ∈ files.filter (Scan.reads t), (t.read p).isOk) →
      ∃ r, Report.ofScan t s c.now = .ok r ∧
        r.Tells ⟨c.now, s.strict⟩ m t (files.filter (Scan.reads t)) ∧
        ∀ a selection source filter, prepare t c a = .ok (source, s, filter) →
          let delivered := deliver t r selection a (shownEntries filter t source s c.now)
          let rejected := Policy.Rejects ⟨c.now, s.strict⟩ m t (files.filter (Scan.reads t))
          ((scan t c selection a).code = 0 ↔ delivered.isOk ∧ ¬ rejected) ∧
          ((scan t c selection a).code = 1 ↔ delivered.isOk ∧ rejected)) ∧
    ((∃ p ∈ files.filter (Scan.reads t), ¬ (t.read p).isOk) →
      ∃ p ∈ files.filter (Scan.reads t), ∃ cause, t.read p = .error cause ∧
        Report.ofScan t s c.now = .error (.reading (.notProcessed p cause)) ∧
        ∀ a selection source filter, prepare t c a = .ok (source, s, filter) →
          scan t c selection a = .failed t (ScanFailure.reading (.notProcessed p cause)).message
            (shownEntries filter t source s c.now)) := by
  refine ⟨Scanner.ascending_collect hf, fun hread => ?_, fun hread => ?_⟩
  · obtain ⟨r, hr, htells⟩ := Report.exists_ofScan hm hs hf c.now hread
    refine ⟨r, hr, htells, fun a selection source filter hp => ?_⟩
    rw [scan_eq_of_report hp hr, ← htells.hasViolations]
    cases hd : deliver t r selection a (shownEntries filter t source s c.now) with
    | error e => simp [Outcome.failed, Except.isOk, Except.toBool]
    | ok outcome =>
      simp only [code_of_deliver hd]
      cases r.hasViolations <;> simp [Except.isOk, Except.toBool]
  · obtain ⟨p, hp, cause, hcause, hr⟩ := Report.ofScan_eq_error hm hs hf c.now hread
    exact ⟨p, hp, cause, hcause, hr, fun a selection source filter hprepare =>
      scan_eq_of_failure hprepare hr⟩

/-- A tree with two files to read, one of them below a directory, and one that is binary. -/
theorem scan_tells_notes_of_two_files :
    let t : FileTree :=
      { root := [("a.rs".toUTF8.data.toList, .file "// TODO[2020-01-31] old\n# FIXME\n".toUTF8),
          ("logo.png".toUTF8.data.toList, .file "// TODO no text\n".toUTF8),
          ("sub".toUTF8.data.toList, .dir
            [("b.rs".toUTF8.data.toList, .file "\n  // TODO[2099-01-31] late\n".toUTF8)])]
        here := []
        home := none }
    let s : Settings := { Settings.default with useIgnoreFiles := false }
    let scanner : Scanner := ⟨true, [], Settings.default.ignoredDirs, false⟩
    let files := ["./a.rs", "./logo.png", "./sub/b.rs"].map Path.ofString
    let c : Circumstances := ⟨[], none, ⟨1700000000, 0⟩⟩
    ∃ m, s.style.compile = .ok m ∧ Scanner.ofOptions s.scanOptions = .ok scanner ∧
      scanner.collect t s.inputs = .ok files ∧
      files.filter (Scan.reads t) = ["./a.rs", "./sub/b.rs"].map Path.ofString ∧
      ∃ r, Report.ofScan t s c.now = .ok r ∧
        r.Tells ⟨c.now, s.strict⟩ m t (["./a.rs", "./sub/b.rs"].map Path.ofString) := by
  intro t s scanner files c
  have hstyle : s.style.compile.toOption.isSome := by decide +kernel
  obtain ⟨m, hm⟩ : ∃ m, s.style.compile = .ok m := by
    cases h : s.style.compile with
    | error e =>
      rw [h] at hstyle
      cases hstyle
    | ok m => exact ⟨m, rfl⟩
  have hs : Scanner.ofOptions s.scanOptions = .ok scanner := by rfl
  have hf : scanner.collect t s.inputs = .ok files := by cbv
  have hreads : files.filter (Scan.reads t) = ["./a.rs", "./sub/b.rs"].map Path.ofString := by
    decide +kernel
  obtain ⟨-, htells, -⟩ := scan_tells_all_notes hm hs hf c
  rw [hreads] at htells
  obtain ⟨r, hr, htells, -⟩ := htells (by decide +kernel)
  exact ⟨m, hm, hs, hf, hreads, r, hr, htells⟩

end Lapse
