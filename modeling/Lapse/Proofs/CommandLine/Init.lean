import Mathlib
import Lapse.Proofs.CommandLine.ExitCode
import Lapse.Proofs.Settings.RoundTrip

/-!
# Writing the default settings

The default settings are written to a path that leads to nothing yet, or by force to one that leads
to a file. Nothing else changes, and a command that fails changes nothing. A scan that takes its
settings from the file is a scan without any file of settings, but for the log entry that names the
file.
-/
namespace Lapse

/-- The second outcome is the first, but if `entry` is shown in front of all other entries of its
log, it has `other` there. -/
def Outcome.AgreesBut (entry other : Log.Entry) (o o' : Outcome) : Prop :=
  ∃ (shown : Bool) (rest : List Log.Entry), o.log = (if shown then entry :: rest else rest) ∧
    o' = { o with log := if shown then other :: rest else rest }

namespace CommandLine

variable {t : FileTree} {c : Circumstances} {selection : Selection} {a : ScanArguments}
  {p : Path} {force : Bool}

theorem exists_scanEntries [Regex.SizeLimit] (t : FileTree) (s : Settings)
    (now : Calendar.Instant) :
    ∃ rest, ∀ source, scanEntries t source s now = sourceEntry source :: rest := by
  simp only [scanEntries]
  cases s.style.compile <;> cases Scanner.ofOptions s.scanOptions <;>
    exact ⟨_, fun source => rfl⟩

/-- Filters look at the level and the target of the entry only, not at the source. -/
theorem exists_shownEntries [Regex.SizeLimit] (f : Log.Filter) (t : FileTree) (s : Settings)
    (now : Calendar.Instant) :
    ∃ (shown : Bool) (rest : List Log.Entry), ∀ source, shownEntries f t source s now =
      if shown then sourceEntry source :: rest else rest := by
  obtain ⟨rest, hrest⟩ := exists_scanEntries t s now
  have hshows (source : Option Path) :
      f.shows (sourceEntry source) = f.shows (sourceEntry none) := rfl
  simp only [shownEntries, hrest, List.filter_cons, hshows]
  by_cases hquiet : f.isQuiet
  · exact ⟨false, [], fun source => by simp [hquiet]⟩
  · exact ⟨f.shows (sourceEntry none), rest.filter f.shows, fun source => by simp [hquiet]⟩

theorem deliver_eq_map (t : FileTree) (r : Report) (selection : Selection) (a : ScanArguments)
    (log : List Log.Entry) :
    deliver t r selection a log =
      (deliver t r selection a []).map fun o => { o with log := log } := by
  rw [deliver, deliver]
  cases r.written selection a.format with
  | error e => rfl
  | ok text =>
    cases a.output with
    | none => rfl
    | some p =>
      dsimp only [bind, Except.bind]
      cases Report.save t p text <;> rfl

/-- Two sources with the same settings have the same scan, but for the entry that names them. -/
theorem scanFrom_agrees [Regex.SizeLimit] {source other : Option Path} {s : Settings}
    (h : Settings.loadFrom t source = .ok s) (hother : Settings.loadFrom t other = .ok s) :
    (scanFrom t c selection a source).AgreesBut (sourceEntry source) (sourceEntry other)
      (scanFrom t c selection a other) := by
  simp only [scanFrom, prepareFrom, h, hother, Except.mapError, bind, Except.bind]
  cases logFilter c.logFilter (a.applyTo s) with
  | error f => exact ⟨false, [], rfl, rfl⟩
  | ok filter =>
    obtain ⟨shown, rest, hlog⟩ := exists_shownEntries filter t (a.applyTo s) c.now
    simp only [pure, Except.pure]
    cases Report.ofScan t (a.applyTo s) c.now with
    | error f => exact ⟨shown, rest, hlog source, by rw [hlog other]; rfl⟩
    | ok r =>
      dsimp only
      rw [deliver_eq_map, deliver_eq_map t r selection a (shownEntries _ _ other _ _)]
      cases deliver t r selection a [] with
      | error e => exact ⟨shown, rest, hlog source, by rw [hlog other]; rfl⟩
      | ok outcome => exact ⟨shown, rest, hlog source, by rw [hlog other]; rfl⟩

theorem readText_congr {q : Path} (h : t.place q = t.place p) : t.readText q = t.readText p := by
  simp only [FileTree.readText, FileTree.read, FileTree.node, FileTree.locate, h]

/-- What is refused or cannot be written fails and leaves the files as they were. What succeeds
writes the default settings and nothing else. -/
theorem init_fails_or_writes (t : FileTree) (p : Path) (force : Bool) :
    (((t.has p ∧ force = false) ∨ ¬ t.Writable p) ∧
      (init t p force).code = 2 ∧ (init t p force).files = t) ∨
    ((force = true ∨ ¬ t.has p) ∧ t.Writable p ∧ (init t p force).code = 0 ∧
      ∃ text, Settings.default.text? = some text ∧ Settings.ofText? text = some .default ∧
        t.OnlyWrites (init t p force).files p text.toUTF8) := by
  obtain ⟨text, htext, hread⟩ :=
    Settings.exists_text fun p hp => Settings.isText_of_mem_inputs_default hp
  rw [init]
  by_cases hrefused : t.has p ∧ !force
  · rw [if_pos hrefused]
    exact .inl ⟨.inl ⟨hrefused.1, by simpa using hrefused.2⟩, rfl, rfl⟩
  · rw [if_neg hrefused]
    have hasked : force = true ∨ ¬ t.has p := by
      cases force <;> simp_all
    cases hwrite : t.write p text.toUTF8 with
    | error e =>
      have hnot : ¬ t.Writable p := fun hwritable => by
        obtain ⟨t', hok, -⟩ := hwritable.exists_onlyWrites text.toUTF8
        rw [hwrite] at hok
        cases hok
      have hsave : Settings.default.save t p = .error (.notWritten p e) := by
        simp only [Settings.save, htext, FileTree.writeText, hwrite, Except.mapError]
      rw [hsave]
      exact .inl ⟨.inr hnot, rfl, rfl⟩
    | ok files =>
      have hsave : Settings.default.save t p = .ok files := by
        simp only [Settings.save, htext, FileTree.writeText, hwrite, Except.mapError]
      rw [hsave]
      exact .inr ⟨hasked, FileTree.writable_of_write hwrite, rfl, text, htext, hread,
        FileTree.onlyWrites_of_write hwrite⟩

/-- Without force nothing that exists is written to. A command that fails leaves all files as they
were; it succeeds exactly where a file can be written. Then the file that the path leads to is
written, or made, and nothing else changes; the settings that are loaded from it, by this or any
other path that leads to it, are the default settings; and a scan that takes its settings from it is
a scan without any file of settings, but for the entry that names the file. Where the search finds
none, that is the scan without the argument that names the file. -/
theorem init_writes_defaults [Regex.SizeLimit] (t : FileTree) (p : Path) (force : Bool) :
    let done := init t p force
    (t.has p → force = false → done.code = 2 ∧ done.files = t) ∧
    (done.code ≠ 0 → done.files = t) ∧
    (done.code = 0 ↔ (force = true ∨ ¬ t.has p) ∧ t.Writable p) ∧
    (done.code = 0 →
      (∃ text, Settings.default.text? = some text ∧ t.OnlyWrites done.files p text.toUTF8) ∧
      ∀ q, done.files.place q = done.files.place p →
        Settings.load done.files (some q) = .ok .default ∧
        ∀ c selection a, Settings.source? done.files a.config = some q →
          (scan done.files c selection a).AgreesBut (sourceEntry (some q)) (sourceEntry none)
            (scanFrom done.files c selection a none) ∧
          (Settings.source? done.files none = none →
            scanFrom done.files c selection a none =
              scan done.files c selection { a with config := none })) := by
  intro done
  rcases init_fails_or_writes t p force with
    ⟨hrefused, hcode, hfiles⟩ | ⟨hasked, hwritable, hcode, text, htext, hread, honly⟩
  · have hne : done.code ≠ 0 := by simp [done, hcode]
    refine ⟨fun _ _ => ⟨hcode, hfiles⟩, fun _ => hfiles, ?_, fun h => absurd h hne⟩
    refine ⟨fun h => absurd h hne, fun ⟨hasked, hwritable⟩ => ?_⟩
    rcases hrefused with ⟨hhas, hforce⟩ | hnot
    · simp [hhas, hforce] at hasked
    · exact absurd hwritable hnot
  · refine ⟨fun hhas hforce => ?_, fun h => absurd hcode h, ?_, fun _ => ⟨⟨text, htext, honly⟩, ?_⟩⟩
    · simp [hhas, hforce] at hasked
    · exact ⟨fun _ => ⟨hasked, hwritable⟩, fun _ => hcode⟩
    · intro q hq
      have hload : Settings.loadFrom done.files (some q) = .ok .default :=
        Settings.loadFrom_of_readText ((readText_congr hq).trans honly.readText) hread
      refine ⟨hload, fun c selection a hsource => ?_⟩
      refine ⟨?_, fun hnone => ?_⟩
      · rw [scan, hsource]
        exact scanFrom_agrees hload rfl
      · rw [scan, hnone]
        rfl

/-- The default settings are written through a link that leads to a file that is not there yet, but
not a second time. With and without them a list is the same. -/
theorem init_writes_defaults_linkedTree :
    let link := Path.ofString "link"
    let file := Path.ofString "settings/new.toml"
    let done := init Settings.linkedTree link false
    let c : Circumstances := ⟨[], none, ⟨1700000000, 0⟩⟩
    let a : ScanArguments := { scanArguments [] with config := some file }
    done.code = 0 ∧ (init done.files link false).code = 2 ∧
      (init done.files link false).files = done.files ∧
      Settings.load done.files (some file) = .ok .default ∧
      (scan done.files c .all a).AgreesBut (sourceEntry (some file)) (sourceEntry none)
        (scan done.files c .all { a with config := none }) := by
  intro link file done c a
  have hplace : Settings.linkedTree.place link =
      .ok (.free [(Path.ofString "settings").bytes] (Path.ofString "new.toml").bytes) := by cbv
  have hdirectory : Entries.find? [(Path.ofString "settings").bytes] Settings.linkedTree.root =
      some (.dir []) := by cbv
  obtain ⟨-, -, hsucceeds, hwrites⟩ := init_writes_defaults Settings.linkedTree link false
  have hcode : done.code = 0 :=
    hsucceeds.2 ⟨.inr (by decide +kernel), .new hplace hdirectory⟩
  obtain ⟨-, hsame⟩ := hwrites hcode
  have hhas : done.files.has link := by decide +kernel
  have hfile : done.files.place file = done.files.place link := by rfl
  have hnone : Settings.source? done.files none = none := by decide +kernel
  obtain ⟨hagain, -⟩ := init_writes_defaults done.files link false
  obtain ⟨hrefused, hunchanged⟩ := hagain hhas rfl
  obtain ⟨hload, hscans⟩ := hsame file hfile
  obtain ⟨hagrees, hscan⟩ := hscans c .all a rfl
  rw [hscan hnone] at hagrees
  exact ⟨hcode, hrefused, hunchanged, hload, hagrees⟩

end CommandLine

end Lapse
