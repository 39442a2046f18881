import Mathlib
import Lapse.Proofs.Calendar.Age
import Lapse.Proofs.CommentStyle.EmptyWords
import Lapse.Proofs.Matcher.LineByLine
import Lapse.Proofs.Path.Absolute
import Lapse.Proofs.Scan.TextPaths
import Lapse.Proofs.Scan.Verdict
import Lapse.Proofs.Text.Utf8

/-!
# Reports line by line

The text of a report has one line for each finding that is selected, in their order. No part of a
line holds a line feed, as a note is read from one line of a file and a violation is told on one
line, so the lines are got back where the text is split at its line feeds.
-/
namespace Lapse

namespace Text

/-- Lines that are each ended by a mark are got back, and an empty rest behind the last mark. -/
theorem splitAll_flatMap {α : Type} [DecidableEq α] {mark : α} {lines : List (List α)}
    (h : ∀ line ∈ lines, mark ∉ line) :
    splitAll mark (lines.flatMap fun line => line ++ [mark]) = lines ++ [[]] := by
  induction lines with
  | nil => rfl
  | cons line lines ih =>
    obtain ⟨hline, hlines⟩ := List.forall_mem_cons.1 h
    rw [List.flatMap_cons, List.append_assoc, List.singleton_append, splitAll_append_cons,
      splitAll_of_not_mem hline, ih hlines]
    rfl

theorem count_flatMap {α : Type} [DecidableEq α] {mark : α} {lines : List (List α)}
    (h : ∀ line ∈ lines, mark ∉ line) :
    (lines.flatMap fun line => line ++ [mark]).count mark = lines.length := by
  induction lines with
  | nil => rfl
  | cons line lines ih =>
    obtain ⟨hline, hlines⟩ := List.forall_mem_cons.1 h
    rw [List.flatMap_cons, List.count_append, List.count_append, List.count_eq_zero.2 hline,
      ih hlines, List.count_singleton_self, List.length_cons]
    omega

theorem trimEnd_prefix (text : List Char) : trimEnd text <+: text := by
  rw [trimEnd, ← List.reverse_suffix, List.reverse_reverse]
  exact List.dropWhile_suffix isBlank

/-- A text that is not blank has a last character after it is trimmed, which is no blank. -/
theorem exists_getLast?_trimEnd {text : List Char} {c : Char} (hmem : c ∈ text)
    (hc : ¬ isBlank c) : ∃ last, (trimEnd text).getLast? = some last ∧ ¬ isBlank last := by
  have hne : text.reverse.dropWhile isBlank ≠ [] := fun h =>
    hc (List.dropWhile_eq_nil_iff.1 h c (List.mem_reverse.2 hmem))
  refine ⟨(text.reverse.dropWhile isBlank).head hne, ?_, ?_⟩
  · rw [trimEnd, List.getLast?_reverse, List.head?_eq_some_head]
  · simp [List.head_dropWhile_not isBlank hne]

theorem not_mem_of_isInfix {part line : List Char} (h : part <:+: line) (hline : '\n' ∉ line) :
    '\n' ∉ part := fun hmem => hline (h.subset hmem)

theorem not_mem_of_isDigit {text : List Char} (h : ∀ c ∈ text, c.isDigit) : '\n' ∉ text :=
  fun hmem => absurd (h _ hmem) (by decide)

theorem not_mem_toDigits (n : Nat) : '\n' ∉ Nat.toDigits 10 n :=
  not_mem_of_isDigit fun _ => Nat.isDigit_of_mem_toDigits (by decide) (by decide)

theorem not_mem_intercalate {α : Type} {a : α} {mark : List α} {parts : List (List α)}
    (hmark : a ∉ mark) (h : ∀ part ∈ parts, a ∉ part) : a ∉ mark.intercalate parts := by
  induction parts with
  | nil => simp
  | cons part parts ih =>
    obtain ⟨hpart, hparts⟩ := List.forall_mem_cons.1 h
    cases parts with
    | nil => simpa using hpart
    | cons next parts =>
      rw [List.intercalate_cons_cons, List.mem_append, List.mem_append]
      exact not_or.2 ⟨not_or.2 ⟨hpart, hmark⟩, ih hparts⟩

end Text

namespace Calendar

theorem Date.not_mem_text (d : Date) : '\n' ∉ d.text.toList := by
  have hpadded (width n : Nat) : '\n' ∉ (padded width n).toList :=
    Text.not_mem_of_isDigit fun _ => isDigit_of_mem_padded
  have hyear : '\n' ∉ (yearText d.year).toList := by
    rw [yearText]
    split
    · simp [hpadded]
    split
    · simp [hpadded]
    · exact hpadded _ _
  simp [text, fieldsText, hpadded, hyear]

theorem Age.not_mem_text (total : Nat) : '\n' ∉ (text total).toList := by
  rw [text_eq, String.toList_intercalate, List.map_map]
  refine Text.not_mem_intercalate (by decide) fun word hword hmem => ?_
  obtain ⟨⟨u, count⟩, -, rfl⟩ := List.mem_map.1 hword
  exact (counted_isWord u count).2 _ hmem (by decide)

end Calendar

theorem Path.not_mem_display {p : Path} (h : Text.Utf8.feed ∉ p.bytes) :
    '\n' ∉ p.display.toList :=
  Text.Utf8.not_mem_decodeLossy (by simpa using h)

theorem Violation.not_mem_message {violation : Violation} {note : Note} {policy : Policy}
    (h : policy.check note = some violation) (htag : '\n' ∉ note.tag.toList) :
    '\n' ∉ violation.message.toList := by
  have hcases : violation = .missingExpiry note.tag ∨ ∃ age, violation = .overdue note.tag age := by
    rw [Policy.check] at h
    split at h
    · split at h
      · exact .inl (Option.some.inj h).symm
      · cases h
    · split at h
      · exact .inr ⟨_, (Option.some.inj h).symm⟩
      · cases h
  rcases hcases with rfl | ⟨age, rfl⟩
  · simp [message, htag]
  · simp [message, htag, Calendar.Age.not_mem_text]

namespace Finding

/-- The note is read from a text by a matcher, and the violation is the verdict of a policy on
it. -/
def IsChecked (f : Finding) : Prop :=
  ∃ (m : Matcher) (text : List Char) (policy : Policy), f.note ∈ m.matchLines text ∧
    f.violation = (policy.check f.note).map Violation.message

variable {f : Finding}

/-- Tag and content of a note stand on one line of the text that it is read from. -/
theorem IsChecked.not_mem_note (h : f.IsChecked) :
    '\n' ∉ f.note.tag.toList ∧ '\n' ∉ f.note.content.toList := by
  obtain ⟨m, text, policy, hnote, -⟩ := h
  obtain ⟨line, ⟨hline, -⟩, hmatch⟩ := Matcher.mem_matchLines_iff.1 hnote
  obtain ⟨-, htag, hcontent⟩ := Matcher.isFrom_of_matchLine? hmatch
  exact ⟨Text.not_mem_of_isInfix htag hline, Text.not_mem_of_isInfix hcontent hline⟩

theorem IsChecked.not_mem_description (h : f.IsChecked) : '\n' ∉ f.description.toList := by
  obtain ⟨htag, hcontent⟩ := h.not_mem_note
  obtain ⟨m, text, policy, -, hviolation⟩ := h
  rw [description]
  cases hf : f.violation with
  | some message =>
    obtain ⟨violation, hcheck, rfl⟩ := Option.map_eq_some_iff.1 (hviolation.symm.trans hf)
    exact Violation.not_mem_message hcheck htag
  | none =>
    dsimp only
    rw [String.toList_ofList]
    refine Text.not_mem_of_isInfix (Text.trimEnd_prefix _).isInfix ?_
    cases f.note.expiry with
    | none => simp [htag, hcontent]
    | some date => simp [htag, hcontent, date.not_mem_text]

theorem IsChecked.not_mem_textLine (h : f.IsChecked) (hfile : Text.Utf8.feed ∉ f.file.bytes) :
    '\n' ∉ f.textLine.toList := by
  simp [textLine, Path.not_mem_display hfile, Text.not_mem_toDigits, h.not_mem_description]

/-- The line of a finding that passes ends in a character that is no blank. -/
theorem exists_getLast?_textLine (h : f.violation = none) :
    ∃ last, f.textLine.toList.getLast? = some last ∧ ¬ Text.isBlank last := by
  have hdescription : ∃ last, f.description.toList.getLast? = some last ∧ ¬ Text.isBlank last := by
    rw [description, h]
    dsimp only
    rw [String.toList_ofList]
    exact Text.exists_getLast?_trimEnd (c := '(') (by simp) (by decide)
  obtain ⟨last, hlast, hblank⟩ := hdescription
  refine ⟨last, ?_, hblank⟩
  rw [textLine, String.toList_append, List.getLast?_append, hlast]
  rfl

end Finding

/-- The notes of a file are those of one text. -/
theorem Scan.exists_text_of_mem_notes {m : Matcher} {t : FileTree} {files : List Path}
    {scanned : List (Path × List Note)} (h : notes m t files = .ok scanned)
    {entry : Path × List Note} (hentry : entry ∈ scanned) :
    ∃ text, entry.2 = m.matchLines text := by
  obtain ⟨p, -, hnotes⟩ := exists_notesOf_of_mem_notes h hentry
  rw [notesOf] at hnotes
  split at hnotes
  · cases hnotes
    exact ⟨_, rfl⟩
  · cases hnotes

namespace Report

variable (r : Report)

theorem mem_findings_of_mem_selected {selection : Selection} {f : Finding}
    (h : f ∈ r.selected selection) : f ∈ r.findings := by
  cases selection with
  | violations => exact List.mem_of_mem_filter h
  | all => exact h

theorem toList_text (selection : Selection) :
    (r.text selection).toList =
      ((r.selected selection).map fun f => f.textLine.toList).flatMap (· ++ ['\n']) := by
  rw [text, String.toList_join, List.flatMap_map, List.flatMap_map]
  refine congrArg (List.flatMap · _) (funext fun f => ?_)
  simp

/-- The text of the violations is the text of all findings without the lines of those that pass. -/
theorem text_violations :
    r.text .violations = String.join
      (r.findings.map fun f => if f.violation = none then "" else f.textLine ++ "\n") := by
  rw [text, selected, violations]
  induction r.findings with
  | nil => rfl
  | cons f findings ih =>
    rw [List.map_cons, String.join_cons, ← ih]
    cases hf : f.violation with
    | none => simp [Finding.isViolation, hf]
    | some message => simp [Finding.isViolation, hf, String.join_cons]

/-- The text of the violations is that of all findings without the lines of those that pass. When
all findings are checked notes, and no path holds a line feed, the text of what is selected has one
line for each finding, in their order, and splitting it at its line feeds gives these lines back. No
line of a finding that passes ends in a blank. -/
theorem text_line_by_line :
    (r.text .all = String.join (r.findings.map fun f => f.textLine ++ "\n") ∧
      r.text .violations = String.join
        (r.findings.map fun f => if f.violation = none then "" else f.textLine ++ "\n")) ∧
    ((∀ f ∈ r.findings, f.IsChecked ∧ Text.Utf8.feed ∉ f.file.bytes) →
      ∀ selection,
        Text.splitAll '\n' (r.text selection).toList =
          ((r.selected selection).map fun f =>
            (f.file.display ++ ":" ++ toString f.note.line ++ " " ++ f.description).toList) ++
            [[]] ∧
        (r.text selection).toList.count '\n' = (r.selected selection).length ∧
        ∀ f ∈ r.selected selection, f.violation = none →
          ∃ last, f.textLine.toList.getLast? = some last ∧ ¬ Text.isBlank last) := by
  refine ⟨⟨rfl, r.text_violations⟩, fun hfindings selection => ?_⟩
  have hlines : ∀ line ∈ (r.selected selection).map fun f => f.textLine.toList, '\n' ∉ line := by
    intro line hline
    obtain ⟨f, hf, rfl⟩ := List.mem_map.1 hline
    obtain ⟨hchecked, hfile⟩ := hfindings f (r.mem_findings_of_mem_selected hf)
    exact hchecked.not_mem_textLine hfile
  refine ⟨?_, ?_, fun f _ hpasses => Finding.exists_getLast?_textLine hpasses⟩
  · rw [toList_text, Text.splitAll_flatMap hlines]
    rfl
  · rw [toList_text, Text.count_flatMap hlines, List.length_map]

/-- What a scan finds is checked. -/
theorem isChecked_of_ofScan [Regex.SizeLimit] {t : FileTree} {s : Settings} {now : Calendar.Instant}
    {r : Report} (h : ofScan t s now = .ok r) {f : Finding} (hf : f ∈ r.findings) :
    f.IsChecked := by
  obtain ⟨m, scanner, files, scanned, -, hnotes, rfl⟩ := exists_of_ofScan h
  obtain ⟨⟨file, notes⟩, hentry, hfinding⟩ := List.mem_flatMap.1 hf
  obtain ⟨note, hnote, rfl⟩ := List.mem_map.1 hfinding
  obtain ⟨text, rfl⟩ := Scan.exists_text_of_mem_notes hnotes hentry
  exact ⟨m, text, _, hnote, rfl⟩

/-- A file with a violation before a carriage return and a note that passes before blanks. -/
def mixedTree : FileTree :=
  { root := [("a.rs".toUTF8.data.toList,
      .file "// TODO[2020-01-31] old\r\n# FIXME late \u2028 \r".toUTF8)]
    here := []
    home := none }

/-- Default settings without ignore files. -/
def plainSettings : Settings := { Settings.default with useIgnoreFiles := false }

theorem exists_ofScan_mixedTree :
    ∃ r, ofScan mixedTree plainSettings ⟨1700000000, 0⟩ = .ok r ∧
      r.findings.map (·.isViolation) = [true, false] ∧
      ∀ f ∈ r.findings, Text.Utf8.feed ∉ f.file.bytes := by
  let scanner : Scanner := ⟨true, [], Settings.default.ignoredDirs, false⟩
  let files := [Path.ofString "./a.rs"]
  have hsize : Regex.SizeLimit.admits (CommentStyle.defaultRegex ["//", "#", "/*"]
      ["TODO", "FIXME"] "YYYY-MM-DD".toList) = true := by decide +kernel
  obtain ⟨m, hm, -, -, hlayout⟩ := CommentStyle.compile_default (by decide) (by decide)
    CommentStyle.ofText_dashedLayout hsize
  have hf : scanner.collect mixedTree plainSettings.inputs = .ok files := by cbv
  have hreads : files.filter (Scan.reads mixedTree) = files := by decide +kernel
  obtain ⟨r, hr, htells⟩ :=
    exists_ofScan (s := plainSettings) hm rfl hf ⟨1700000000, 0⟩ (by decide +kernel)
  rw [hreads] at htells
  have hlines : Text.numberedLines (Text.Utf8.decodeLossy
      (Scan.contentOf mixedTree (Path.ofString "./a.rs"))).toList =
        [(1, "// TODO[2020-01-31] old".toList), (2, "# FIXME late \u2028 \r".toList)] := by
    decide +kernel
  have hfirst : '\n' ∉ "// TODO[2020-01-31] old".toList := by decide
  have hsecond : '\n' ∉ "# FIXME late \u2028 \r".toList := by decide
  refine ⟨r, hr, ?_, fun f hmem => ?_⟩
  · rw [htells.findings, List.flatMap_singleton, Policy.findingsIn, Scan.notesIn,
      Matcher.matchLines, hlines]
    simp only [List.filterMap_cons, List.filterMap_nil, ByHand.matchLine?_eq_bind hm hfirst,
      ByHand.matchLine?_eq_bind hm hsecond, hlayout]
    decide +kernel
  · rw [htells.findings] at hmem
    obtain ⟨p, hp, hfinding⟩ := List.mem_flatMap.1 hmem
    obtain ⟨note, -, rfl⟩ := List.mem_map.1 hfinding
    dsimp only
    rw [List.mem_singleton.1 hp]
    decide

/-- The report of a scan that finds a violation and a note that passes. -/
theorem text_line_by_line_of_mixedTree :
    ∃ r, ofScan mixedTree plainSettings ⟨1700000000, 0⟩ = .ok r ∧
      r.findings.map (·.isViolation) = [true, false] ∧
      (∀ f ∈ r.findings, f.IsChecked ∧ Text.Utf8.feed ∉ f.file.bytes) ∧
      (r.text .all).toList.count '\n' = 2 ∧
      Text.splitAll '\n' (r.text .violations).toList =
        (r.violations.map fun f =>
          (f.file.display ++ ":" ++ toString f.note.line ++ " " ++ f.description).toList) ++
          [[]] := by
  obtain ⟨r, hr, hverdicts, hfiles⟩ := exists_ofScan_mixedTree
  have hfindings : ∀ f ∈ r.findings, f.IsChecked ∧ Text.Utf8.feed ∉ f.file.bytes :=
    fun f hf => ⟨isChecked_of_ofScan hr hf, hfiles f hf⟩
  have hlength : r.findings.length = 2 := by
    simpa using congrArg List.length hverdicts
  obtain ⟨-, htext⟩ := r.text_line_by_line
  obtain ⟨-, hcount, -⟩ := htext hfindings .all
  obtain ⟨hsplit, -, -⟩ := htext hfindings .violations
  exact ⟨r, hr, hverdicts, hfindings, hcount.trans hlength, hsplit⟩

end Report

end Lapse
