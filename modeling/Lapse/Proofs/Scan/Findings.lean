import Lapse.Scan.Report
import Lapse.Proofs.Matcher
import Lapse.Proofs.Scan.Files

/-!
# What a scan finds

A scan finds one violation or one passed note for every note of every file that is read, file after
file and line after line. A file that cannot be read leaves no report.
-/
namespace Lapse

section MapM

variable {α β ε : Type} {f : α → Except ε β}

theorem mapM_eq_ok_map {g : α → β} {xs : List α} (h : ∀ x ∈ xs, f x = .ok (g x)) :
    xs.mapM f = .ok (xs.map g) := by
  induction xs with
  | nil => rfl
  | cons x xs ih =>
    rw [List.mapM_cons, h x List.mem_cons_self, ih fun y hy => h y (List.mem_cons_of_mem _ hy)]
    rfl

/-- A run that fails at some member fails with the fault of the first such member. -/
theorem mapM_eq_error {xs : List α} (h : ∃ x ∈ xs, ∃ e, f x = .error e) :
    ∃ x ∈ xs, ∃ e, f x = .error e ∧ xs.mapM f = .error e := by
  induction xs with
  | nil =>
    obtain ⟨x, hx, -⟩ := h
    cases hx
  | cons x xs ih =>
    cases hfirst : f x with
    | error e =>
      refine ⟨x, List.mem_cons_self, e, hfirst, ?_⟩
      rw [List.mapM_cons, hfirst]
      rfl
    | ok b =>
      obtain ⟨y, hy, e, he⟩ := h
      rcases List.mem_cons.1 hy with rfl | hy
      · rw [hfirst] at he
        cases he
      · obtain ⟨z, hz, e, he, hrun⟩ := ih ⟨y, hy, e, he⟩
        refine ⟨z, List.mem_cons_of_mem _ hz, e, he, ?_⟩
        rw [List.mapM_cons, hfirst, hrun]
        rfl

theorem exists_of_mem_mapM {xs : List α} {ys : List β} (h : xs.mapM f = .ok ys) {b : β}
    (hb : b ∈ ys) : ∃ a ∈ xs, f a = .ok b := by
  induction xs generalizing ys with
  | nil =>
    cases h
    cases hb
  | cons x xs ih =>
    rw [List.mapM_cons] at h
    cases hfirst : f x with
    | error e =>
      rw [hfirst] at h
      cases h
    | ok first =>
      cases hrest : xs.mapM f with
      | error e =>
        rw [hfirst, hrest] at h
        cases h
      | ok rest =>
        rw [hfirst, hrest] at h
        cases h
        rcases List.mem_cons.1 hb with rfl | hb
        · exact ⟨x, List.mem_cons_self, hfirst⟩
        · obtain ⟨a, ha, hresult⟩ := ih hrest hb
          exact ⟨a, List.mem_cons_of_mem _ ha, hresult⟩

end MapM

namespace Scan

/-- Whether a file is read, which it is unless its name or its size forbids it. -/
def reads (t : FileTree) (p : Path) : Bool :=
  !isLikelyBinary p && (t.read p).toOption.all fun content => content.size ≤ sizeLimit

theorem isNone_skip? (t : FileTree) (p : Path) : (skip? t p).isNone = reads t p := by
  rw [skip?, reads, FileTree.read]
  cases isLikelyBinary p with
  | true => rfl
  | false =>
    cases h : t.node p with
    | error e => rfl
    | ok node =>
      cases node with
      | link target => rfl
      | dir entries => rfl
      | file content =>
        by_cases hsize : sizeLimit < content.size
        · simp [hsize, bind, Except.bind, Except.toOption]
        · simp [hsize, bind, Except.bind, Except.toOption]; omega

theorem filter_skip? (t : FileTree) (files : List Path) :
    (files.filter fun p => (skip? t p).isNone) = files.filter (reads t) :=
  List.filter_congr fun p _ => isNone_skip? t p

/-- The content of a file, which is empty where it cannot be read. -/
def contentOf (t : FileTree) (p : Path) : ByteArray := (t.read p).toOption.getD .empty

/-- The notes on the lines of a file. -/
def notesIn (m : Matcher) (t : FileTree) (p : Path) : List Note :=
  m.matchLines (Text.Utf8.decodeLossy (contentOf t p)).toList

theorem notesOf_eq_ok {m : Matcher} {t : FileTree} {p : Path} (h : (t.read p).isOk) :
    notesOf m t p = .ok (p, notesIn m t p) := by
  rw [notesOf, notesIn, contentOf]
  cases hread : t.read p with
  | error e =>
    rw [hread] at h
    cases h
  | ok content => rfl

theorem notesOf_eq_error {m : Matcher} {t : FileTree} {p : Path} (h : ¬ (t.read p).isOk) :
    ∃ cause, t.read p = .error cause ∧ notesOf m t p = .error (.notProcessed p cause) := by
  rw [notesOf]
  cases hread : t.read p with
  | error cause => exact ⟨cause, rfl, rfl⟩
  | ok content =>
    rw [hread] at h
    exact absurd rfl h

/-- The notes of files that can be read are those of each, in the order of the files. -/
theorem notes_eq_ok {m : Matcher} {t : FileTree} {files : List Path}
    (hfiles : files.Pairwise (Scanner.Ascends t))
    (hread : ∀ p ∈ files.filter (reads t), (t.read p).isOk) :
    notes m t files = .ok ((files.filter (reads t)).map fun p => (p, notesIn m t p)) := by
  have hascends := hfiles.filter (reads t)
  have hdistinct : ((files.filter (reads t)).map fun p => (p, notesIn m t p)).Pairwise
      fun a b => decide (a.1.Same b.1) = false := by
    refine List.pairwise_map.2 (hascends.imp fun {p q} hpq => decide_eq_false fun hsame => ?_)
    have heq : p.cmp q = .eq := Path.cmp_eq_eq_iff_same.2 hsame
    rw [hpq.1] at heq
    cases heq
  have hsorted : ((files.filter (reads t)).map fun p => (p, notesIn m t p)).Pairwise
      fun a b => Path.le a.1 b.1 := by
    refine List.pairwise_map.2 (hascends.imp fun {p q} hpq => ?_)
    rw [Path.le, hpq.1]
    rfl
  rw [notes, filter_skip?, mapM_eq_ok_map fun p hp => notesOf_eq_ok (hread p hp)]
  show Except.ok ((keepFirst _ _).mergeSort _) = _
  rw [keepFirst_eq_self hdistinct, List.mergeSort_of_pairwise hsorted]

/-- A file that cannot be read, and is not left out, leaves no notes at all. -/
theorem notes_eq_error {m : Matcher} {t : FileTree} {files : List Path}
    (hread : ∃ p ∈ files.filter (reads t), ¬ (t.read p).isOk) :
    ∃ p ∈ files.filter (reads t), ∃ cause, t.read p = .error cause ∧
      notes m t files = .error (.notProcessed p cause) := by
  obtain ⟨p, hp, hbad⟩ := hread
  obtain ⟨cause, -, hnotes⟩ := notesOf_eq_error (m := m) hbad
  obtain ⟨q, hq, e, he, hrun⟩ := mapM_eq_error ⟨p, hp, _, hnotes⟩
  cases hread : t.read q with
  | ok content =>
    rw [notesOf, hread] at he
    cases he
  | error cause =>
    rw [notesOf, hread] at he
    cases he
    refine ⟨q, hq, cause, hread, ?_⟩
    rw [notes, filter_skip?, hrun]
    rfl

end Scan

/-- The findings in a file, one for each note. -/
def Policy.findingsIn (policy : Policy) (m : Matcher) (t : FileTree) (p : Path) : List Finding :=
  (Scan.notesIn m t p).map fun note =>
    { file := p, note, violation := (policy.check note).map Violation.message }

/-- Some note in the files fails. -/
def Policy.Rejects (policy : Policy) (m : Matcher) (t : FileTree) (files : List Path) : Prop :=
  ∃ p ∈ files, ∃ note ∈ Scan.notesIn m t p, (policy.check note).isSome

/-- One finding stands before another by its file, or in the same file by its line. -/
def Finding.Precedes (f g : Finding) : Prop :=
  f.file.cmp g.file = .lt ∨ (f.file = g.file ∧ f.note.line < g.note.line)

theorem Policy.findings_map (policy : Policy) (m : Matcher) (t : FileTree) (files : List Path) :
    policy.findings (files.map fun p => (p, Scan.notesIn m t p)) =
      files.flatMap (policy.findingsIn m t) := by
  rw [findings, List.flatMap_map]
  rfl

theorem Policy.pairwise_findingsIn (policy : Policy) (m : Matcher) {t : FileTree}
    {files : List Path} (hfiles : files.Pairwise (Scanner.Ascends t)) :
    (files.flatMap (policy.findingsIn m t)).Pairwise Finding.Precedes := by
  refine List.pairwise_flatMap.2 ⟨fun p _ => ?_, hfiles.imp fun {p q} hpq f hf g hg => ?_⟩
  · exact List.pairwise_map.2 ((m.pairwise_matchLines _).imp fun h => .inr ⟨rfl, h⟩)
  · obtain ⟨note, -, rfl⟩ := List.mem_map.1 hf
    obtain ⟨other, -, rfl⟩ := List.mem_map.1 hg
    exact .inl hpq.1

/-- A report counts violations exactly when a note fails. -/
theorem Policy.hasViolations_iff (policy : Policy) (m : Matcher) (t : FileTree)
    (files : List Path) (paths : List Path) (n : Nat) (now : Calendar.Instant) :
    (Report.ofFindings (files.flatMap (policy.findingsIn m t)) paths n now).hasViolations ↔
      policy.Rejects m t files := by
  rw [Report.hasViolations, decide_eq_true_iff, Report.ofFindings, List.length_pos_iff_exists_mem]
  constructor
  · rintro ⟨f, hf⟩
    obtain ⟨hmem, hviolation⟩ := List.mem_filter.1 hf
    obtain ⟨p, hp, hfp⟩ := List.mem_flatMap.1 hmem
    obtain ⟨note, hnote, rfl⟩ := List.mem_map.1 hfp
    exact ⟨p, hp, note, hnote, by simpa [Finding.isViolation] using hviolation⟩
  · rintro ⟨p, hp, note, hnote, hfails⟩
    refine ⟨_, List.mem_filter.2
      ⟨List.mem_flatMap.2 ⟨p, hp, List.mem_map.2 ⟨note, hnote, rfl⟩⟩, ?_⟩⟩
    simpa [Finding.isViolation] using hfails

end Lapse
