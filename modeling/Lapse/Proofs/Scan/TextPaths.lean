import Lapse.Proofs.FileTree.Write
import Lapse.Proofs.Report.RoundTrip
import Lapse.Proofs.Scan.Findings
import Lapse.Proofs.Scan.Walk

/-!
# Scans whose paths are texts

Where all names in the tree and all paths that are given are texts, so are all paths in the report.
-/
namespace Lapse

/-- The names of all that is in the tree are texts. -/
def FileTree.HasTextNames (t : FileTree) : Prop :=
  ∀ names node, t.root.Leads names node → ∀ name ∈ names, Path.IsText ⟨name⟩

theorem Path.isText_below {p : Path} (hp : p.IsText) {names : List FileName}
    (hnames : ∀ name ∈ names, Path.IsText ⟨name⟩) : (p.below names).IsText := by
  induction names generalizing p with
  | nil => exact hp
  | cons name names ih =>
    obtain ⟨hname, hnames⟩ := List.forall_mem_cons.1 hnames
    exact ih (isText_join hp hname) hnames

/-- What names lead to in a directory is led to by the names of the directory and them. -/
theorem Entries.leads_of_find? {entries inner : Entries} {front names : List FileName} {node : Node}
    (hfront : find? front entries = some (.dir inner)) (h : inner.Leads names node) :
    entries.Leads (front ++ names) node := by
  induction front generalizing entries with
  | nil =>
    cases hfront
    exact h
  | cons name front ih =>
    by_cases hdir : ∃ below, entries.lookup name = some (.dir below)
    · obtain ⟨below, hlookup⟩ := hdir
      rw [find?_cons_of_lookup hlookup] at hfront
      obtain ⟨before, after, rfl, -⟩ := List.lookup_eq_some_iff.1 hlookup
      exact .through (by simp) (ih hfront)
    · have hnot (below : Entries) : entries.lookup name ≠ some (.dir below) :=
        fun h => hdir ⟨below, h⟩
      rw [find?_cons_of_not_dir hnot] at hfront
      split at hfront
      · exact absurd hfront (hnot inner)
      · cases hfront

theorem FileTree.exists_find?_eq {t : FileTree} {p : Path} {node : Node} (h : t.node p = .ok node) :
    ∃ names, Entries.find? names t.root = some node := by
  rw [FileTree.node, locate] at h
  split at h
  · next names found hplace =>
    cases h
    obtain ⟨start, -, hstart⟩ := place_eq_followLinks hplace
    exact ⟨names, find?_of_followLinks ((hstart t rfl).symm.trans hplace)⟩
  · cases h
  · cases h

namespace Scanner

variable {s : Scanner} {t : FileTree}

mutual

/-- With or without ignore files, a walk finds nothing but files that names lead to. -/
theorem exists_leads_of_mem_walkEntry {around : Option Ignore.Surroundings} {p q : Path}
    {name : FileName} : (node : Node) →
      q ∈ s.walkEntry t around (p.joinName name) name node →
        ∃ names content, Entries.Leads [(name, node)] names (.file content) ∧ q = p.below names
  | .file content, h => by
    rw [walkEntry] at h
    split at h
    · cases h
    · rw [List.mem_singleton.1 h]
      exact ⟨[name], content, .here List.mem_cons_self, rfl⟩
  | .link _, h => by
    rw [walkEntry] at h
    cases h
  | .dir inner, h => by
    rw [walkEntry] at h
    split at h
    · cases h
    · obtain ⟨names, content, hleads, rfl⟩ := exists_leads_of_mem_walkEntries inner h
      exact ⟨name :: names, content, .through List.mem_cons_self hleads, rfl⟩

theorem exists_leads_of_mem_walkEntries {around : Option Ignore.Surroundings} {p q : Path} :
    (entries : Entries) → q ∈ s.walkEntries t around p entries →
      ∃ names content, entries.Leads names (.file content) ∧ q = p.below names
  | [], h => by
    rw [walkEntries] at h
    cases h
  | (name, node) :: entries, h => by
    rw [walkEntries, List.mem_append] at h
    rcases h with h | h
    · obtain ⟨names, content, hleads, rfl⟩ := exists_leads_of_mem_walkEntry node h
      exact ⟨names, content, hleads.mono (by simp), rfl⟩
    · obtain ⟨names, content, hleads, rfl⟩ := exists_leads_of_mem_walkEntries entries h
      exact ⟨names, content, hleads.mono (by simp), rfl⟩

end

theorem exists_walk_eq {p : Path} {entries : Entries} {paths : List Path}
    (h : s.walk t p entries = .ok paths) :
    paths = [] ∨ ∃ around, paths = s.walkEntries t around p entries := by
  rw [walk] at h
  split at h
  · cases h
    exact .inl rfl
  split at h
  · split at h
    · cases h
      exact .inr ⟨_, rfl⟩
    · cases h
  · cases h
    exact .inr ⟨_, rfl⟩

/-- What an input adds is the input or a file below it. -/
theorem eq_or_below_of_mem_expand {p q : Path} {paths : List Path}
    (h : s.expand t p = .ok paths) (hq : q ∈ paths) :
    q = p ∨ ∃ (entries : Entries) (names : List FileName) (content : ByteArray),
      t.node p = .ok (.dir entries) ∧
      entries.Leads names (.file content) ∧ q = p.below names := by
  rw [expand] at h
  split at h
  · cases h
    cases hq
  split at h
  · cases h
  · next entries hnode =>
    split at h
    · rcases exists_walk_eq h with rfl | ⟨around, rfl⟩
      · cases hq
      · obtain ⟨names, content, hleads, rfl⟩ := exists_leads_of_mem_walkEntries entries hq
        exact .inr ⟨entries, names, content, hnode, hleads, rfl⟩
    · cases h
  · cases h
    exact .inl (List.mem_singleton.1 hq)

theorem isText_of_mem_collect (hnames : t.HasTextNames) {inputs files : List Path}
    (hinputs : ∀ p ∈ inputs, p.IsText) (h : s.collect t inputs = .ok files) {q : Path}
    (hq : q ∈ files) : q.IsText := by
  obtain ⟨found, hfound, rfl⟩ := collect_eq_ok h
  obtain ⟨paths, hpaths, hq⟩ :=
    List.mem_flatten.1 (mem_of_mem_keepFirst (List.mem_mergeSort.1 hq))
  obtain ⟨p, hp, hexpand⟩ := exists_of_mem_mapM hfound hpaths
  rcases eq_or_below_of_mem_expand hexpand hq with
    rfl | ⟨entries, names, content, hnode, hleads, rfl⟩
  · exact hinputs q hp
  · obtain ⟨front, hfront⟩ := FileTree.exists_find?_eq hnode
    have hwhole := Entries.leads_of_find? hfront hleads
    exact Path.isText_below (hinputs p hp) fun name hname =>
      hnames _ _ hwhole name (List.mem_append_right front hname)

end Scanner

/-- The notes of a scan are those of one of its files. -/
theorem Scan.exists_notesOf_of_mem_notes {m : Matcher} {t : FileTree} {files : List Path}
    {scanned : List (Path × List Note)} (h : notes m t files = .ok scanned)
    {entry : Path × List Note} (hentry : entry ∈ scanned) :
    ∃ p ∈ files, notesOf m t p = .ok entry := by
  rw [notes] at h
  cases hrun : (files.filter fun p => (skip? t p).isNone).mapM (notesOf m t) with
  | error e =>
    rw [hrun] at h
    cases h
  | ok read =>
    rw [hrun] at h
    cases h
    have hmem := mem_of_mem_keepFirst (List.mem_mergeSort.1 hentry)
    obtain ⟨p, hp, hnotes⟩ := exists_of_mem_mapM hrun hmem
    exact ⟨p, List.mem_of_mem_filter hp, hnotes⟩

theorem Scan.mem_of_mem_notes {m : Matcher} {t : FileTree} {files : List Path}
    {scanned : List (Path × List Note)} (h : notes m t files = .ok scanned)
    {entry : Path × List Note} (hentry : entry ∈ scanned) : entry.1 ∈ files := by
  obtain ⟨p, hp, hnotes⟩ := exists_notesOf_of_mem_notes h hentry
  rw [notesOf] at hnotes
  split at hnotes
  · cases hnotes
    exact hp
  · cases hnotes

namespace Report

variable {t : FileTree} {s : Settings} {now : Calendar.Instant} {r : Report}

/-- Every report is made from the findings in files that were collected. -/
theorem exists_of_ofScan [Regex.SizeLimit] (h : ofScan t s now = .ok r) :
    ∃ (m : Matcher) (scanner : Scanner) (files : List Path) (scanned : List (Path × List Note)),
      scanner.collect t s.inputs = .ok files ∧
      Scan.notes m t files = .ok scanned ∧
      r = .ofFindings (Policy.findings ⟨now, s.strict⟩ scanned) s.inputs scanned.length now := by
  rw [ofScan] at h
  cases hm : s.style.compile with
  | error e =>
    rw [hm] at h
    cases h
  | ok m =>
    cases hs : Scanner.ofOptions s.scanOptions with
    | error e =>
      rw [hm, hs] at h
      cases h
    | ok scanner =>
      cases hf : scanner.collect t s.inputs with
      | error e =>
        simp only [hm, hs, hf, Except.mapError, bind, Except.bind] at h
        cases h
      | ok files =>
        cases hn : Scan.notes m t files with
        | error e =>
          simp only [hm, hs, hf, hn, Except.mapError, bind, Except.bind] at h
          cases h
        | ok scanned =>
          simp only [hm, hs, hf, hn, Except.mapError, bind, Except.bind] at h
          cases h
          exact ⟨m, scanner, files, scanned, hf, hn, rfl⟩

theorem hasTextPaths_of_ofScan [Regex.SizeLimit] (hnames : t.HasTextNames)
    (hinputs : ∀ p ∈ s.inputs, p.IsText) (h : ofScan t s now = .ok r) : r.HasTextPaths := by
  obtain ⟨m, scanner, files, scanned, hcollect, hnotes, rfl⟩ := exists_of_ofScan h
  refine ⟨hinputs, fun f hf => ?_⟩
  obtain ⟨entry, hentry, hfinding⟩ := List.mem_flatMap.1 hf
  obtain ⟨note, -, rfl⟩ := List.mem_map.1 hfinding
  exact Scanner.isText_of_mem_collect hnames hinputs hcollect (Scan.mem_of_mem_notes hnotes hentry)

end Report

end Lapse
