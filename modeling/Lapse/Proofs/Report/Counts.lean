import Mathlib
import Lapse.Report.Basic

/-!
# Counts of a report

A report counts its findings, the violations among them, and how often each tag occurs. The counts
do not depend on the order of the findings, and when findings are put behind others, the counts of
both are added.
-/
namespace Lapse

namespace TagCounts

variable {counts : TagCounts} {tags : List String} {tag : String}

/-- The count of a tag, which is zero when it is not among them. -/
def countOf (counts : TagCounts) (tag : String) : Nat := (counts.lookup tag).getD 0

/-- Each tag stands once and before those that are greater. -/
def Ascending (counts : TagCounts) : Prop := (counts.map (·.1)).Pairwise (· < ·)

theorem ascending_cons {c : String × Nat} :
    Ascending (c :: counts) ↔ (∀ d ∈ counts, c.1 < d.1) ∧ Ascending counts := by
  simp [Ascending]

theorem countOf_cons_self (tag : String) (n : Nat) (counts : TagCounts) :
    countOf ((tag, n) :: counts) tag = n := by
  simp [countOf]

theorem countOf_cons_of_ne {t : String} (h : t ≠ tag) (n : Nat) (counts : TagCounts) :
    countOf ((t, n) :: counts) tag = counts.countOf tag := by
  simp [countOf, List.lookup_cons, beq_false_of_ne h.symm]

theorem countOf_of_forall_lt (h : ∀ c ∈ counts, tag < c.1) : counts.countOf tag = 0 := by
  have hnone : counts.lookup tag = none :=
    List.lookup_eq_none_iff.2 fun c hc => bne_iff_ne.2 (h c hc).ne
  rw [countOf, hnone]
  rfl

theorem countOf_of_mem (h : counts.Ascending) {n : Nat} (hmem : (tag, n) ∈ counts) :
    counts.countOf tag = n := by
  induction counts with
  | nil => cases hmem
  | cons c counts ih =>
    obtain ⟨hfirst, hrest⟩ := ascending_cons.1 h
    rcases List.mem_cons.1 hmem with rfl | hmem
    · exact countOf_cons_self tag n counts
    · rw [countOf_cons_of_ne (hfirst _ hmem).ne]
      exact ih hrest hmem

/-- After a change to one tag, its count is there once and all others are as they were. -/
theorem mem_adjust (h : counts.Ascending) (f : Nat → Nat) (c : String × Nat) :
    c ∈ counts.adjust tag f ↔
      c = (tag, f (counts.countOf tag)) ∨ c.1 ≠ tag ∧ c ∈ counts := by
  induction counts with
  | nil => simp [adjust, countOf]
  | cons first counts ih =>
    obtain ⟨t, n⟩ := first
    obtain ⟨hfirst, hrest⟩ := ascending_cons.1 h
    rw [adjust]
    by_cases ht : t = tag
    · subst ht
      have hne (hc : c ∈ counts) : c.1 ≠ t := (hfirst c hc).ne'
      rw [if_pos rfl, countOf_cons_self, List.mem_cons, List.mem_cons]
      constructor
      · rintro (hc | hc)
        · exact .inl hc
        · exact .inr ⟨hne hc, .inr hc⟩
      · rintro (hc | ⟨hkey, rfl | hc⟩)
        · exact .inl hc
        · exact absurd rfl hkey
        · exact .inr hc
    rw [if_neg ht]
    split
    · next hlt =>
      have hall : ∀ d ∈ (t, n) :: counts, tag < d.1 :=
        List.forall_mem_cons.2 ⟨hlt, fun d hd => hlt.trans (hfirst d hd)⟩
      rw [countOf_of_forall_lt hall, List.mem_cons]
      exact or_congr_right ⟨fun hc => ⟨(hall c hc).ne', hc⟩, And.right⟩
    · rw [countOf_cons_of_ne ht, List.mem_cons, List.mem_cons, ih hrest]
      constructor
      · rintro (rfl | hc | ⟨hkey, hc⟩)
        · exact .inr ⟨ht, .inl rfl⟩
        · exact .inl hc
        · exact .inr ⟨hkey, .inr hc⟩
      · rintro (hc | ⟨hkey, hc | hc⟩)
        · exact .inr (.inl hc)
        · exact .inl hc
        · exact .inr (.inr ⟨hkey, hc⟩)

theorem ascending_adjust (h : counts.Ascending) (f : Nat → Nat) :
    (counts.adjust tag f).Ascending := by
  induction counts with
  | nil => simp [Ascending, adjust]
  | cons first counts ih =>
    obtain ⟨t, n⟩ := first
    obtain ⟨hfirst, hrest⟩ := ascending_cons.1 h
    rw [adjust]
    by_cases ht : t = tag
    · rw [if_pos ht]
      exact ascending_cons.2 ⟨hfirst, hrest⟩
    rw [if_neg ht]
    split
    · next hlt =>
      refine ascending_cons.2 ⟨List.forall_mem_cons.2 ⟨hlt, fun d hd => ?_⟩, h⟩
      exact hlt.trans (hfirst d hd)
    · next hnot =>
      have hlt : t < tag := lt_of_le_of_ne (le_of_not_gt hnot) ht
      refine ascending_cons.2 ⟨fun d hd => ?_, ih hrest⟩
      rcases (mem_adjust hrest f d).1 hd with rfl | ⟨-, hd⟩
      · exact hlt
      · exact hfirst d hd

theorem sum_adjust (counts : TagCounts) (tag : String) :
    ((counts.adjust tag (· + 1)).map (·.2)).sum = (counts.map (·.2)).sum + 1 := by
  induction counts with
  | nil => rfl
  | cons first counts ih =>
    rw [adjust]
    split
    · simp only [List.map_cons, List.sum_cons]
      omega
    split
    · simp only [List.map_cons, List.sum_cons]
      omega
    · simp only [List.map_cons, List.sum_cons, ih]
      omega

/-- The counts of some tags: the tags that occur in ascending order, each with the number of its
occurrences. -/
structure Tallies (counts : TagCounts) (tags : List String) : Prop where
  ascending : counts.Ascending
  mem_iff (tag : String) (n : Nat) : (tag, n) ∈ counts ↔ 0 < n ∧ n = tags.count tag

namespace Tallies

theorem countOf_eq (h : counts.Tallies tags) (tag : String) :
    counts.countOf tag = tags.count tag := by
  rcases Nat.eq_zero_or_pos (tags.count tag) with hzero | hpos
  · have hnone : counts.lookup tag = none := by
      refine List.lookup_eq_none_iff.2 fun c hc => bne_iff_ne.2 ?_
      rintro rfl
      have hcount := (h.mem_iff c.1 c.2).1 hc
      omega
    rw [countOf, hnone, hzero]
    rfl
  · exact countOf_of_mem h.ascending ((h.mem_iff _ _).2 ⟨hpos, rfl⟩)

/-- One more tag is counted. -/
theorem adjust (h : counts.Tallies tags) (tag : String) :
    (counts.adjust tag (· + 1)).Tallies (tags ++ [tag]) where
  ascending := ascending_adjust h.ascending _
  mem_iff other n := by
    rw [mem_adjust h.ascending, h.mem_iff, h.countOf_eq, List.count_append,
      List.count_singleton]
    by_cases ht : other = tag
    · subst ht
      simp
      omega
    · simp [ht, Ne.symm ht]

theorem ofTags (tags : List String) : (ofTags tags).Tallies tags := by
  induction tags using List.reverseRecOn with
  | nil => exact ⟨.nil, by simpa [TagCounts.ofTags] using fun _ => Nat.ne_of_gt⟩
  | append_singleton tags tag ih =>
    rw [TagCounts.ofTags, List.foldl_append]
    exact ih.adjust tag

/-- There is only one way to write down the counts of some tags. -/
theorem unique {other : TagCounts} (h : counts.Tallies tags) (k : other.Tallies tags) :
    counts = other := by
  have hnodup {counts : TagCounts} (h : counts.Ascending) : counts.Nodup :=
    (List.Pairwise.imp ne_of_lt h).of_map _ fun _ _ h e => h (congrArg _ e)
  have hperm : counts.Perm other :=
    (List.perm_ext_iff_of_nodup (hnodup h.ascending) (hnodup k.ascending)).2 fun c =>
      (h.mem_iff c.1 c.2).trans (k.mem_iff c.1 c.2).symm
  have hfirst : counts.Pairwise fun a b => a.1 < b.1 := List.pairwise_map.1 h.ascending
  have hsecond : other.Pairwise fun a b => a.1 < b.1 := List.pairwise_map.1 k.ascending
  exact hperm.eq_of_pairwise (fun a b _ _ hab hba => absurd hba hab.asymm) hfirst hsecond

theorem of_perm {other : List String} (h : counts.Tallies tags) (hperm : tags.Perm other) :
    counts.Tallies other where
  ascending := h.ascending
  mem_iff tag n := by rw [h.mem_iff, hperm.count_eq]

theorem sum_eq (h : counts.Tallies tags) : (counts.map (·.2)).sum = tags.length := by
  rw [h.unique (ofTags tags)]
  induction tags using List.reverseRecOn generalizing counts with
  | nil => rfl
  | append_singleton tags tag ih =>
    rw [TagCounts.ofTags, List.foldl_append, List.length_append]
    exact (sum_adjust _ tag).trans (congrArg (· + 1) (ih (ofTags tags)))

end Tallies

end TagCounts

namespace Report

/-- The tags of some findings. -/
def tagsOf (findings : List Finding) : List String := findings.map fun f => f.note.tag

theorem byTag_tallies (findings : List Finding) (paths : List Path) (filesScanned : Nat)
    (time : Calendar.Instant) :
    (ofFindings findings paths filesScanned time).byTag.Tallies (tagsOf findings) :=
  .ofTags _

/-- A report keeps the findings it is made from, and its counts are theirs: how many there are, how
many of them are violations, and how many have each tag that occurs. The counts are the same in
every order of the findings, and those of more findings are added. -/
theorem ofFindings_counts (findings : List Finding) (paths : List Path) (filesScanned : Nat)
    (time : Calendar.Instant) :
    let report (findings : List Finding) := ofFindings findings paths filesScanned time
    let r := report findings
    (r.findings = findings ∧ r.violations = findings.filter fun f => f.violation.isSome) ∧
    (r.total = findings.length ∧ r.violationCount = r.violations.length ∧
      (r.hasViolations ↔ ∃ f ∈ findings, f.violation.isSome)) ∧
    (r.byTag.Tallies (tagsOf findings) ∧ (r.byTag.map (·.2)).sum = r.total) ∧
    (∀ other, findings.Perm other →
      (report other).total = r.total ∧ (report other).violationCount = r.violationCount ∧
        (report other).byTag = r.byTag) ∧
    ∀ more, let both := report (findings ++ more)
      both.total = r.total + (report more).total ∧
      both.violationCount = r.violationCount + (report more).violationCount ∧
      ∀ tag, both.byTag.countOf tag = r.byTag.countOf tag + (report more).byTag.countOf tag := by
  intro report r
  have htallies (findings : List Finding) : (report findings).byTag.Tallies (tagsOf findings) :=
    byTag_tallies findings paths filesScanned time
  refine ⟨⟨rfl, rfl⟩, ⟨rfl, rfl, ?_⟩, ⟨htallies findings, ?_⟩, fun other hperm => ?_,
    fun more => ?_⟩
  · rw [hasViolations, decide_eq_true_iff]
    exact List.length_pos_iff_exists_mem.trans (by simp [Finding.isViolation])
  · exact (htallies findings).sum_eq.trans (List.length_map _)
  · refine ⟨hperm.length_eq.symm, (hperm.filter _).length_eq.symm, ?_⟩
    have htags : (tagsOf other).Perm (tagsOf findings) := (hperm.map _).symm
    exact ((htallies other).of_perm htags).unique (htallies findings)
  · refine ⟨List.length_append, ?_, fun tag => ?_⟩
    · exact (congrArg List.length (List.filter_append ..)).trans List.length_append
    · rw [(htallies _).countOf_eq, (htallies _).countOf_eq, (htallies _).countOf_eq, tagsOf,
        List.map_append, List.count_append]
      rfl

/-- Three findings, one of them a violation, in two orders. -/
theorem ofFindings_counts_of_three_findings :
    let note (tag : String) (line : Nat) : Note := ⟨"//", tag, "", none, line, "// " ++ tag⟩
    let file := Path.ofString "a.rs"
    let first : Finding := ⟨file, note "TODO" 1, none⟩
    let second : Finding := ⟨file, note "TODO" 4, some "TODO missing expiry date"⟩
    let third : Finding := ⟨file, note "FIXME" 9, none⟩
    let report (findings : List Finding) := ofFindings findings [file] 1 ⟨0, 0⟩
    [first, second, third].Perm [third, first, second] ∧
      (report [third, first, second]).byTag = [("FIXME", 1), ("TODO", 2)] ∧
      (report [third, first, second]).violationCount = 1 := by
  intro note file first second third report
  have hperm : [first, second, third].Perm [third, first, second] := by decide
  obtain ⟨-, -, -, hsame, -⟩ := ofFindings_counts [first, second, third] [file] 1 ⟨0, 0⟩
  obtain ⟨-, hviolations, htags⟩ := hsame [third, first, second] hperm
  exact ⟨hperm, htags.trans (by decide +kernel), hviolations.trans (by decide +kernel)⟩

end Report

end Lapse
