import Lapse.Scan.Collect
import Lapse.Proofs.Path.Absolute
import Lapse.Proofs.Path.Order

/-!
# The files of a scan

The collected files are in strictly ascending order and no two of them have the same absolute
form, so that removing repetitions and sorting once more changes nothing.
-/
namespace Lapse

section KeepFirst

variable {α : Type} {same : α → α → Bool}

theorem pairwise_keepFirst (xs : List α) :
    (keepFirst same xs).Pairwise fun a b => same a b = false := by
  induction xs with
  | nil => exact .nil
  | cons a xs ih =>
    refine .cons (fun b hb => ?_) (ih.sublist List.filter_sublist)
    simpa using (List.mem_filter.1 hb).2

theorem keepFirst_eq_self {xs : List α} (h : xs.Pairwise fun a b => same a b = false) :
    keepFirst same xs = xs := by
  induction h with
  | nil => rfl
  | cons hfirst _ ih =>
    rw [keepFirst, ih, List.filter_eq_self.2 fun b hb => by simp [hfirst b hb]]

theorem mem_of_mem_keepFirst {xs : List α} {a : α} (h : a ∈ keepFirst same xs) : a ∈ xs := by
  induction xs with
  | nil => exact h
  | cons b xs ih =>
    rcases List.mem_cons.1 h with rfl | h
    · exact List.mem_cons_self
    · exact List.mem_cons_of_mem _ (ih (List.mem_filter.1 h).1)

/-- What is left out is the same as something that is kept. -/
theorem exists_mem_keepFirst (hrefl : ∀ a, same a a)
    (htrans : ∀ a b c, same a b → same b c → same a c) {xs : List α} {a : α} (h : a ∈ xs) :
    ∃ b ∈ keepFirst same xs, same b a := by
  induction xs with
  | nil => cases h
  | cons c xs ih =>
    rcases List.mem_cons.1 h with rfl | h
    · exact ⟨a, List.mem_cons_self, hrefl a⟩
    · obtain ⟨b, hb, hba⟩ := ih h
      by_cases hcb : same c b
      · exact ⟨c, List.mem_cons_self, htrans c b a hcb hba⟩
      · exact ⟨b, List.mem_cons_of_mem _ (List.mem_filter.2 ⟨hb, by simpa using hcb⟩), hba⟩

end KeepFirst

namespace Scanner

theorem sameFile_comm (t : FileTree) (p q : Path) : sameFile t p q = sameFile t q p := by
  rw [sameFile, sameFile, Bool.eq_iff_iff, decide_eq_true_iff, decide_eq_true_iff]
  exact eq_comm

/-- Paths with the same components lead to the same file. -/
theorem sameFile_of_same (t : FileTree) {p q : Path} (h : p.Same q) : sameFile t p q = true :=
  decide_eq_true (t.same_absolute h)

theorem sameFile_refl (t : FileTree) (p : Path) : sameFile t p p = true :=
  decide_eq_true rfl

theorem sameFile_trans (t : FileTree) (p q r : Path) (hpq : sameFile t p q)
    (hqr : sameFile t q r) : sameFile t p r = true :=
  decide_eq_true ((of_decide_eq_true hpq).trans (of_decide_eq_true hqr))

theorem collect_eq_ok {s : Scanner} {t : FileTree} {inputs files : List Path}
    (h : s.collect t inputs = .ok files) :
    ∃ found, inputs.mapM (s.expand t) = .ok found ∧
      files = (keepFirst (sameFile t) found.flatten).mergeSort Path.le := by
  rw [collect] at h
  cases hfound : inputs.mapM (s.expand t) with
  | error e =>
    rw [hfound] at h
    cases h
  | ok found =>
    rw [hfound] at h
    cases h
    exact ⟨found, rfl, rfl⟩

/-- One path comes strictly before another, and they lead to different files. -/
def Ascends (t : FileTree) (p q : Path) : Prop := p.cmp q = .lt ∧ sameFile t p q = false

theorem ascending_collect {s : Scanner} {t : FileTree} {inputs files : List Path}
    (h : s.collect t inputs = .ok files) : files.Pairwise (Ascends t) := by
  obtain ⟨found, -, rfl⟩ := collect_eq_ok h
  have hsorted : ((keepFirst (sameFile t) found.flatten).mergeSort Path.le).Pairwise
      fun p q => Path.le p q :=
    @List.pairwise_mergeSort _ Path.le (fun _ _ _ => Path.le_trans) Path.le_total _
  have hdistinct : ((keepFirst (sameFile t) found.flatten).mergeSort Path.le).Pairwise
      fun p q => sameFile t p q = false :=
    ((List.mergeSort_perm _ _).pairwise_iff fun {p q} hpq => sameFile_comm t p q ▸ hpq).2
      (pairwise_keepFirst _)
  refine (hsorted.and hdistinct).imp fun {p q} hpq => ⟨?_, hpq.2⟩
  refine Path.cmp_eq_lt_of_le hpq.1 fun hsame => ?_
  rw [sameFile_of_same t hsame] at hpq
  exact absurd hpq.2 (by simp)

end Scanner

end Lapse
