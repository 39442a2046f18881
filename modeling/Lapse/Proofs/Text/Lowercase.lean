import Mathlib
import Lapse.Proofs.Text.CaseFold
import Lapse.Text.Lowercase

/-!
# ASCII texts as small letters

Of the characters beyond ASCII the Kelvin sign alone has nothing but ASCII for its small letters. So
a text has a given ASCII text without the letter k for its small letters only when it is that text up
to the case of ASCII letters.
-/
namespace Lapse.Text.Lowercase

theorem ofChar_of_ascii {c : Char} (h : c.val < 128) : ofChar c = [c.toLower] := if_pos h

/-- Each small letter of the table is beyond ASCII, but for that of the Kelvin sign, and code points
between the first and the last of a run are characters. -/
theorem runs_wide : ∀ r ∈ runs, (r.first = 0x212a ∧ r.last = 0x212a) ∨
    (128 ≤ r.small ∧ (r.small + (r.last - r.first) < 0xd800 ∨
      (0xe000 ≤ r.small ∧ r.small + (r.last - r.first) < 0x110000))) := by
  decide +kernel

theorem wide_of_run {r : Run} (hr : r ∈ runs) {c : Char} (hcovers : r.covers c.toNat)
    (hkelvin : c ≠ '\u212a') : 128 ≤ (Char.ofNat (r.small + (c.toNat - r.first))).val := by
  simp only [Run.covers, Bool.and_eq_true, decide_eq_true_eq] at hcovers
  obtain ⟨⟨hfirst, hlast⟩, -⟩ := hcovers
  rcases runs_wide r hr with ⟨hone, hend⟩ | ⟨hsmall, hvalid⟩
  · have hcode : c.toNat = 0x212a := by omega
    refine absurd ?_ hkelvin
    rw [← Char.ofNat_toNat c, hcode]
  · have hcode : (Char.ofNat (r.small + (c.toNat - r.first))).toNat =
        r.small + (c.toNat - r.first) := by
      rw [Char.toNat_ofNat, if_pos]
      unfold Nat.isValidChar
      omega
    rw [UInt32.le_iff_toNat_le]
    change 128 ≤ (Char.ofNat (r.small + (c.toNat - r.first))).toNat
    omega

theorem exists_wide_of_ofChar {c : Char} (hc : 128 ≤ c.val) (hkelvin : c ≠ '\u212a') :
    ∃ x ∈ ofChar c, 128 ≤ x.val := by
  rw [ofChar, if_neg (UInt32.not_lt.2 hc)]
  split
  · exact ⟨'\u0307', by simp, by decide⟩
  split
  · next r hrun =>
    refine ⟨_, List.mem_singleton_self _, ?_⟩
    exact wide_of_run (List.mem_of_find?_eq_some hrun)
      (by simpa using List.find?_some hrun) hkelvin
  · exact ⟨c, List.mem_singleton_self c, hc⟩

theorem exists_wide_of_lettersFrom {text : List Char} {c : Char} (hc : c ∈ text)
    (hwide : 128 ≤ c.val) (hkelvin : c ≠ '\u212a') (before : List Char) :
    ∃ x ∈ lettersFrom before text, 128 ≤ x.val := by
  induction text generalizing before with
  | nil => cases hc
  | cons first rest ih =>
    rw [lettersFrom]
    rcases List.mem_cons.1 hc with rfl | hc
    · split
      · refine ⟨sigma before rest, by simp, ?_⟩
        rw [sigma]
        split <;> decide
      · obtain ⟨x, hx, h⟩ := exists_wide_of_ofChar hwide hkelvin
        exact ⟨x, List.mem_append_left _ hx, h⟩
    · obtain ⟨x, hx, h⟩ := ih hc (first :: before)
      exact ⟨x, List.mem_append_right _ hx, h⟩

theorem k_mem_lettersFrom {text : List Char} (h : '\u212a' ∈ text) (before : List Char) :
    'k' ∈ lettersFrom before text := by
  have hkelvin : ofChar '\u212a' = ['k'] := by decide +kernel
  induction text generalizing before with
  | nil => cases h
  | cons first rest ih =>
    rw [lettersFrom]
    rcases List.mem_cons.1 h with rfl | h
    · rw [if_neg (by decide), hkelvin]
      exact List.mem_append_left _ (List.mem_singleton_self _)
    · exact List.mem_append_right _ (ih h _)

theorem lettersFrom_of_ascii {text : List Char} (h : ∀ c ∈ text, c.val < 128)
    (before : List Char) : lettersFrom before text = text.map Char.toLower := by
  induction text generalizing before with
  | nil => rfl
  | cons c rest ih =>
    obtain ⟨hc, hrest⟩ := List.forall_mem_cons.1 h
    have hsigma : c ≠ 'Σ' := by
      rintro rfl
      exact absurd hc (by decide)
    rw [lettersFrom, if_neg hsigma, ofChar_of_ascii hc, ih hrest]
    rfl

/-- A text whose small letters are ASCII and no k is ASCII itself. -/
theorem letters_eq_iff {text word : List Char} (hword : ∀ c ∈ word, c.val < 128 ∧ c ≠ 'k') :
    letters text = word ↔ (∀ c ∈ text, c.val < 128) ∧ text.map Char.toLower = word := by
  constructor
  · rintro rfl
    have hascii : ∀ c ∈ text, c.val < 128 := by
      intro c hc
      by_contra hwide
      have hwide := UInt32.not_lt.1 hwide
      by_cases hkelvin : c = '\u212a'
      · exact (hword 'k' (k_mem_lettersFrom (hkelvin ▸ hc) [])).2 rfl
      · obtain ⟨x, hx, h⟩ := exists_wide_of_lettersFrom hc hwide hkelvin []
        exact absurd (hword x hx).1 (UInt32.not_lt.2 h)
    exact ⟨hascii, (lettersFrom_of_ascii hascii []).symm⟩
  · rintro ⟨hascii, rfl⟩
    exact lettersFrom_of_ascii hascii []

end Lapse.Text.Lowercase
