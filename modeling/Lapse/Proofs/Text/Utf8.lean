import Mathlib
import Lapse.Text.Utf8

/-!
# Line feeds in bytes

The byte of a line feed belongs to no other character. Where it is missing from some bytes, no line
feed is read from them, whether they are UTF-8 or have to be mended.
-/
namespace Lapse.Text.Utf8

/-- The byte of a line feed. -/
def feed : UInt8 := 10

theorem feed_mem_of_mem_toList {s : String} (h : '\n' ∈ s.toList) :
    feed ∈ s.toByteArray.data.toList := by
  obtain ⟨front, back, e⟩ := List.append_of_mem h
  rw [← String.ofList_toList (s := s), e, String.toByteArray_ofList, List.utf8Encode,
    List.toList_data_toByteArray]
  simp [feed, String.utf8EncodeChar]

theorem ofNat_ne_feed {n : Nat} (h : n ≠ 10) : Char.ofNat n ≠ '\n' := by
  intro e
  have hvalue : (Char.ofNat n).toNat = 10 := congrArg Char.toNat e
  rw [Char.toNat_ofNat] at hvalue
  split at hvalue
  · exact h hvalue
  · cases hvalue

/-- However an unfinished character goes on, it does not become an ASCII character. -/
structure Pending.Wide (p : Pending) : Prop where
  low : 0x80 ≤ p.low
  bits : 2 ≤ p.bits * 64 + (p.low - 0x80)
  last : p.missing = 1 → 0x80 ≤ p.bits * 64 + (p.low - 0x80)

/-- A byte that is no line feed starts another character or a wide one. -/
theorem start_cases {b : Nat} (hb : b ≠ 10) :
    (∃ c, start b = .inl c ∧ c ≠ '\n') ∨ ∃ p, start b = .inr p ∧ p.Wide := by
  rw [start]
  split
  · exact .inl ⟨_, rfl, ofNat_ne_feed hb⟩
  repeat
    split
    · refine .inr ⟨_, rfl, ?_⟩
      constructor <;> dsimp only <;> omega
  exact .inl ⟨_, rfl, by decide⟩

/-- No line feed is read so far, and what is unfinished does not become one. -/
structure Feedless (state : List Char × Option Pending) : Prop where
  done : '\n' ∉ state.1
  pending : ∀ p ∈ state.2, p.Wide

theorem feedless_begin {done : List Char} (h : '\n' ∉ done) {b : Nat} (hb : b ≠ 10) :
    Feedless (match start b with
      | .inl c => (c :: done, none)
      | .inr p => (done, some p)) := by
  rcases start_cases hb with ⟨c, hstart, hc⟩ | ⟨p, hstart, hp⟩
  · rw [hstart]
    exact ⟨by simp [hc.symm, h], by simp⟩
  · rw [hstart]
    exact ⟨h, by simpa using hp⟩

/-- A byte other than a line feed adds no line feed. -/
theorem feedless_step {state : List Char × Option Pending} (h : Feedless state) {byte : UInt8}
    (hbyte : byte ≠ feed) : Feedless (step state byte) := by
  have hb : byte.toNat ≠ 10 := fun e => hbyte (UInt8.toNat_inj.1 e)
  obtain ⟨done, pending⟩ := state
  obtain ⟨hdone, hpending⟩ := h
  cases pending with
  | none => exact feedless_begin hdone hb
  | some p =>
    obtain ⟨hlow, hbits, hlast⟩ := hpending p rfl
    rw [step]
    split
    · next hrange =>
      dsimp only
      split
      · next hone =>
        have hwide := hlast hone
        have hc : Char.ofNat (p.bits * 64 + (byte.toNat - 0x80)) ≠ '\n' :=
          ofNat_ne_feed (by omega)
        exact ⟨by simp [hc.symm, hdone], by simp⟩
      · refine ⟨hdone, fun q hq => ?_⟩
        obtain rfl := Option.some.inj hq
        constructor <;> dsimp only <;> omega
    · have hmended : '\n' ∉ replacement :: done := by
        simpa [replacement] using hdone
      exact feedless_begin hmended hb

theorem feedless_foldl {bytes : List UInt8} (h : feed ∉ bytes)
    {state : List Char × Option Pending} (hstate : Feedless state) :
    Feedless (bytes.foldl step state) := by
  induction bytes generalizing state with
  | nil => exact hstate
  | cons byte bytes ih =>
    rw [List.mem_cons, not_or] at h
    exact ih h.2 (feedless_step hstate (Ne.symm h.1))

theorem not_mem_mend {bytes : List UInt8} (h : feed ∉ bytes) : '\n' ∉ mend bytes := by
  have hall : Feedless (bytes.foldl step ([], none)) := feedless_foldl h ⟨by simp, by simp⟩
  rw [mend]
  generalize bytes.foldl step ([], none) = state at hall
  obtain ⟨done, pending⟩ := state
  cases pending with
  | none => simpa using hall.done
  | some p => simpa [replacement] using hall.done

/-- Bytes without a line feed are read as a text without one. -/
theorem not_mem_decodeLossy {bytes : ByteArray} (h : feed ∉ bytes.data.toList) :
    '\n' ∉ (decodeLossy bytes).toList := by
  rw [decodeLossy]
  cases htext : String.fromUTF8? bytes with
  | none =>
    rw [Option.getD_none, String.toList_ofList]
    exact not_mem_mend h
  | some s =>
    rw [String.fromUTF8?] at htext
    split at htext
    · cases htext
      exact fun hmem => h (feed_mem_of_mem_toList hmem)
    · cases htext

end Lapse.Text.Utf8
