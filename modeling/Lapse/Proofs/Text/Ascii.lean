import Mathlib
import Lapse.Proofs.Text.CaseFold
import Lapse.Path

/-!
# ASCII texts as bytes

An ASCII character is written as one byte. Bytes are compared without regard to the case of ASCII
letters; a byte that stands for no ASCII character is then equal to none but itself.
-/
namespace Lapse.Text.Ascii

/-- The byte of the small letter for that of a capital one, any other byte as it is. -/
def smallByte (b : UInt8) : UInt8 := if 65 ≤ b ∧ b ≤ 90 then b + 32 else b

def EqIgnoringCase (a b : List UInt8) : Prop := a.map smallByte = b.map smallByte

instance (a b : List UInt8) : Decidable (EqIgnoringCase a b) := inferInstanceAs (Decidable (_ = _))

theorem forall_byte {P : UInt8 → Prop} (h : ∀ n < 256, P (UInt8.ofNat n)) (b : UInt8) : P b := by
  have hb := h b.toNat b.toNat_lt
  rwa [UInt8.ofNat_toNat] at hb

theorem toUInt8_lt {c : Char} (h : c.val < 128) : c.toUInt8 < 128 :=
  forall_ascii (P := fun c => c.toUInt8 < 128) (by decide) h

theorem smallByte_toUInt8 {c : Char} (h : c.val < 128) :
    smallByte c.toUInt8 = c.toLower.toUInt8 :=
  forall_ascii (P := fun c => smallByte c.toUInt8 = c.toLower.toUInt8) (by decide) h

theorem toLower_ascii {c : Char} (h : c.val < 128) : c.toLower.val < 128 :=
  forall_ascii (P := fun c => c.toLower.val < 128) (by decide) h

theorem smallByte_lt_iff {b : UInt8} : smallByte b < 128 ↔ b < 128 :=
  forall_byte (P := fun b => smallByte b < 128 ↔ b < 128) (by decide +kernel) b

theorem toUInt8_ofUInt8 (b : UInt8) : (Char.ofUInt8 b).toUInt8 = b := by
  simp [Char.ofUInt8, Char.toUInt8]

theorem ofUInt8_toUInt8 {c : Char} (h : c.val < 128) : Char.ofUInt8 c.toUInt8 = c :=
  forall_ascii (P := fun c => Char.ofUInt8 c.toUInt8 = c) (by decide) h

theorem ofUInt8_ascii {b : UInt8} (h : b < 128) : (Char.ofUInt8 b).val < 128 := by
  rw [UInt32.lt_iff_toNat_lt]
  simpa [Char.ofUInt8] using UInt8.lt_iff_toNat_lt.1 h

theorem utf8EncodeChar_of_ascii {c : Char} (h : c.val < 128) :
    String.utf8EncodeChar c = [c.toUInt8] :=
  forall_ascii (P := fun c => String.utf8EncodeChar c = [c.toUInt8]) (by decide) h

theorem bytes_ofList {text : List Char} (h : ∀ c ∈ text, c.val < 128) :
    (Path.ofString (String.ofList text)).bytes = text.map Char.toUInt8 := by
  rw [Path.ofString, String.toUTF8_eq_toByteArray, String.toByteArray_ofList, List.utf8Encode,
    List.toList_data_toByteArray,
    List.flatMap_congr fun c hc => utf8EncodeChar_of_ascii (h c hc), List.map_eq_flatMap]

theorem bytes_toList {text : String} (h : ∀ c ∈ text.toList, c.val < 128) :
    (Path.ofString text).bytes = text.toList.map Char.toUInt8 := by
  rw [← bytes_ofList h, String.ofList_toList]

theorem exists_text_of_ascii {bytes : List UInt8} (h : ∀ b ∈ bytes, b < 128) :
    ∃ text, (∀ c ∈ text.toList, c.val < 128) ∧ (Path.ofString text).bytes = bytes := by
  have hascii : ∀ c ∈ bytes.map Char.ofUInt8, c.val < 128 := by
    intro c hc
    obtain ⟨b, hb, rfl⟩ := List.mem_map.1 hc
    exact ofUInt8_ascii (h b hb)
  refine ⟨String.ofList (bytes.map Char.ofUInt8), ?_, ?_⟩
  · rwa [String.toList_ofList]
  · rw [bytes_ofList hascii, List.map_map]
    exact List.map_id'' toUInt8_ofUInt8 bytes

theorem ascii_of_bytes {text : String} (h : ∀ b ∈ (Path.ofString text).bytes, b < 128) :
    ∀ c ∈ text.toList, c.val < 128 := by
  obtain ⟨other, hascii, hbytes⟩ := exists_text_of_ascii h
  have hread := congrArg (fun bytes => Path.text? ⟨bytes⟩) hbytes
  rw [Path.text?_ofString, Path.text?_ofString] at hread
  rwa [← Option.some.inj hread]

/-- The small letters of an ASCII text have the small bytes. -/
theorem map_smallByte {text : List Char} (h : ∀ c ∈ text, c.val < 128) :
    (text.map Char.toUInt8).map smallByte = (text.map Char.toLower).map Char.toUInt8 := by
  rw [List.map_map, List.map_map]
  exact List.map_congr_left fun c hc => smallByte_toUInt8 (h c hc)

theorem map_toUInt8_inj {a b : List Char} (ha : ∀ c ∈ a, c.val < 128) (hb : ∀ c ∈ b, c.val < 128)
    (h : a.map Char.toUInt8 = b.map Char.toUInt8) : a = b := by
  have hback : ∀ text : List Char, (∀ c ∈ text, c.val < 128) →
      (text.map Char.toUInt8).map Char.ofUInt8 = text := by
    intro text htext
    rw [List.map_map]
    exact (List.map_congr_left fun c hc => ofUInt8_toUInt8 (htext c hc)).trans (List.map_id text)
  rw [← hback a ha, h, hback b hb]

theorem EqIgnoringCase.lt {a b : List UInt8} (h : EqIgnoringCase a b) (hb : ∀ x ∈ b, x < 128) :
    ∀ x ∈ a, x < 128 := by
  intro x hx
  have hsmall : smallByte x ∈ b.map smallByte := h ▸ List.mem_map_of_mem hx
  obtain ⟨y, hy, heq⟩ := List.mem_map.1 hsmall
  exact smallByte_lt_iff.1 (heq ▸ smallByte_lt_iff.2 (hb y hy))

end Lapse.Text.Ascii
