/-!
# Texts as bytes

UTF-8 bytes of a text, and reading bytes that may not be UTF-8: each maximal start of a character
that is not continued properly becomes one replacement character.
-/
namespace Lapse.Text.Utf8

def replacement : Char := '\ufffd'

theorem fromUTF8?_toUTF8 (s : String) : String.fromUTF8? s.toUTF8 = some s := by
  rw [String.toUTF8_eq_toByteArray, String.fromUTF8?, dif_pos s.isValidUTF8]
  rfl

/-- An unfinished character: its bits so far, how many bytes it still wants, and the range that
the next of them lies in. -/
structure Pending where
  bits : Nat
  missing : Nat
  low : Nat
  high : Nat

/-- What a byte starts when no character is unfinished: a whole character, or an unfinished one. -/
def start (b : Nat) : Char ⊕ Pending :=
  if b < 0x80 then .inl (Char.ofNat b)
  else if 0xc2 ≤ b ∧ b ≤ 0xdf then .inr ⟨b - 0xc0, 1, 0x80, 0xbf⟩
  else if b = 0xe0 then .inr ⟨0, 2, 0xa0, 0xbf⟩
  else if b = 0xed then .inr ⟨0xd, 2, 0x80, 0x9f⟩
  else if 0xe1 ≤ b ∧ b ≤ 0xef then .inr ⟨b - 0xe0, 2, 0x80, 0xbf⟩
  else if b = 0xf0 then .inr ⟨0, 3, 0x90, 0xbf⟩
  else if 0xf1 ≤ b ∧ b ≤ 0xf3 then .inr ⟨b - 0xf0, 3, 0x80, 0xbf⟩
  else if b = 0xf4 then .inr ⟨4, 3, 0x80, 0x8f⟩
  else .inl replacement

/-- Reads one byte after the characters `done`, which are in reverse. -/
def step (state : List Char × Option Pending) (byte : UInt8) : List Char × Option Pending :=
  let b := byte.toNat
  let begin (done : List Char) :=
    match start b with
    | .inl c => (c :: done, none)
    | .inr p => (done, some p)
  match state with
  | (done, none) => begin done
  | (done, some p) =>
    if p.low ≤ b ∧ b ≤ p.high then
      let bits := p.bits * 64 + (b - 0x80)
      if p.missing = 1 then (Char.ofNat bits :: done, none)
      else (done, some ⟨bits, p.missing - 1, 0x80, 0xbf⟩)
    else begin (replacement :: done)

/-- The characters of the bytes, with replacement characters for what is not UTF-8. -/
def mend (bytes : List UInt8) : List Char :=
  match bytes.foldl step ([], none) with
  | (done, none) => done.reverse
  | (done, some _) => (replacement :: done).reverse

def decodeLossy (bytes : ByteArray) : String :=
  (String.fromUTF8? bytes).getD (String.ofList (mend bytes.data.toList))

end Lapse.Text.Utf8
