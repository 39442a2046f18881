import Mathlib
import Lapse.Proofs.Path.LastName
import Lapse.Proofs.Path.Text
import Lapse.Proofs.Text.Ascii
import Lapse.Proofs.Text.Lowercase
import Lapse.Scan.Binary

/-!
# What is taken for binary

A file is taken for binary by the end of its last name alone. The small letters that are compared
are those of all characters; as no listed extension has a k, none but ASCII letters matter.
-/
namespace Lapse.Scan

open Text.Ascii

theorem binaryExtensions_small : ∀ word ∈ binaryExtensions,
    (∀ c ∈ word.toList, c.val < 128 ∧ c ≠ 'k') ∧ word.toList.map Char.toLower = word.toList := by
  simp [binaryExtensions, Char.toLower]

variable {word : String}

theorem bytes_of_binaryExtension (h : word ∈ binaryExtensions) :
    (Path.ofString word).bytes = word.toList.map Char.toUInt8 := by
  have hascii := (binaryExtensions_small word h).1
  rw [← bytes_ofList fun c hc => (hascii c hc).1, String.ofList_toList]

/-- The small letters of a text are a listed extension where their bytes differ in the case of ASCII
letters only. -/
theorem letters_eq_iff_eqIgnoringCase (h : word ∈ binaryExtensions) (text : String) :
    String.ofList (Text.Lowercase.letters text.toList) = word ↔
      EqIgnoringCase (Path.ofString text).bytes (Path.ofString word).bytes := by
  obtain ⟨hword, hsmall⟩ := binaryExtensions_small word h
  have hascii : ∀ c ∈ word.toList, c.val < 128 := fun c hc => (hword c hc).1
  have hbytes : (Path.ofString word).bytes.map smallByte = word.toList.map Char.toUInt8 := by
    rw [bytes_of_binaryExtension h, map_smallByte hascii, hsmall]
  rw [EqIgnoringCase, hbytes, ← String.toList_inj, String.toList_ofList,
    Text.Lowercase.letters_eq_iff hword]
  constructor
  · rintro ⟨htext, hletters⟩
    rw [bytes_toList htext, map_smallByte htext, hletters]
  · intro heq
    have hlow : ∀ b ∈ (Path.ofString text).bytes, b < 128 := by
      refine EqIgnoringCase.lt (heq.trans hbytes.symm) fun b hb => ?_
      obtain ⟨c, hc, rfl⟩ := List.mem_map.1 (bytes_of_binaryExtension h ▸ hb)
      exact toUInt8_lt (hascii c hc)
    have htext := ascii_of_bytes hlow
    refine ⟨htext, ?_⟩
    rw [bytes_toList htext, map_smallByte htext] at heq
    refine map_toUInt8_inj ?_ hascii heq
    intro small hsmall
    obtain ⟨c, hc, rfl⟩ := List.mem_map.1 hsmall
    exact toLower_ascii (htext c hc)

theorem lt_of_binaryExtension (h : word ∈ binaryExtensions) :
    ∀ b ∈ (Path.ofString word).bytes, b < 128 := by
  rw [bytes_of_binaryExtension h]
  intro b hb
  obtain ⟨c, hc, rfl⟩ := List.mem_map.1 hb
  exact toUInt8_lt ((binaryExtensions_small word h).1 c hc).1

theorem isLikelyBinary_iff {p : Path} :
    isLikelyBinary p ↔ ∃ name ext, p.fileName? = some name ∧ Path.extension? name = some ext ∧
      ∃ word ∈ binaryExtensions, EqIgnoringCase ext (Path.ofString word).bytes := by
  rw [isLikelyBinary]
  constructor
  · intro h
    split at h
    next text hread =>
      obtain ⟨ext, hnamed, htext⟩ := Option.bind_eq_some_iff.1 hread
      obtain ⟨name, hname, hext⟩ := Option.bind_eq_some_iff.1 hnamed
      have hword := List.contains_iff_mem.1 h
      have heq := (letters_eq_iff_eqIgnoringCase hword text).1 rfl
      rw [Path.ofString_of_text? htext] at heq
      exact ⟨name, ext, hname, hext, _, hword, heq⟩
    · cases h
  · rintro ⟨name, ext, hname, hext, word, hword, heq⟩
    obtain ⟨text, -, rfl⟩ := exists_text_of_ascii (heq.lt (lt_of_binaryExtension hword))
    have hread : Path.text? ⟨(Path.ofString text).bytes⟩ = some text := Path.text?_ofString text
    rw [hname, Option.bind_some, hext, Option.bind_some, hread]
    dsimp only
    rw [(letters_eq_iff_eqIgnoringCase hword text).2 heq]
    exact List.contains_iff_mem.2 hword

theorem isLikelyBinary_congr {p q : Path} (h : p.fileName? = q.fileName?) :
    isLikelyBinary p = isLikelyBinary q := by
  rw [isLikelyBinary, isLikelyBinary, h]

/-- A file is taken for binary where its last name has a dot that does not come first and what stands
behind the last dot is a listed extension but for the case of ASCII letters. It never is where that
has a character beyond ASCII, and the directories in front of the name do not matter. -/
theorem isLikelyBinary_iff_last_name (p : Path) :
    (isLikelyBinary p ↔ ∃ name front ext, p.EndsIn name ∧ front ≠ [] ∧ name = front ++ dot :: ext ∧
      dot ∉ ext ∧ ∃ word ∈ binaryExtensions, EqIgnoringCase ext (Path.ofString word).bytes) ∧
    (∀ name front ext, p.EndsIn name → name = front ++ dot :: ext → dot ∉ ext →
      (∃ b ∈ ext, 128 ≤ b) → isLikelyBinary p = false) ∧
    ∀ name q, p.EndsIn name → Path.EndsIn q name → isLikelyBinary p = isLikelyBinary q := by
  refine ⟨?_, ?_, ?_⟩
  · rw [isLikelyBinary_iff]
    constructor
    · rintro ⟨name, ext, hname, hext, hlisted⟩
      obtain ⟨-, front, hfront, hwritten, hfree⟩ := Path.extension?_eq_some_iff.1 hext
      exact ⟨name, front, ext, Path.fileName?_eq_some_iff.1 hname, hfront, hwritten, hfree, hlisted⟩
    · rintro ⟨name, front, ext, hends, hfront, hwritten, hfree, hlisted⟩
      exact ⟨name, ext, Path.fileName?_eq_some_iff.2 hends, Path.extension?_eq_some_iff.2
        ⟨hends.isName.2.2, front, hfront, hwritten, hfree⟩, hlisted⟩
  · intro name front ext hends hwritten hfree ⟨b, hb, hwide⟩
    refine Bool.eq_false_iff.2 fun hbinary => ?_
    obtain ⟨other, found, hname, hext, word, hword, heq⟩ := isLikelyBinary_iff.1 hbinary
    obtain rfl := Option.some.inj (hends.fileName?.symm.trans hname)
    obtain ⟨-, start, -, hother, hrest⟩ := Path.extension?_eq_some_iff.1 hext
    obtain rfl := Path.eq_of_last_dot hfree hrest (hwritten.symm.trans hother)
    exact absurd (heq.lt (lt_of_binaryExtension hword) b hb) (UInt8.not_lt.2 hwide)
  · intro name q hp hq
    exact isLikelyBinary_congr (hp.fileName?.trans hq.fileName?.symm)

/-- A hidden archive below a directory with a dot in its name, and an extension with a long s. -/
theorem isLikelyBinary_hidden_archive :
    isLikelyBinary (Path.ofString "a.b/.x.tar.GZ/./") ∧
    isLikelyBinary (Path.ofString "lib.ſo") = false ∧
    isLikelyBinary (Path.ofString "a.b/.x.tar.GZ/./") =
      isLikelyBinary (Path.ofString "/.x.tar.GZ") := by
  let archive := (Path.ofString ".x.tar.GZ").bytes
  have hbelow : (Path.ofString "a.b/.x.tar.GZ/./").EndsIn archive :=
    ⟨by decide, by decide, (Path.ofString "a.b/").bytes, [[dot], []], by decide, by decide, by decide⟩
  have hroot : (Path.ofString "/.x.tar.GZ").EndsIn archive :=
    ⟨by decide, by decide, [slash], [], by decide, by decide, by decide⟩
  have hlibrary : (Path.ofString "lib.ſo").EndsIn (Path.ofString "lib.ſo").bytes :=
    ⟨by decide, by decide, [], [], by decide, by decide, by decide⟩
  refine ⟨(isLikelyBinary_iff_last_name _).1.2 ⟨archive, (Path.ofString ".x.tar").bytes,
      (Path.ofString "GZ").bytes, hbelow, by decide, by decide, by decide, "gz", by decide, by decide⟩,
    (isLikelyBinary_iff_last_name _).2.1 _ (Path.ofString "lib").bytes (Path.ofString "ſo").bytes
      hlibrary (by decide) (by decide) (by decide),
    (isLikelyBinary_iff_last_name _).2.2 archive _ hbelow hroot⟩

end Lapse.Scan
