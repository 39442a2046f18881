import Lapse.Proofs.Text.Intervals
import Lapse.Text.CaseFold
import Lapse.Text.Category

/-!
# Case folding moves letters only

Every character that another one folds to is a letter: the members of the tabled classes are all
alphabetic. The two tables are read once into numbers, whose bits are compared. A class has both
cases of an ASCII letter or none, also where it has more members than these.
-/
namespace Lapse.Text

/-- The characters of each of the lines. -/
inductive Spelled : (lines : List String) → (texts : List (List Char)) → Prop
  | nil : Spelled [] []
  | cons {lines : List String} {texts : List (List Char)} (text : List Char)
      (h : Spelled lines texts) : Spelled (String.ofList text :: lines) (text :: texts)

theorem Spelled.map_toList {lines : List String} {texts : List (List Char)} (h : Spelled lines texts) :
    lines.map String.toList = texts := by
  induction h with
  | nil => rfl
  | cons text h ih => rw [List.map_cons, ih, String.toList_ofList]

/-- What holds of the numbers below 128 holds of the ASCII characters. -/
theorem forall_ascii {P : Char → Prop} (h : ∀ n < 128, P (Char.ofNat n)) {c : Char}
    (hc : c.val < 128) : P c := by
  have := h c.toNat hc
  rwa [Char.ofNat_toNat] at this

namespace CaseFold

def classesIn (texts : List (List Char)) : List (List Char) :=
  (texts.flatMap words).map fun word =>
    (splitAtDots word).map fun digits => Char.ofNat (hexValue digits)

theorem mem_classesIn_of_table {texts : List (List Char)} (hspells : Spelled foldClasses texts)
    {i key : Nat} {members : List Char} (h : table[i]? = some (key, members)) :
    members ∈ classesIn texts ∧ ∃ c ∈ members, c.toNat = key := by
  have hmem := Array.mem_of_getElem? h
  have hwords : foldClasses.flatMap (fun line => words line.toList) = texts.flatMap words := by
    rw [← hspells.map_toList, List.flatMap_map]
  simp only [table, hwords, List.mem_toArray, List.mem_mergeSort, List.mem_flatMap] at hmem
  obtain ⟨found, hfound, hentry⟩ := hmem
  obtain ⟨c, hc, heq⟩ := List.mem_map.1 hentry
  obtain ⟨rfl, rfl⟩ := Prod.mk.inj heq
  exact ⟨hfound, c, hc, rfl⟩

/-- One number whose bits are the members of the classes. -/
def bitsOfMembers (classes : List (List Char)) : Nat :=
  classes.flatten.foldr (fun c bits => bits ||| 2 ^ c.toNat) 0

theorem testBit_bitsOfMembers {classes : List (List Char)} {members : List Char}
    (hmembers : members ∈ classes) {c : Char} (hc : c ∈ members) :
    (bitsOfMembers classes).testBit c.toNat := by
  have hbit : ∀ chars : List Char, c ∈ chars →
      (chars.foldr (fun (x : Char) bits => bits ||| 2 ^ x.toNat) 0).testBit c.toNat := by
    intro chars hmem
    induction chars with
    | nil => cases hmem
    | cons x chars ih =>
      rw [List.foldr_cons, Nat.testBit_or, Bool.or_eq_true]
      rcases List.mem_cons.1 hmem with rfl | hmem
      · exact .inr Nat.testBit_two_pow_self
      · exact .inl (ih hmem)
  exact hbit _ (List.mem_flatten_of_mem hmembers hc)

def areLetters (folds alphabetic : List (List Char)) : Bool :=
  let ends := endsAt 0 ((alphabetic.flatMap words).map hexValue)
  let members := bitsOfMembers (classesIn folds)
  ends.length % 2 = 0 && members &&& bitsOf ends = members &&
    (classesIn folds).all (·.all fun c => 128 ≤ c.val || c.isAlpha)

theorem contains_of_areLetters {folds alphabetic : List (List Char)} {t : Intervals}
    (ht : t.ends.toList = endsAt 0 ((alphabetic.flatMap words).map hexValue))
    (h : areLetters folds alphabetic) {members : List Char} (hmembers : members ∈ classesIn folds)
    {c : Char} (hc : c ∈ members) : t.contains c ∧ (c.val < 128 → c.isAlpha) := by
  simp only [areLetters, Bool.and_eq_true, decide_eq_true_eq, List.all_eq_true, ← ht,
    Bool.or_eq_true] at h
  obtain ⟨⟨heven, hbits⟩, hascii⟩ := h
  have hbit := testBit_bitsOfMembers hmembers hc
  rw [← hbits, Nat.testBit_and, Bool.and_eq_true] at hbit
  refine ⟨?_, fun hsmall => (hascii members hmembers c hc).resolve_left (UInt32.not_le.2 hsmall)⟩
  rw [Intervals.contains_eq_testBit (ht ▸ (pairwise_endsAt _ _).1) (by simpa using heven)]
  exact hbit.2

set_option maxRecDepth 4000 in
theorem exists_areLetters :
    ∃ folds, Spelled foldClasses folds ∧
      ∃ lines, Property.alphabetic = .ofLines lines ∧
        ∃ alphabetic, Spelled lines alphabetic ∧ areLetters folds alphabetic := by
  apply Exists.intro
  apply And.intro
  · unfold foldClasses
    repeat apply Spelled.cons
    exact Spelled.nil
  apply Exists.intro
  apply And.intro
  · exact rfl
  apply Exists.intro
  apply And.intro
  · repeat apply Spelled.cons
    exact Spelled.nil
  · decide +kernel

theorem isAlphabetic_of_table {i key : Nat} {members : List Char}
    (h : table[i]? = some (key, members)) {c : Char} (hc : c ∈ members) : isAlphabetic c := by
  obtain ⟨folds, hfolds, lines, htable, alphabetic, halphabetic, hletters⟩ := exists_areLetters
  have hends : Property.alphabetic.ends.toList =
      endsAt 0 ((alphabetic.flatMap words).map hexValue) := by
    rw [htable, Intervals.ends_ofLines, distancesOf, ← halphabetic.map_toList, List.flatMap_map]
  obtain ⟨hcontains, hascii⟩ :=
    contains_of_areLetters hends hletters (mem_classesIn_of_table hfolds h).1 hc
  rw [isAlphabetic]
  split
  · next hsmall => exact hascii hsmall
  · exact hcontains

theorem isAlphabetic_swapAscii {c : Char} (hsmall : c.val < 128) (h : c.isAlpha) :
    isAlphabetic (swapAscii c) :=
  forall_ascii (P := fun c => c.isAlpha → isAlphabetic (swapAscii c)) (by decide +kernel) hsmall h

/-- A character is equal regardless of case to itself and otherwise to letters only. -/
theorem eq_or_isAlphabetic_of_mem_classOf {c x : Char} (h : x ∈ classOf c) :
    x = c ∨ isAlphabetic x := by
  rw [classOf] at h
  split at h
  · next hascii =>
    split at h
    · next halpha =>
      rcases List.mem_cons.1 h with rfl | h
      · exact .inl rfl
      · rw [List.mem_singleton.1 h]
        exact .inr (isAlphabetic_swapAscii hascii.1 halpha)
    · exact .inl (List.mem_singleton.1 h)
  · split at h
    · next hentry =>
      split at h
      · exact .inr (isAlphabetic_of_table hentry h)
      · exact .inl (List.mem_singleton.1 h)
    · exact .inl (List.mem_singleton.1 h)

theorem mem_classOf_self (c : Char) : c ∈ classOf c := by
  rw [classOf]
  split
  · split
    · exact List.mem_cons_self
    · exact List.mem_singleton_self c
  · split
    · next key members hentry =>
      split
      · next hkey =>
        obtain ⟨folds, hfolds, -⟩ := exists_areLetters
        obtain ⟨-, member, hmember, heq⟩ := mem_classesIn_of_table hfolds hentry
        have : member = c := Char.ext (UInt32.toNat_inj.1 (heq.trans hkey))
        exact this ▸ hmember
      · exact List.mem_singleton_self c
    · exact List.mem_singleton_self c

theorem toLower_of_isUpper {c : Char} (h : c.isUpper) :
    swapAscii c = c.toLower ∧ swapAscii c.toLower = c ∧ (c.val < 128 ∧ c.isAlpha) ∧
      c.toLower.val < 128 ∧ c.toLower.isAlpha := by
  have hsmall : c.val < 128 :=
    UInt32.lt_of_le_of_lt (of_decide_eq_true h).2 (by decide)
  have hall := forall_ascii (P := fun c => c.isUpper → swapAscii c = c.toLower ∧
    swapAscii c.toLower = c ∧ (c.val < 128 ∧ c.isAlpha) ∧ c.toLower.val < 128 ∧ c.toLower.isAlpha)
    (by decide +kernel) hsmall
  exact hall h

theorem toLower_of_not_isUpper {c : Char} (h : ¬ c.isUpper) : c.toLower = c :=
  dif_neg fun hupper => h (decide_eq_true hupper)

/-- Two characters with one lower case are equal or one ASCII letter in both cases. -/
theorem eq_or_eq_swapAscii {c d : Char} (h : c.toLower = d.toLower) :
    d = c ∨ (c.val < 128 ∧ c.isAlpha) ∧ d = swapAscii c := by
  by_cases hc : c.isUpper
  · obtain ⟨hswap, hback, hascii, -⟩ := toLower_of_isUpper hc
    by_cases hd : d.isUpper
    · have hback' := (toLower_of_isUpper hd).2.1
      rw [← h, hback] at hback'
      exact .inl hback'.symm
    · rw [toLower_of_not_isUpper hd] at h
      exact .inr ⟨hascii, h.symm.trans hswap.symm⟩
  · rw [toLower_of_not_isUpper hc] at h
    by_cases hd : d.isUpper
    · obtain ⟨-, hback, -, hascii⟩ := toLower_of_isUpper hd
      exact .inr ⟨h ▸ hascii, by rw [h, hback]⟩
    · exact .inl (h.trans (toLower_of_not_isUpper hd)).symm

theorem swapAscii_swapAscii {c : Char} (hsmall : c.val < 128) (h : c.isAlpha) :
    swapAscii (swapAscii c) = c ∧ (swapAscii c).val < 128 ∧ (swapAscii c).isAlpha :=
  forall_ascii (P := fun c => c.isAlpha →
    swapAscii (swapAscii c) = c ∧ (swapAscii c).val < 128 ∧ (swapAscii c).isAlpha)
    (by decide +kernel) hsmall h

/-- With a letter a class has the other case of it, and the letters that are looked up in the
tables are found there. -/
def isSwapClosed (folds : List (List Char)) : Bool :=
  ((classesIn folds).all fun members => members.all fun c =>
    !(decide (c.val < 128) && c.isAlpha) || members.contains (swapAscii c)) &&
  ['k', 'K', 's', 'S'].all fun c => (classesIn folds).any (·.contains c)

set_option maxRecDepth 4000 in
theorem exists_isSwapClosed : ∃ folds, Spelled foldClasses folds ∧ isSwapClosed folds := by
  apply Exists.intro
  apply And.intro
  · unfold foldClasses
    repeat apply Spelled.cons
    exact Spelled.nil
  · decide +kernel

/-- A member of a tabled class is found in the table. -/
theorem exists_entry_of_mem {texts : List (List Char)} (hspells : Spelled foldClasses texts)
    {members : List Char} (hmembers : members ∈ classesIn texts) {c : Char} (hc : c ∈ members) :
    ∃ found, table[countAtMost keys c.toNat keys.size 0 keys.size - 1]? = some (c.toNat, found) := by
  have hwords : foldClasses.flatMap (fun line => words line.toList) = texts.flatMap words := by
    rw [← hspells.map_toList, List.flatMap_map]
  have hsorted : keys.toList.Pairwise (· ≤ ·) := by
    rw [keys, Array.toList_map, List.pairwise_map, table]
    refine (List.pairwise_mergeSort (fun a b c hab hbc => ?_) (fun a b => ?_) _).imp ?_
    · simp only [decide_eq_true_eq] at hab hbc ⊢
      exact Nat.le_trans hab hbc
    · simpa using Nat.le_total _ _
    · exact fun h => of_decide_eq_true h
  have hkey : c.toNat ∈ keys.toList := by
    rw [keys, Array.toList_map, table]
    simp only [hwords, List.mem_map (b := c.toNat), List.mem_mergeSort, List.mem_flatMap]
    exact ⟨(c.toNat, members), ⟨members, hmembers, List.mem_map.2 ⟨c, hc, rfl⟩⟩, rfl⟩
  have hcount := @countAtMost_eq_countP keys hsorted c.toNat keys.size 0 keys.size (by omega)
    (Nat.zero_le _) List.countP_le_length (Nat.le_refl _)
  have hget := getElem?_countP_sub_one hsorted hkey
  rw [← hcount, Array.getElem?_toList] at hget
  have hmap (i : Nat) : keys[i]? = table[i]?.map (·.1) := Array.getElem?_map
  rw [hmap, Option.map_eq_some_iff] at hget
  obtain ⟨⟨key, found⟩, hfound, hkey⟩ := hget
  exact ⟨found, hfound.trans (congrArg (fun key => some (key, found)) hkey)⟩

/-- A class has both cases of an ASCII letter or none. -/
theorem swapAscii_mem_classOf {c x : Char} (hascii : c.val < 128 ∧ c.isAlpha)
    (h : c ∈ classOf x) : swapAscii c ∈ classOf x := by
  obtain ⟨folds, hfolds, hclosed⟩ := exists_isSwapClosed
  simp only [isSwapClosed, Bool.and_eq_true, List.all_eq_true, Bool.or_eq_true,
    Bool.not_eq_true', Bool.and_eq_false_iff, decide_eq_false_iff_not, List.any_eq_true,
    List.contains_iff_mem] at hclosed
  obtain ⟨hclosed, hfound⟩ := hclosed
  have htable {i key : Nat} {members : List Char} (hentry : table[i]? = some (key, members))
      (hc : c ∈ members) : swapAscii c ∈ members := by
    rcases hclosed members (mem_classesIn_of_table hfolds hentry).1 c hc with hnot | hmem
    · rcases hnot with hnot | hnot
      · exact absurd hascii.1 hnot
      · exact absurd hascii.2 (by simp [hnot])
    · exact hmem
  have hself (hx : ¬ (x.val < 128 ∧ x ≠ 'k' ∧ x ≠ 'K' ∧ x ≠ 's' ∧ x ≠ 'S')) (hc : c ∈ [x]) :
      ∃ found, table[countAtMost keys x.toNat keys.size 0 keys.size - 1]? =
        some (x.toNat, found) := by
    obtain rfl := List.mem_singleton.1 hc
    have hletter : c ∈ ['k', 'K', 's', 'S'] := by
      simp only [List.mem_cons, List.not_mem_nil, or_false]
      grind
    obtain ⟨members, hmembers, hc⟩ := hfound c hletter
    exact exists_entry_of_mem hfolds hmembers hc
  rw [classOf] at h ⊢
  split at h
  · next hx =>
    rw [if_pos hx]
    split at h
    · next halpha =>
      rw [if_pos halpha]
      simp only [List.mem_cons, List.not_mem_nil, or_false] at h ⊢
      rcases h with rfl | rfl
      · exact .inr rfl
      · exact .inl (swapAscii_swapAscii hx.1 halpha).1
    · next halpha =>
      exact absurd hascii.2 (List.mem_singleton.1 h ▸ halpha)
  · next hx =>
    rw [if_neg hx]
    split at h
    · next key members hentry =>
      split at h
      · next hkey =>
        rw [if_pos hkey]
        exact htable hentry h
      · next hkey =>
        obtain ⟨found, hfound⟩ := hself hx h
        cases hentry.symm.trans hfound
        exact absurd rfl hkey
    · next hentry =>
      obtain ⟨found, hfound⟩ := hself hx h
      cases hentry.symm.trans hfound

/-- Classes do not tell apart the cases of an ASCII letter. -/
theorem mem_classOf_iff {c d : Char} (h : c.toLower = d.toLower) (x : Char) :
    c ∈ classOf x ↔ d ∈ classOf x := by
  rcases eq_or_eq_swapAscii h with rfl | ⟨hascii, rfl⟩
  · rfl
  · refine ⟨swapAscii_mem_classOf hascii, fun hmem => ?_⟩
    obtain ⟨hswap, hascii'⟩ := swapAscii_swapAscii hascii.1 hascii.2
    exact hswap ▸ swapAscii_mem_classOf hascii' hmem

end CaseFold

end Lapse.Text
