import Mathlib
import Lapse.Policy
import Lapse.Proofs.Calendar.RoundTrip

/-!
# Ages as they are shown

The text of an age denotes a number of seconds, which is the age cut off below the last unit that is
shown. It is never above the age, and it never falls while the age grows.
-/
namespace Lapse

namespace Text

variable {word rest current : List Char}

theorem splitWordsFrom_append (h : ∀ c ∈ word, ¬ isBlank c) :
    splitWordsFrom (word ++ rest) current = splitWordsFrom rest (word.reverse ++ current) := by
  induction word generalizing current with
  | nil => rfl
  | cons c word ih =>
    obtain ⟨hc, hword⟩ := List.forall_mem_cons.1 h
    rw [List.cons_append, splitWordsFrom, if_pos (by simpa using hc), ih hword, List.reverse_cons,
      List.append_assoc, List.singleton_append]

theorem splitWordsFrom_nil {current : List Char} (h : current ≠ []) :
    splitWordsFrom [] current = [current.reverse] := by
  cases current with
  | nil => exact absurd rfl h
  | cons c current => rfl

/-- Words with single blanks between them are the words of their text. -/
theorem splitWords_intercalate {words : List (List Char)}
    (h : ∀ word ∈ words, word ≠ [] ∧ ∀ c ∈ word, ¬ isBlank c) :
    splitWords ([' '].intercalate words) = words := by
  induction words with
  | nil => rfl
  | cons word words ih =>
    obtain ⟨⟨hne, hword⟩, hwords⟩ := List.forall_mem_cons.1 h
    have hrev : word.reverse ++ [] ≠ [] := by simpa using hne
    cases words with
    | nil =>
      rw [List.intercalate_singleton, splitWords, ← List.append_nil word,
        splitWordsFrom_append hword, splitWordsFrom_nil hrev]
      simp
    | cons next words =>
      rw [List.intercalate_cons_cons, List.append_assoc, splitWords, splitWordsFrom_append hword,
        List.singleton_append, splitWordsFrom, if_neg (by decide), if_neg hrev]
      have hrest := ih hwords
      rw [splitWords] at hrest
      rw [hrest]
      simp

end Text

namespace Calendar

namespace AgeUnit

/-- The unit with a name, in the singular or the plural. -/
def named? (name : List Char) : Option AgeUnit :=
  [("year".toList, year), ("years".toList, year), ("month".toList, month),
    ("months".toList, month), ("day".toList, day), ("days".toList, day), ("h".toList, hour),
    ("m".toList, minute), ("s".toList, second)].lookup name

/-- A name of a unit, without digits and blanks. -/
def IsName (u : AgeUnit) (name : List Char) : Prop :=
  named? name = some u ∧ name.all fun c => !c.isDigit && !Text.isBlank c

instance (u : AgeUnit) (name : List Char) : Decidable (u.IsName name) :=
  inferInstanceAs (Decidable (_ ∧ _))

theorem IsName.of_mem {u : AgeUnit} {name : List Char} (h : u.IsName name) {c : Char}
    (hc : c ∈ name) : ¬ c.isDigit ∧ ¬ Text.isBlank c := by
  simpa using List.all_eq_true.1 h.2 c hc

theorem toList_counted_of_plural {u : AgeUnit} {count : Nat} {stem : String}
    (hcounted : u.counted count = toString count ++ (stem ++ if count = 1 then "" else "s"))
    (hone : u.IsName stem.toList) (hmany : u.IsName (stem.toList ++ ['s'])) :
    ∃ name, (u.counted count).toList = Nat.toDigits 10 count ++ name ∧ u.IsName name := by
  rw [hcounted, String.toList_append, String.toList_append, Nat.toString_eq_repr, Nat.toList_repr]
  refine ⟨_, rfl, ?_⟩
  split
  · simpa using hone
  · exact hmany

/-- A counted unit is written as digits and a name of the unit. -/
theorem toList_counted (u : AgeUnit) (count : Nat) :
    ∃ name, (u.counted count).toList = Nat.toDigits 10 count ++ name ∧ u.IsName name := by
  cases u with
  | year => exact toList_counted_of_plural rfl (by decide) (by decide)
  | month => exact toList_counted_of_plural rfl (by decide) (by decide)
  | day => exact toList_counted_of_plural rfl (by decide) (by decide)
  | hour | minute | second =>
    rw [counted, String.toList_append, Nat.toString_eq_repr, Nat.toList_repr]
    exact ⟨_, rfl, by decide⟩

end AgeUnit

namespace Age

/-- A word of digits and the name of a unit. -/
def readWord? (word : List Char) : Option (AgeUnit × Nat) :=
  let digits := word.takeWhile Char.isDigit
  if digits = [] then none
  else (AgeUnit.named? (word.drop digits.length)).map (·, decimalValue digits)

/-- The units and counts that a text names. -/
def ofText? (text : String) : Option (List (AgeUnit × Nat)) :=
  (Text.splitWords text.toList).mapM readWord?

/-- The number of seconds in some units. -/
def value (units : List (AgeUnit × Nat)) : Nat := (units.map fun (u, count) => count * u.seconds).sum

theorem value_cons (u : AgeUnit) (count : Nat) (units : List (AgeUnit × Nat)) :
    value ((u, count) :: units) = count * u.seconds + value units := by
  rw [value, List.map_cons, List.sum_cons, value]

theorem readWord?_counted (u : AgeUnit) (count : Nat) :
    readWord? (u.counted count).toList = some (u, count) := by
  obtain ⟨name, hcounted, hname⟩ := u.toList_counted count
  have hhead : ∀ c ∈ name.head?, ¬ c.isDigit :=
    fun c hc => (hname.of_mem (List.mem_of_mem_head? hc)).1
  have hdigits : (Nat.toDigits 10 count ++ name).takeWhile Char.isDigit = Nat.toDigits 10 count :=
    (span_isDigit_append (fun c => Nat.isDigit_of_mem_toDigits (by decide) (by decide)) hhead).1
  rw [hcounted, readWord?, hdigits, if_neg Nat.toDigits_ne_nil, List.drop_left, hname.1,
    decimalValue_eq_ofDigitChars, Nat.ofDigitChars_ten_toDigits]
  rfl

theorem counted_isWord (u : AgeUnit) (count : Nat) :
    (u.counted count).toList ≠ [] ∧ ∀ c ∈ (u.counted count).toList, ¬ Text.isBlank c := by
  obtain ⟨name, hcounted, hname⟩ := u.toList_counted count
  rw [hcounted]
  refine ⟨by simp [Nat.toDigits_ne_nil], fun c hc => ?_⟩
  rcases List.mem_append.1 hc with hc | hc
  · exact not_isBlank_of_isDigit (Nat.isDigit_of_mem_toDigits (by decide) (by decide) hc)
  · exact (hname.of_mem hc).2

/-- The first units that occur, at most `most` of them. -/
def cut (most : Nat) (units : List AgeUnit) (total : Nat) : List (AgeUnit × Nat) :=
  ((split units total).filter fun part => part.2 ≠ 0).take most

/-- The units in the text of an age. -/
def shown (total : Nat) : List (AgeUnit × Nat) :=
  if total = 0 then [(.second, 0)] else cut 2 AgeUnit.all total

theorem splitWords_counted (units : List (AgeUnit × Nat)) :
    Text.splitWords (" ".intercalate (units.map fun (u, count) => u.counted count)).toList =
      units.map fun (u, count) => (u.counted count).toList := by
  have hblank : " ".toList = [' '] := rfl
  rw [String.toList_intercalate, hblank, List.map_map, Text.splitWords_intercalate]
  · rfl
  · intro word hword
    obtain ⟨⟨u, count⟩, -, rfl⟩ := List.mem_map.1 hword
    exact counted_isWord u count

theorem text_eq (total : Nat) :
    text total = " ".intercalate ((shown total).map fun (u, count) => u.counted count) := by
  by_cases hzero : total = 0
  · rw [hzero]
    decide +kernel
  · rw [text, fullText, if_neg hzero, splitWords_counted, shown, if_neg hzero, cut, parts,
      ← List.map_take, List.map_map]
    simp [Function.comp_def]

/-- The text of an age is read as the units it shows. -/
theorem ofText?_text (total : Nat) : ofText? (text total) = some (shown total) := by
  rw [ofText?, text_eq, splitWords_counted, List.mapM_map]
  induction shown total with
  | nil => rfl
  | cons unit units ih =>
    rw [List.mapM_cons, ih, Function.comp_apply, readWord?_counted]
    rfl

theorem cut_succ_cons (most : Nat) (u : AgeUnit) (units : List AgeUnit) (total : Nat) :
    cut (most + 1) (u :: units) total =
      if total / u.seconds = 0 then cut (most + 1) units (total % u.seconds)
      else (u, total / u.seconds) :: cut most units (total % u.seconds) := by
  rw [cut, split]
  by_cases hzero : total / u.seconds = 0
  · rw [if_pos hzero, hzero, List.filter_cons_of_neg (by simp), cut]
  · have hoccurs : decide ((u, total / u.seconds).2 ≠ 0) := decide_eq_true hzero
    rw [if_neg hzero, List.filter_cons, if_pos hoccurs, List.take_succ_cons, cut]

theorem cut_zero (units : List AgeUnit) (total : Nat) : cut 0 units total = [] := List.take_zero

theorem cut_nil (most total : Nat) : cut most [] total = [] := List.take_nil

theorem value_cut_le (most : Nat) (units : List AgeUnit) (total : Nat) :
    value (cut most units total) ≤ total := by
  induction units generalizing most total with
  | nil =>
    rw [cut_nil]
    exact Nat.zero_le _
  | cons u units ih =>
    cases most with
    | zero =>
      rw [cut_zero]
      exact Nat.zero_le _
    | succ most =>
      rw [cut_succ_cons]
      have hrest : total % u.seconds ≤ total := Nat.mod_le _ _
      split
      · exact (ih _ _).trans hrest
      · have hmore := ih most (total % u.seconds)
        have hwhole := Nat.div_add_mod' total u.seconds
        rw [value_cons]
        omega

theorem seconds_pos (u : AgeUnit) : 0 < u.seconds := by cases u <;> decide

/-- What is cut off is less than the last unit that is left. -/
theorem lt_value_cut {most : Nat} {units : List AgeUnit} {total : Nat} {last : AgeUnit × Nat}
    (h : last ∈ (cut most units total).getLast?) :
    total < value (cut most units total) + last.1.seconds := by
  induction units generalizing most total with
  | nil =>
    rw [cut_nil] at h
    cases h
  | cons u units ih =>
    cases most with
    | zero =>
      rw [cut_zero] at h
      cases h
    | succ most =>
      rw [cut_succ_cons] at h ⊢
      have hwhole := Nat.div_add_mod' total u.seconds
      split at h
      · next hzero =>
        -- The unit does not occur, so all of the total is left for the smaller ones.
        have hrest := ih h
        rw [if_pos hzero]
        rw [hzero, Nat.zero_mul, Nat.zero_add] at hwhole
        rwa [hwhole] at hrest ⊢
      · next hzero =>
        rw [if_neg hzero, value_cons]
        cases hmore : cut most units (total % u.seconds) with
        | nil =>
          rw [hmore, List.getLast?_singleton] at h
          cases h
          have hlt : total % u.seconds < u.seconds := Nat.mod_lt _ (seconds_pos u)
          show total < total / u.seconds * u.seconds + 0 + u.seconds
          omega
        | cons next more =>
          have hlast : last ∈ (cut most units (total % u.seconds)).getLast? := by
            rw [hmore] at h ⊢
            rwa [List.getLast?_cons_cons] at h
          have hrest := ih hlast
          rw [hmore] at hrest
          omega

/-- Of two ages the longer one is not shown as less. Where the first units differ, the shorter age
as a whole is below what the longer one has of the first unit. -/
theorem value_cut_le_value_cut (most : Nat) (units : List AgeUnit) {total later : Nat}
    (h : total ≤ later) : value (cut most units total) ≤ value (cut most units later) := by
  induction units generalizing most total later with
  | nil => rw [cut_nil, cut_nil]
  | cons u units ih =>
    cases most with
    | zero => rw [cut_zero, cut_zero]
    | succ most =>
      have hwhole := Nat.div_add_mod' total u.seconds
      have hlater := Nat.div_add_mod' later u.seconds
      rcases (Nat.div_le_div_right (c := u.seconds) h).lt_or_eq with hlt | heq
      · have hpositive : ¬ later / u.seconds = 0 := Nat.ne_of_gt (Nat.zero_lt_of_lt hlt)
        calc value (cut (most + 1) (u :: units) total) ≤ total := value_cut_le _ _ _
          _ ≤ later / u.seconds * u.seconds :=
            ((Nat.div_lt_iff_lt_mul (seconds_pos u)).1 hlt).le
          _ ≤ value (cut (most + 1) (u :: units) later) := by
            rw [cut_succ_cons, if_neg hpositive, value_cons]
            exact Nat.le_add_right _ _
      · -- The counts of the first unit are the same, so the rests compare as the ages do.
        have hrest : total % u.seconds ≤ later % u.seconds := by
          rw [heq] at hwhole
          omega
        rw [cut_succ_cons, cut_succ_cons, ← heq]
        split
        · exact ih _ hrest
        · rw [value_cons, value_cons]
          exact Nat.add_le_add_left (ih most hrest) _

theorem value_filter (units : List (AgeUnit × Nat)) :
    value (units.filter fun part => part.2 ≠ 0) = value units := by
  induction units with
  | nil => rfl
  | cons unit units ih =>
    obtain ⟨u, count⟩ := unit
    by_cases hzero : count = 0
    · rw [List.filter_cons_of_neg (by simpa using hzero), ih, value_cons, hzero, Nat.zero_mul,
        Nat.zero_add]
    · rw [List.filter_cons_of_pos (by simpa using hzero), value_cons, value_cons, ih]

/-- Nothing is left over where the last unit is the second. -/
theorem value_split_append (units : List AgeUnit) (total : Nat) :
    value (split (units ++ [.second]) total) = total := by
  induction units generalizing total with
  | nil =>
    rw [List.nil_append, split, value_cons, split]
    exact (Nat.add_zero _).trans (Nat.div_mul_cancel (Nat.one_dvd _))
  | cons u units ih => rw [List.cons_append, split, value_cons, ih, Nat.div_add_mod']

theorem value_parts (total : Nat) : value (parts total) = total := by
  rw [parts, value_filter]
  exact value_split_append [.year, .month, .day, .hour, .minute] total

theorem map_fst_split (units : List AgeUnit) (total : Nat) :
    (split units total).map Prod.fst = units := by
  induction units generalizing total with
  | nil => rfl
  | cons u units ih => rw [split, List.map_cons, ih]

theorem pairwise_cut (most total : Nat) :
    (cut most AgeUnit.all total).Pairwise fun a b => b.1.seconds < a.1.seconds := by
  have hall : AgeUnit.all.Pairwise fun a b => b.seconds < a.seconds := by decide
  rw [← map_fst_split AgeUnit.all total, List.pairwise_map] at hall
  exact hall.sublist ((List.take_sublist _ _).trans List.filter_sublist)

/-- Units that stand for `total` seconds, cut off behind the second one. -/
structure Truncates (units : List (AgeUnit × Nat)) (total : Nat) : Prop where
  one_or_two : units.length = 1 ∨ units.length = 2
  decreasing : units.Pairwise fun a b => b.1.seconds < a.1.seconds
  le : value units ≤ total
  lt : ∀ last ∈ units.getLast?, total < value units + last.1.seconds
  exact : units.length = 1 → value units = total

theorem shown_truncates (total : Nat) : Truncates (shown total) total := by
  by_cases hzero : total = 0
  · subst hzero
    have hshown : shown 0 = [(.second, 0)] := rfl
    rw [hshown]
    exact {
      one_or_two := .inl rfl
      decreasing := List.pairwise_singleton _ _
      le := Nat.le_refl 0
      lt := by
        rintro last hlast
        cases hlast
        decide
      exact := fun _ => rfl }
  · have hshown : shown total = (parts total).take 2 := by
      rw [shown, if_neg hzero, cut, parts]
    have hne : (parts total).length ≠ 0 := by
      intro hnil
      have hvalue := value_parts total
      rw [List.length_eq_zero_iff.1 hnil] at hvalue
      exact hzero hvalue.symm
    have hlength : (shown total).length = min 2 (parts total).length := by
      rw [hshown, List.length_take]
    have hcut : shown total = cut 2 AgeUnit.all total := by rw [shown, if_neg hzero]
    exact {
      one_or_two := by omega
      decreasing := hcut ▸ pairwise_cut 2 total
      le := hcut ▸ value_cut_le 2 _ total
      lt := fun last hlast => by
        rw [hcut] at hlast ⊢
        exact lt_value_cut hlast
      exact := fun hone => by
        rw [hshown, List.take_of_length_le (by omega), value_parts] }

theorem value_shown_le {total later : Nat} (h : total ≤ later) :
    value (shown total) ≤ value (shown later) := by
  by_cases hzero : total = 0
  · subst hzero
    exact Nat.zero_le _
  · rw [shown, if_neg hzero, shown, if_neg (by omega)]
    exact value_cut_le_value_cut 2 _ h

/-- The age in the message about an overdue note, whatever its fraction of a second. Its text names
one or two units, the age cut off below the last of them, and a longer age never shows less. -/
theorem overdue_message_truncates (total : Nat) :
    (∀ tag nanos, (Violation.overdue tag ⟨total, nanos⟩).message =
      tag ++ " now overdue for " ++ text total) ∧
    (total = 0 → text total = "0s") ∧
    ∃ units, ofText? (text total) = some units ∧ Truncates units total ∧
      ∀ later, total ≤ later →
        ∃ more, ofText? (text later) = some more ∧ value units ≤ value more := by
  refine ⟨fun _ _ => rfl, ?_, shown total, ofText?_text total, shown_truncates total,
    fun later h => ⟨shown later, ofText?_text later, value_shown_le h⟩⟩
  rintro rfl
  decide +kernel

/-- Units that do not occur are passed over. -/
example : text 31557659 = "1year 59s" := by decide +kernel

end Age

end Calendar

end Lapse
