import Lapse.Text.Find

/-!
# Places of a mark

Where a mark stands first in a text, and what that says about a text in two parts with a separator
between them that has no character of the mark.
-/
namespace Lapse.Text

variable {mark front back text : List Char}

theorem splitAt?_append (mark xs ys : List Char)
    (h : ∀ zs, zs <:+ xs → zs ≠ [] → ¬ mark <+: zs ++ ys) :
    splitAt? mark (xs ++ ys) = (splitAt? mark ys).map fun (front, back) => (xs ++ front, back) := by
  induction xs with
  | nil => simp
  | cons x xs ih =>
    have hhere := h (x :: xs) (List.suffix_refl _) (List.cons_ne_nil _ _)
    have hrest := ih fun zs hzs => h zs (hzs.trans (List.suffix_cons x xs))
    rw [List.cons_append] at hhere ⊢
    rw [splitAt?, if_neg (mt List.isPrefixOf_iff_prefix.1 hhere), hrest, Option.map_map]
    rfl

theorem splitAt?_self (c : Char) (mark rest : List Char) :
    splitAt? (c :: mark) (c :: mark ++ rest) = some ([], rest) := by
  have hbegins : (c :: mark).isPrefixOf (c :: (mark ++ rest)) :=
    List.isPrefixOf_iff_prefix.2 ⟨rest, rfl⟩
  rw [List.cons_append, splitAt?, if_pos hbegins]
  simp

theorem splitAt?_cons_here {c : Char} (h : mark <+: c :: text) :
    splitAt? mark (c :: text) = some ([], (c :: text).drop mark.length) := by
  rw [splitAt?, if_pos (List.isPrefixOf_iff_prefix.2 h)]

theorem splitAt?_cons_later {c : Char} (h : ¬ mark <+: c :: text) :
    splitAt? mark (c :: text) =
      (splitAt? mark text).map fun (front, back) => (c :: front, back) := by
  rw [splitAt?, if_neg (mt List.isPrefixOf_iff_prefix.1 h)]

theorem eq_append_of_splitAt? (h : splitAt? mark text = some (front, back)) :
    text = front ++ (mark ++ back) := by
  induction text generalizing front with
  | nil =>
    rw [splitAt?] at h
    split at h
    · next hmark =>
      cases h
      rw [List.isEmpty_iff.1 hmark]
      rfl
    · cases h
  | cons c text ih =>
    rw [splitAt?] at h
    split at h
    · next hbegins =>
      obtain ⟨rest, hrest⟩ := List.isPrefixOf_iff_prefix.1 hbegins
      cases h
      rw [← hrest, List.drop_left]
      rfl
    · obtain ⟨⟨others, last⟩, hothers, e⟩ := Option.map_eq_some_iff.1 h
      cases e
      rw [ih hothers]
      rfl
/-- The part in front of a mark ends before the text does. -/
theorem length_lt_of_splitAt? (hmark : mark ≠ []) (h : splitAt? mark text = some (front, back)) :
    front.length < text.length := by
  induction text generalizing front with
  | nil =>
    rw [splitAt?, if_neg (by simpa using hmark)] at h
    cases h
  | cons c text ih =>
    by_cases hbegins : mark <+: c :: text
    · rw [splitAt?_cons_here hbegins] at h
      cases h
      exact Nat.succ_pos _
    · rw [splitAt?_cons_later hbegins] at h
      obtain ⟨⟨front, back⟩, hrest, e⟩ := Option.map_eq_some_iff.1 h
      cases e
      exact Nat.succ_lt_succ (ih hrest)

/-- A mark that begins in front of a character that it does not have ends there as well. -/
theorem prefix_of_prefix_append_cons (front : List Char) {c : Char} (hc : c ∉ mark)
    (h : mark <+: front ++ c :: back) : mark <+: front := by
  rcases List.prefix_or_prefix_of_prefix h (List.prefix_append front _) with h | ⟨more, rfl⟩
  · exact h
  · cases more with
    | nil => simp
    | cons x more =>
      have hx : x = c := (List.cons_prefix_cons.1 ((List.prefix_append_right_inj front).1 h)).1
      exact absurd (by simp [hx]) hc

/-- How many places of the text `mark` begins at. -/
def timesIn (mark : List Char) : List Char → Nat
  | [] => 0
  | c :: text => (if mark <+: c :: text then 1 else 0) + timesIn mark text

theorem timesIn_cons_here {c : Char} (h : mark <+: c :: text) :
    timesIn mark (c :: text) = timesIn mark text + 1 := by
  rw [timesIn, if_pos h, Nat.add_comm]

theorem timesIn_cons_later {c : Char} (h : ¬ mark <+: c :: text) :
    timesIn mark (c :: text) = timesIn mark text := by
  rw [timesIn, if_neg h, Nat.zero_add]

/-- No mark begins in a part without the mark's first character. -/
theorem timesIn_append_of_not_mem {c : Char} (h : c ∉ front) (back : List Char) :
    timesIn (c :: mark) (front ++ back) = timesIn (c :: mark) back := by
  induction front with
  | nil => rfl
  | cons x front ih =>
    have hx : ¬ c :: mark <+: x :: (front ++ back) := fun hbegins =>
      h ((List.cons_prefix_cons.1 hbegins).1 ▸ List.mem_cons_self)
    rw [List.cons_append, timesIn_cons_later hx, ih fun hc => h (List.mem_cons_of_mem _ hc)]

/-- A character that the mark does not have parts its places. -/
theorem timesIn_append_cons {c : Char} (hmark : mark ≠ []) (hc : c ∉ mark)
    (front back : List Char) :
    timesIn mark (front ++ c :: back) = timesIn mark front + timesIn mark back := by
  induction front with
  | nil =>
    have hhere : ¬ mark <+: c :: back := fun hbegins =>
      hmark (List.prefix_nil.1 (prefix_of_prefix_append_cons [] hc hbegins))
    rw [List.nil_append, timesIn_cons_later hhere, timesIn, Nat.zero_add]
  | cons x front ih =>
    by_cases hbegins : mark <+: x :: front
    · have hmore : mark <+: x :: (front ++ c :: back) :=
        hbegins.trans (List.prefix_append (x :: front) _)
      rw [List.cons_append, timesIn_cons_here hmore, timesIn_cons_here hbegins, ih]
      omega
    · have hmore : ¬ mark <+: x :: (front ++ c :: back) := fun hmore =>
        hbegins (prefix_of_prefix_append_cons (x :: front) hc hmore)
      rw [List.cons_append, timesIn_cons_later hmore, timesIn_cons_later hbegins, ih]

/-- No mark ends in a part without the mark's last character. -/
theorem timesIn_append_of_getLast? {c : Char} (hmark : mark.getLast? = some c) (h : c ∉ back)
    (front : List Char) : timesIn mark (front ++ back) = timesIn mark front := by
  have hends (front : List Char) (hbegins : mark <+: front ++ back) : mark <+: front := by
    rcases List.prefix_or_prefix_of_prefix hbegins (List.prefix_append front back) with
      hfront | ⟨more, rfl⟩
    · exact hfront
    · rcases List.eq_nil_or_concat more with rfl | ⟨others, x, rfl⟩
      · simp
      · obtain rfl : x = c := by simpa using hmark
        have hmore := (List.prefix_append_right_inj front).1 hbegins
        exact (h (hmore.subset (by simp))).elim
  induction front with
  | nil =>
    clear hends
    induction back with
    | nil => rfl
    | cons x back ih =>
      have hx : ¬ mark <+: x :: back := fun hbegins =>
        h (hbegins.subset (List.mem_of_getLast? hmark))
      rw [List.nil_append] at ih ⊢
      rw [timesIn_cons_later hx, ih fun hc => h (List.mem_cons_of_mem _ hc)]
  | cons x front ih =>
    by_cases hbegins : mark <+: x :: front
    · have hmore : mark <+: x :: (front ++ back) :=
        hbegins.trans (List.prefix_append (x :: front) _)
      rw [List.cons_append, timesIn_cons_here hmore, timesIn_cons_here hbegins, ih]
    · have hmore : ¬ mark <+: x :: (front ++ back) := fun hmore =>
        hbegins (hends (x :: front) hmore)
      rw [List.cons_append, timesIn_cons_later hmore, timesIn_cons_later hbegins, ih]

theorem splitAt?_eq_none (h : timesIn mark text = 0) (hmark : mark ≠ []) :
    splitAt? mark text = none := by
  induction text with
  | nil => rw [splitAt?, if_neg (by simpa using hmark)]
  | cons c text ih =>
    by_cases hbegins : mark <+: c :: text
    · rw [timesIn_cons_here hbegins] at h
      cases h
    · rw [timesIn_cons_later hbegins] at h
      rw [splitAt?_cons_later hbegins, ih h, Option.map_none]

/-- A text that has a mark can be cut at the first place of it. -/
theorem exists_of_timesIn_ne_zero (h : timesIn mark text ≠ 0) :
    ∃ front back, text = front ++ (mark ++ back) ∧ timesIn mark front = 0 := by
  induction text with
  | nil => exact (h rfl).elim
  | cons x text ih =>
    by_cases hbegins : mark <+: x :: text
    · obtain ⟨back, hback⟩ := hbegins
      exact ⟨[], back, hback.symm, rfl⟩
    · rw [timesIn_cons_later hbegins] at h
      obtain ⟨front, back, rfl, hfront⟩ := ih h
      have hnone : ¬ mark <+: x :: front := fun hshort =>
        hbegins (hshort.trans (List.prefix_append (x :: front) _))
      exact ⟨x :: front, back, rfl, by rw [timesIn_cons_later hnone, hfront]⟩

section Once

variable {c : Char} (hc : c ∉ mark)
include hc

/-- A mark whose first character stands nowhere else in it does not overlap with itself. -/
theorem prefix_of_prefix_append_mark (front : List Char)
    (h : c :: mark <+: front ++ (c :: mark ++ back)) (hfront : front ≠ []) : c :: mark <+: front := by
  obtain ⟨x, front, rfl⟩ := List.exists_cons_of_ne_nil hfront
  obtain ⟨rfl, hrest⟩ := List.cons_prefix_cons.1 h
  have hrest : mark <+: front ++ c :: (mark ++ back) := hrest
  exact List.cons_prefix_cons.2 ⟨rfl, prefix_of_prefix_append_cons front hc hrest⟩

theorem timesIn_append_mark (front back : List Char) :
    timesIn (c :: mark) (front ++ (c :: mark ++ back)) =
      timesIn (c :: mark) front + timesIn (c :: mark) back + 1 := by
  induction front with
  | nil =>
    have hhere : c :: mark <+: c :: (mark ++ back) := ⟨back, rfl⟩
    rw [List.nil_append, List.cons_append, timesIn_cons_here hhere, timesIn_append_of_not_mem hc,
      timesIn, Nat.zero_add]
  | cons x front ih =>
    by_cases hbegins : c :: mark <+: x :: front
    · have hmore : c :: mark <+: x :: (front ++ (c :: mark ++ back)) :=
        hbegins.trans (List.prefix_append (x :: front) _)
      rw [List.cons_append, timesIn_cons_here hmore, timesIn_cons_here hbegins, ih]
      omega
    · have hmore : ¬ c :: mark <+: x :: (front ++ (c :: mark ++ back)) := fun hmore =>
        hbegins (prefix_of_prefix_append_mark hc (x :: front) hmore (List.cons_ne_nil _ _))
      rw [List.cons_append, timesIn_cons_later hmore, timesIn_cons_later hbegins, ih]

/-- A text is cut at the first place of the mark. -/
theorem splitAt?_first (h : timesIn (c :: mark) front = 0) (back : List Char) :
    splitAt? (c :: mark) (front ++ (c :: mark ++ back)) = some (front, back) := by
  induction front with
  | nil => exact splitAt?_self c mark back
  | cons x front ih =>
    by_cases hbegins : c :: mark <+: x :: front
    · rw [timesIn_cons_here hbegins] at h
      cases h
    · rw [timesIn_cons_later hbegins] at h
      have hmore : ¬ c :: mark <+: x :: (front ++ (c :: mark ++ back)) := fun hmore =>
        hbegins (prefix_of_prefix_append_mark hc (x :: front) hmore (List.cons_ne_nil _ _))
      rw [List.cons_append, splitAt?_cons_later hmore, ih h]
      rfl

end Once

section Separated

variable {separator : List Char}

/-- A separator and what is behind it have the first mark where it is behind the separator. -/
theorem splitAt?_separator (hmark : mark ≠ []) (h : ∀ c ∈ separator, c ∉ mark)
    (back : List Char) :
    splitAt? mark (separator ++ back) =
      (splitAt? mark back).map fun (front, back) => (separator ++ front, back) := by
  refine splitAt?_append mark separator back fun zs hzs hne hbegins => ?_
  obtain ⟨c, zs, rfl⟩ := List.exists_cons_of_ne_nil hne
  obtain ⟨x, mark, rfl⟩ := List.exists_cons_of_ne_nil hmark
  obtain rfl : x = c := (List.cons_prefix_cons.1 hbegins).1
  exact h x (hzs.subset List.mem_cons_self) List.mem_cons_self

/-- The first mark of a text is in front of a separator, or it is the first behind it. -/
theorem splitAt?_separated (hmark : mark ≠ []) (hseparator : separator ≠ [])
    (h : ∀ c ∈ separator, c ∉ mark) (front back : List Char) :
    splitAt? mark (front ++ (separator ++ back)) =
      match splitAt? mark front with
      | some (before, after) => some (before, after ++ (separator ++ back))
      | none => (splitAt? mark back).map fun (before, after) =>
        (front ++ (separator ++ before), after) := by
  induction front with
  | nil =>
    have hnil : splitAt? mark [] = none := by
      rw [splitAt?, if_neg (by simpa using hmark)]
    rw [hnil]
    exact splitAt?_separator hmark h back
  | cons x front ih =>
    rw [List.cons_append]
    by_cases hbegins : mark <+: x :: front
    · have hmore : mark <+: x :: (front ++ (separator ++ back)) :=
        hbegins.trans (List.prefix_append _ _)
      rw [splitAt?_cons_here hbegins, splitAt?_cons_here hmore, ← List.cons_append,
        List.drop_append_of_le_length hbegins.length_le]
    · have hmore : ¬ mark <+: x :: (front ++ (separator ++ back)) := by
        obtain ⟨c, others, rfl⟩ := List.exists_cons_of_ne_nil hseparator
        intro hmore
        have hmore : mark <+: (x :: front) ++ c :: (others ++ back) := hmore
        exact hbegins (prefix_of_prefix_append_cons _ (h c List.mem_cons_self) hmore)
      rw [splitAt?_cons_later hbegins, splitAt?_cons_later hmore, ih]
      cases splitAt? mark front with
      | some parts => rfl
      | none => exact Option.map_map _ _ _

/-- The text with `replacement` for the first `mark` in it, unless one stands in `front`. -/
def replaceBehind (mark replacement front back : List Char) : List Char :=
  if (splitAt? mark front).isSome then back else replaceFirst mark replacement back

/-- What is put in the place of the first mark changes one side of a separator, and which side does
not depend on the separator. -/
theorem replaceFirst_separated (hmark : mark ≠ []) (hseparator : separator ≠ [])
    (h : ∀ c ∈ separator, c ∉ mark) (replacement front back : List Char) :
    replaceFirst mark replacement (front ++ (separator ++ back)) =
      replaceFirst mark replacement front ++
        (separator ++ replaceBehind mark replacement front back) := by
  rw [replaceFirst, replaceFirst, replaceBehind, splitAt?_separated hmark hseparator h]
  cases splitAt? mark front with
  | some parts => simp
  | none =>
    rw [replaceFirst]
    cases splitAt? mark back with
    | some parts => simp
    | none => simp

end Separated

end Lapse.Text
