import Mathlib.Data.List.TakeWhile
import Lapse.Proofs.DateLayout

/-!
# How a layout is cut

The pieces of a layout by a grammar, without a search for tokens: what a layout can begin with, and
what is behind it. A layout is cut into pieces exactly when the grammar gives these pieces.
-/
namespace Lapse.DateLayout

/-- A layout begins with a piece, and `rest` is behind it. Digits are read as in the date 2 January
2006, the longer year before the day, and a run of letters ends where its letter does. -/
inductive Begins : (layout : List Char) → LayoutPiece → (rest : List Char) → Prop
  | yearToken (rest : List Char) : Begins ('2' :: '0' :: '0' :: '6' :: rest) (.field .year 4) rest
  | monthToken (rest : List Char) : Begins ('0' :: '1' :: rest) (.field .month 2) rest
  | dayToken (rest : List Char) : Begins ('0' :: '2' :: rest) (.field .day 2) rest
  | shortYearToken (rest : List Char) : Begins ('0' :: '6' :: rest) (.field .shortYear 2) rest
  | narrowMonthToken (rest : List Char) : Begins ('1' :: rest) (.field .month 1) rest
  | narrowDayToken {rest : List Char} (hyear : ¬ ['0', '0', '6'] <+: rest) :
      Begins ('2' :: rest) (.field .day 1) rest
  | digit {c : Char} {rest : List Char} (hdigit : c.isDigit) (hone : c ≠ '1') (htwo : c ≠ '2')
      (hzero : c = '0' → ∀ d ∈ rest.head?, d ≠ '1' ∧ d ≠ '2' ∧ d ≠ '6') :
      Begins (c :: rest) (.literal c) rest
  | yearRun {rest : List Char} (hend : rest.head? ≠ some 'Y') :
      Begins ('Y' :: 'Y' :: 'Y' :: 'Y' :: rest) (.field .year 4) rest
  | shortYearRun {rest : List Char} (hend : rest.head? ≠ some 'Y') :
      Begins ('Y' :: 'Y' :: rest) (.field .shortYear 2) rest
  | monthRun {rest : List Char} (hend : rest.head? ≠ some 'M') :
      Begins ('M' :: 'M' :: rest) (.field .month 2) rest
  | dayRun {rest : List Char} (hend : rest.head? ≠ some 'D') :
      Begins ('D' :: 'D' :: rest) (.field .day 2) rest
  | other {c : Char} {rest : List Char} (hdigit : ¬ c.isDigit) (hyear : c ≠ 'Y') (hmonth : c ≠ 'M')
      (hday : c ≠ 'D') : Begins (c :: rest) (.literal c) rest

/-- The pieces of a layout from left to right. -/
inductive CutsInto : (layout : List Char) → List LayoutPiece → Prop
  | done : CutsInto [] []
  | cons {layout rest : List Char} {piece : LayoutPiece} {pieces : List LayoutPiece}
      (hbegins : Begins layout piece rest) (hrest : CutsInto rest pieces) :
      CutsInto layout (piece :: pieces)

theorem find?_tokens_eq_some {text token : List Char} {kind : DateField}
    (h : tokens.find? (fun token => token.1.isPrefixOf text) = some (token, kind)) :
    ∃ rest, Begins text (.field kind token.length) rest := by
  simp only [tokens, List.find?_cons, List.find?_nil] at h
  have hsplit {word : List Char} (h : word.isPrefixOf text = true) : ∃ rest, word ++ rest = text :=
    List.isPrefixOf_iff_prefix.1 h
  split at h
  · next hword =>
    cases h
    obtain ⟨rest, rfl⟩ := hsplit hword
    exact ⟨rest, .yearToken rest⟩
  next hyear =>
  split at h
  · next hword =>
    cases h
    obtain ⟨rest, rfl⟩ := hsplit hword
    exact ⟨rest, .monthToken rest⟩
  split at h
  · next hword =>
    cases h
    obtain ⟨rest, rfl⟩ := hsplit hword
    exact ⟨rest, .dayToken rest⟩
  split at h
  · next hword =>
    cases h
    obtain ⟨rest, rfl⟩ := hsplit hword
    exact ⟨rest, .shortYearToken rest⟩
  split at h
  · next hword =>
    cases h
    obtain ⟨rest, rfl⟩ := hsplit hword
    exact ⟨rest, .narrowMonthToken rest⟩
  split at h
  · next hword =>
    cases h
    obtain ⟨rest, rfl⟩ := hsplit hword
    have hshort : ¬ ['0', '0', '6'] <+: rest := fun hprefix => by
      have hlong : ['2', '0', '0', '6'].isPrefixOf ('2' :: rest) = true :=
        List.isPrefixOf_iff_prefix.2 ((List.prefix_cons_inj '2').2 hprefix)
      exact Bool.false_ne_true (hyear.symm.trans hlong)
    exact ⟨rest, .narrowDayToken hshort⟩
  · cases h

theorem find?_tokens_eq_none_iff {c : Char} {rest : List Char} :
    tokens.find? (fun token => token.1.isPrefixOf (c :: rest)) = none ↔
      c ≠ '1' ∧ c ≠ '2' ∧ (c = '0' → ∀ d ∈ rest.head?, d ≠ '1' ∧ d ≠ '2' ∧ d ≠ '6') := by
  rw [List.find?_eq_none]
  cases rest with
  | nil =>
    simp only [tokens, List.forall_mem_cons, List.isPrefixOf_cons_cons, List.isPrefixOf_nil_left]
    grind
  | cons d rest =>
    simp only [tokens, List.forall_mem_cons, List.isPrefixOf_cons_cons, List.isPrefixOf_nil_left,
      List.head?_cons, Option.mem_some_iff, forall_eq', Bool.and_eq_true, beq_iff_eq]
    grind

theorem find?_tokens_day {rest : List Char} (h : ¬ ['0', '0', '6'] <+: rest) :
    tokens.find? (fun token => token.1.isPrefixOf ('2' :: rest)) = some (['2'], .day) := by
  have hyear : ['0', '0', '6'].isPrefixOf rest = false := by
    rwa [← List.isPrefixOf_iff_prefix, Bool.not_eq_true] at h
  simp [tokens, hyear]

/-- A character, its repetitions, and what is behind them. -/
theorem exists_eq_replicate_append (c : Char) (rest : List Char) :
    ∃ n after, rest = List.replicate n c ++ after ∧ after.head? ≠ some c := by
  refine ⟨(rest.takeWhile (· = c)).length, rest.dropWhile (· = c), ?_, fun hhead => ?_⟩
  · have hall : rest.takeWhile (· = c) = List.replicate (rest.takeWhile (· = c)).length c :=
      List.eq_replicate_of_mem fun x hx => by simpa using List.mem_takeWhile_imp hx
    rw [← hall, List.takeWhile_append_dropWhile]
  · have hfirst := List.head?_dropWhile_not (fun x => decide (x = c)) rest
    simp [hhead] at hfirst

theorem takeWhile_replicate_append {c : Char} {after : List Char} (hend : after.head? ≠ some c)
    (n : Nat) : (List.replicate n c ++ after).takeWhile (· = c) = List.replicate n c := by
  have hafter : after.takeWhile (· = c) = [] := by
    cases after with
    | nil => rfl
    | cons d after => exact List.takeWhile_cons_of_neg (by simpa using hend)
  rw [List.takeWhile_append_of_pos (by simp), hafter, List.append_nil]

theorem not_isDigit_of_isFieldLetter {c : Char} (h : isFieldLetter c) : ¬ c.isDigit := by
  simp only [isFieldLetter, decide_eq_true_eq] at h
  rcases h with rfl | rfl | rfl <;> decide

theorem cut_run {c : Char} {after : List Char} (hletter : isFieldLetter c)
    (hend : after.head? ≠ some c) (n : Nat) :
    cut (List.replicate (n + 1) c ++ after) =
      match runField? c (n + 1) with
      | some kind => (cut after).map (.field kind (n + 1) :: ·)
      | none => .error c := by
  have hrest : (List.replicate n c ++ after).drop n = after := by
    rw [List.drop_left' List.length_replicate]
  rw [List.replicate_succ, List.cons_append, cut,
    if_neg (not_isDigit_of_isFieldLetter hletter), if_pos hletter]
  simp only [takeWhile_replicate_append hend, List.length_replicate]
  cases runField? c (n + 1) with
  | none => rfl
  | some kind => exact congrArg (fun rest => (cut rest).map (.field kind (n + 1) :: ·)) hrest

theorem cut_of_begins {text rest : List Char} {piece : LayoutPiece} (h : Begins text piece rest) :
    cut text = (cut rest).map (piece :: ·) := by
  cases h with
  | yearToken => simp [cut, tokens, List.isPrefixOf]
  | monthToken => simp [cut, tokens]
  | dayToken => simp [cut, tokens]
  | shortYearToken => simp [cut, tokens]
  | narrowMonthToken => simp [cut, tokens]
  | narrowDayToken hyear =>
    rw [cut, if_pos (by decide), find?_tokens_day hyear]
    rfl
  | digit hdigit hone htwo hzero =>
    rw [cut, if_pos hdigit, find?_tokens_eq_none_iff.2 ⟨hone, htwo, hzero⟩]
  | yearRun hend => exact cut_run rfl hend 3
  | shortYearRun hend => exact cut_run rfl hend 1
  | monthRun hend => exact cut_run rfl hend 1
  | dayRun hend => exact cut_run rfl hend 1
  | other hdigit hyear hmonth hday =>
    rw [cut, if_neg hdigit, if_neg (by simp [isFieldLetter, hyear, hmonth, hday])]

/-- A text that is not empty begins with a piece, or with a run that names no field. -/
theorem begins_or_run (c : Char) (rest : List Char) :
    (∃ piece back, Begins (c :: rest) piece back) ∨
      ∃ n after, c :: rest = List.replicate (n + 1) c ++ after ∧ after.head? ≠ some c ∧
        isFieldLetter c ∧ runField? c (n + 1) = none := by
  by_cases hdigit : c.isDigit
  · refine .inl ?_
    cases hfind : tokens.find? (fun token => token.1.isPrefixOf (c :: rest)) with
    | none =>
      obtain ⟨hone, htwo, hzero⟩ := find?_tokens_eq_none_iff.1 hfind
      exact ⟨_, _, .digit hdigit hone htwo hzero⟩
    | some entry =>
      obtain ⟨token, kind⟩ := entry
      obtain ⟨back, hbegins⟩ := find?_tokens_eq_some hfind
      exact ⟨_, _, hbegins⟩
  by_cases hletter : isFieldLetter c
  · obtain ⟨n, after, rfl, hend⟩ := exists_eq_replicate_append c rest
    cases hfield : runField? c (n + 1) with
    | none => exact .inr ⟨n, after, rfl, hend, hletter, hfield⟩
    | some kind =>
      rw [runField?] at hfield
      split at hfield
      · next h =>
        obtain ⟨rfl, h⟩ := h
        obtain rfl : n = 3 := by omega
        exact .inl ⟨_, _, .yearRun hend⟩
      split at hfield
      · next h =>
        obtain ⟨rfl, h⟩ := h
        obtain rfl : n = 1 := by omega
        exact .inl ⟨_, _, .shortYearRun hend⟩
      split at hfield
      · next h =>
        obtain ⟨rfl, h⟩ := h
        obtain rfl : n = 1 := by omega
        exact .inl ⟨_, _, .monthRun hend⟩
      split at hfield
      · next h =>
        obtain ⟨rfl, h⟩ := h
        obtain rfl : n = 1 := by omega
        exact .inl ⟨_, _, .dayRun hend⟩
      · cases hfield
  · simp only [isFieldLetter, decide_eq_true_eq, not_or] at hletter
    exact .inl ⟨_, _, .other hdigit hletter.1 hletter.2.1 hletter.2.2⟩

theorem Begins.length_lt {text rest : List Char} {piece : LayoutPiece}
    (h : Begins text piece rest) : rest.length < text.length := by
  cases h <;> simp +arith

/-- A layout is cut into the pieces that the grammar gives. -/
theorem cut_eq_ok_iff {text : List Char} {pieces : List LayoutPiece} :
    cut text = .ok pieces ↔ CutsInto text pieces := by
  constructor
  · intro h
    induction hlength : text.length using Nat.strong_induction_on generalizing text pieces with
    | _ length ih =>
    cases text with
    | nil =>
      rw [cut] at h
      cases h
      exact .done
    | cons c rest =>
      rcases begins_or_run c rest with ⟨piece, back, hbegins⟩ | ⟨n, after, heq, hend, hletter, hnone⟩
      · rw [cut_of_begins hbegins] at h
        obtain ⟨others, hback, rfl⟩ := eq_ok_of_map h
        exact .cons hbegins (ih _ (hlength ▸ hbegins.length_lt) hback rfl)
      · rw [heq, cut_run hletter hend, hnone] at h
        cases h
  · intro h
    induction h with
    | done => rw [cut]
    | cons hbegins hrest ih =>
      rw [cut_of_begins hbegins, ih]
      rfl

end Lapse.DateLayout
