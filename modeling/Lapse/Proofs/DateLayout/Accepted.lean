import Mathlib.Data.List.SplitBy
import Lapse.Proofs.DateLayout.Cut

/-!
# Which layouts are accepted

A layout is accepted when its letters and numbers are digits and field letters, and each of its
runs of field letters has a length that names a field. The layout is the same when it is cut by
counting bytes: no step ends inside a character, and there are at most as many as characters.
-/
namespace Lapse.DateLayout

/-- The longest runs of equal characters, from left to right. -/
def runs (text : List Char) : List (List Char) := text.splitBy (· == ·)

/-- Field letters stand for a year by two or four, and for a month or day by two. -/
def IsWellSized (run : List Char) : Prop :=
  (run.head? = some 'Y' → run.length = 2 ∨ run.length = 4) ∧
    (run.head? = some 'M' ∨ run.head? = some 'D' → run.length = 2)

instance : DecidablePred IsWellSized := fun _ =>
  inferInstanceAs (Decidable ((_ → _) ∧ (_ → _)))

def illSizedRun? (text : List Char) : Option (List Char) :=
  (runs text).find? fun run => ¬ IsWellSized run

theorem isFieldLetter_of_not_isWellSized {c : Char} {n : Nat}
    (h : ¬ IsWellSized (List.replicate (n + 1) c)) : isFieldLetter c := by
  simp only [IsWellSized, List.replicate_succ, List.head?_cons, Option.some.injEq] at h
  simp only [isFieldLetter, decide_eq_true_eq]
  grind

theorem not_isWellSized_of_runField? {c : Char} {n : Nat} (hletter : isFieldLetter c)
    (h : runField? c (n + 1) = none) : ¬ IsWellSized (List.replicate (n + 1) c) := by
  simp only [IsWellSized, List.replicate_succ, List.head?_cons, List.length_cons,
    List.length_replicate, Option.some.injEq]
  simp only [isFieldLetter, decide_eq_true_eq] at hletter
  simp only [runField?] at h
  grind

theorem runs_replicate_append {c : Char} {after : List Char} (hend : after.head? ≠ some c)
    (n : Nat) :
    runs (List.replicate (n + 1) c ++ after) = List.replicate (n + 1) c :: runs after := by
  have hrun : runs (List.replicate (n + 1) c) = [List.replicate (n + 1) c] :=
    List.splitBy_of_isChain (List.cons_ne_nil _ _)
      (List.isChain_replicate_of_rel _ (beq_self_eq_true c))
  have happ : runs (List.replicate (n + 1) c ++ after) =
      runs (List.replicate (n + 1) c) ++ runs after := by
    refine List.splitBy_append fun x hx y hy => ?_
    obtain rfl : x = c := List.eq_of_mem_replicate (List.mem_of_mem_getLast? hx)
    rw [beq_eq_false_iff_ne]
    rintro rfl
    exact hend hy
  rw [happ, hrun, List.singleton_append]

theorem illSizedRun?_run {c : Char} {after : List Char} (hend : after.head? ≠ some c) (n : Nat) :
    illSizedRun? (List.replicate (n + 1) c ++ after) =
      if IsWellSized (List.replicate (n + 1) c) then illSizedRun? after
      else some (List.replicate (n + 1) c) := by
  rw [illSizedRun?, runs_replicate_append hend, List.find?_cons]
  by_cases h : IsWellSized (List.replicate (n + 1) c)
  · simp [h, illSizedRun?]
  · simp [h]

/-- A character that is no field letter is in no run that matters. -/
theorem illSizedRun?_cons {c : Char} (h : ¬ isFieldLetter c) (rest : List Char) :
    illSizedRun? (c :: rest) = illSizedRun? rest := by
  obtain ⟨n, after, rfl, hend⟩ := exists_eq_replicate_append c rest
  have hwell (n : Nat) : IsWellSized (List.replicate (n + 1) c) :=
    Decidable.not_not.1 fun hill => h (isFieldLetter_of_not_isWellSized hill)
  have hlong : illSizedRun? (List.replicate (n + 1) c ++ after) = illSizedRun? after := by
    rw [illSizedRun?_run hend, if_pos (hwell n)]
  refine Eq.trans hlong ?_
  cases n with
  | zero => rfl
  | succ n => rw [illSizedRun?_run hend, if_pos (hwell n)]

theorem illSizedRun?_of_begins {text rest : List Char} {piece : LayoutPiece}
    (h : Begins text piece rest) : illSizedRun? text = illSizedRun? rest := by
  cases h with
  | yearToken =>
    rw [illSizedRun?_cons (by decide), illSizedRun?_cons (by decide),
      illSizedRun?_cons (by decide), illSizedRun?_cons (by decide)]
  | monthToken => rw [illSizedRun?_cons (by decide), illSizedRun?_cons (by decide)]
  | dayToken => rw [illSizedRun?_cons (by decide), illSizedRun?_cons (by decide)]
  | shortYearToken => rw [illSizedRun?_cons (by decide), illSizedRun?_cons (by decide)]
  | narrowMonthToken => exact illSizedRun?_cons (by decide) _
  | narrowDayToken => exact illSizedRun?_cons (by decide) _
  | digit hdigit =>
    exact illSizedRun?_cons (fun hletter => not_isDigit_of_isFieldLetter hletter hdigit) _
  | yearRun hend => exact (illSizedRun?_run hend 3).trans (if_pos (by decide))
  | shortYearRun hend => exact (illSizedRun?_run hend 1).trans (if_pos (by decide))
  | monthRun hend => exact (illSizedRun?_run hend 1).trans (if_pos (by decide))
  | dayRun hend => exact (illSizedRun?_run hend 1).trans (if_pos (by decide))
  | other hdigit hyear hmonth hday =>
    exact illSizedRun?_cons (by simp [isFieldLetter, hyear, hmonth, hday]) _

/-- A layout is cut unless one of its runs is ill-sized, and the first one is reported. -/
theorem cut_verdict (text : List Char) :
    (illSizedRun? text = none ∧ ∃ pieces, cut text = .ok pieces) ∨
      ∃ run c, illSizedRun? text = some run ∧ run.head? = some c ∧ cut text = .error c := by
  induction hlength : text.length using Nat.strong_induction_on generalizing text with
  | _ length ih =>
  cases text with
  | nil => exact .inl ⟨rfl, [], by rw [cut]⟩
  | cons c rest =>
    rcases begins_or_run c rest with ⟨piece, back, hbegins⟩ | ⟨n, after, heq, hend, hletter, hnone⟩
    · rw [illSizedRun?_of_begins hbegins, cut_of_begins hbegins]
      rcases ih _ (hlength ▸ hbegins.length_lt) back rfl with ⟨hwell, pieces, hcut⟩ | hill
      · exact .inl ⟨hwell, piece :: pieces, by rw [hcut]; rfl⟩
      · obtain ⟨run, letter, hrun, hhead, hcut⟩ := hill
        exact .inr ⟨run, letter, hrun, hhead, by rw [hcut]; rfl⟩
    · refine .inr ⟨List.replicate (n + 1) c, c, ?_, rfl, ?_⟩
      · rw [heq, illSizedRun?_run hend, if_neg (not_isWellSized_of_runField? hletter hnone)]
      · rw [heq, cut_run hletter hend, hnone]

def byteLength (text : List Char) : Nat := (String.ofList text).utf8ByteSize

theorem byteLength_nil : byteLength [] = 0 := by simp [byteLength]

theorem byteLength_cons (c : Char) (text : List Char) :
    byteLength (c :: text) = c.utf8Size + byteLength text := by
  rw [byteLength, String.ofList_cons, String.utf8ByteSize_append, String.utf8ByteSize_singleton]
  rfl

/-- The text behind its first `bytes` bytes, unless these end inside a character. -/
def behindBytes? : (bytes : Nat) → List Char → Option (List Char)
  | 0, text => some text
  | _ + 1, [] => none
  | bytes + 1, c :: text =>
    if c.utf8Size ≤ bytes + 1 then behindBytes? (bytes + 1 - c.utf8Size) text else none

theorem behindBytes?_append (front back : List Char) :
    behindBytes? (byteLength front) (front ++ back) = some back := by
  induction front with
  | nil => rw [byteLength_nil, List.nil_append, behindBytes?]
  | cons c front ih =>
    obtain ⟨n, hn⟩ := Nat.exists_eq_succ_of_ne_zero c.utf8Size_pos.ne'
    have hlength : byteLength (c :: front) = n + byteLength front + 1 := by
      rw [byteLength_cons, hn]
      omega
    have hback : n + byteLength front + 1 - c.utf8Size = byteLength front := by omega
    rw [hlength, List.cons_append, behindBytes?, if_pos (by omega), hback, ih]

/-- The piece that a text begins with and the bytes that it takes, or the letter of a run that
names no field. -/
def firstPiece (c : Char) (rest : List Char) : Except Char (LayoutPiece × Nat) :=
  if c.isDigit then
    match tokens.find? fun token => token.1.isPrefixOf (c :: rest) with
    | some (token, kind) => .ok (.field kind token.length, byteLength token)
    | none => .ok (.literal c, 1)
  else if isFieldLetter c then
    let length := (rest.takeWhile (· = c)).length + 1
    match runField? c length with
    | some kind => .ok (.field kind length, length)
    | none => .error c
  else .ok (.literal c, c.utf8Size)

/-- How a scan ends. -/
inductive ScanResult
  | finished (pieces : Except Char (List LayoutPiece))
  | insideCharacter
  | outOfSteps

/-- Cuts a layout by going forward in bytes; `pieces` stand before the text. -/
def scan : (steps : Nat) → (pieces : List LayoutPiece) → List Char → ScanResult
  | 0, _, _ => .outOfSteps
  | _ + 1, pieces, [] => .finished (.ok pieces)
  | steps + 1, pieces, c :: rest =>
    match firstPiece c rest with
    | .error letter => .finished (.error letter)
    | .ok (piece, bytes) =>
      match behindBytes? bytes (c :: rest) with
      | some back => scan steps (pieces ++ [piece]) back
      | none => .insideCharacter

theorem firstPiece_run {c : Char} {after : List Char} (hletter : isFieldLetter c)
    (hend : after.head? ≠ some c) (n : Nat) :
    firstPiece c (List.replicate n c ++ after) =
      match runField? c (n + 1) with
      | some kind => .ok (.field kind (n + 1), n + 1)
      | none => .error c := by
  rw [firstPiece, if_neg (not_isDigit_of_isFieldLetter hletter), if_pos hletter]
  rw [takeWhile_replicate_append hend, List.length_replicate]

/-- The first piece takes whole characters. -/
theorem firstPiece_of_begins {c : Char} {rest back : List Char} {piece : LayoutPiece}
    (h : Begins (c :: rest) piece back) :
    ∃ front, firstPiece c rest = .ok (piece, byteLength front) ∧ front ++ back = c :: rest := by
  cases h with
  | yearToken => exact ⟨['2', '0', '0', '6'], by simp [firstPiece, tokens], rfl⟩
  | monthToken => exact ⟨['0', '1'], by simp [firstPiece, tokens], rfl⟩
  | dayToken => exact ⟨['0', '2'], by simp [firstPiece, tokens], rfl⟩
  | shortYearToken => exact ⟨['0', '6'], by simp [firstPiece, tokens], rfl⟩
  | narrowMonthToken => exact ⟨['1'], by simp [firstPiece, tokens], rfl⟩
  | narrowDayToken hyear =>
    refine ⟨['2'], ?_, rfl⟩
    rw [firstPiece, if_pos (by decide), find?_tokens_day hyear]
    rfl
  | digit hdigit hone htwo hzero =>
    refine ⟨[c], ?_, rfl⟩
    have hsize : c.utf8Size = 1 := by
      have hlast : c.val ≤ 57 := by simp_all [Char.isDigit]
      exact Char.utf8Size_eq_one_iff.2 (UInt32.le_trans hlast (by decide))
    rw [firstPiece, if_pos hdigit, find?_tokens_eq_none_iff.2 ⟨hone, htwo, hzero⟩,
      byteLength_cons, byteLength_nil, hsize]
  | yearRun hend => exact ⟨['Y', 'Y', 'Y', 'Y'], firstPiece_run rfl hend 3, rfl⟩
  | shortYearRun hend => exact ⟨['Y', 'Y'], firstPiece_run rfl hend 1, rfl⟩
  | monthRun hend => exact ⟨['M', 'M'], firstPiece_run rfl hend 1, rfl⟩
  | dayRun hend => exact ⟨['D', 'D'], firstPiece_run rfl hend 1, rfl⟩
  | other hdigit hyear hmonth hday =>
    refine ⟨[c], ?_, rfl⟩
    rw [firstPiece, if_neg hdigit, if_neg (by simp [isFieldLetter, hyear, hmonth, hday]),
      byteLength_cons, byteLength_nil, Nat.add_zero]

/-- Each step goes to the beginning of a character, and there is one step for each piece. -/
theorem scan_eq {steps : Nat} {text : List Char} (h : text.length < steps)
    (pieces : List LayoutPiece) :
    scan steps pieces text = .finished ((cut text).map (pieces ++ ·)) := by
  induction steps generalizing pieces text with
  | zero => cases h
  | succ steps ih =>
  cases text with
  | nil => simp [scan, cut, Except.map]
  | cons c rest =>
    rcases begins_or_run c rest with ⟨piece, back, hbegins⟩ | ⟨n, after, heq, hend, hletter, hnone⟩
    · obtain ⟨front, hfirst, hsplit⟩ := firstPiece_of_begins hbegins
      have hback : behindBytes? (byteLength front) (c :: rest) = some back := by
        rw [← hsplit, behindBytes?_append]
      have hshort : back.length < steps := by
        have := hbegins.length_lt
        omega
      simp only [scan, hfirst, hback]
      rw [ih hshort, cut_of_begins hbegins]
      cases cut back with
      | error letter => rfl
      | ok others => simp [Except.map]
    · obtain rfl : rest = List.replicate n c ++ after := List.tail_eq_of_cons_eq heq
      simp only [scan, firstPiece_run hletter hend, hnone]
      rw [← List.cons_append, ← List.replicate_succ, cut_run hletter hend, hnone]
      rfl

theorem illSizedRun?_eq_none_iff {text : List Char} :
    illSizedRun? text = none ↔ ∀ run ∈ runs text, IsWellSized run := by
  simp [illSizedRun?]

/-- A letter or number that is neither a digit nor a field letter. -/
def IsStray (c : Char) : Prop :=
  Text.isAlphanumeric c ∧ ¬ c.isDigit ∧ c ≠ 'Y' ∧ c ≠ 'M' ∧ c ≠ 'D'

theorem isUnsupported_iff {c : Char} : isUnsupported c ↔ IsStray c := by
  simp [isUnsupported, isFieldLetter, IsStray, and_assoc]

theorem exists_ofText_eq_ok_iff {text : List Char} :
    (∃ layout, ofText text = .ok layout) ↔
      text.find? isUnsupported = none ∧ illSizedRun? text = none := by
  cases hfind : text.find? isUnsupported with
  | some c => simp [ofText, hfind]
  | none =>
    rcases cut_verdict text with ⟨hwell, pieces, hcut⟩ | ⟨run, c, hill, hhead, hcut⟩
    · simp [ofText, hfind, hcut, hwell, Except.map]
    · simp [ofText, hfind, hcut, hill, Except.map]

theorem ofText_eq_error_iff {text : List Char} {c : Char} :
    ofText text = .error c ↔
      text.find? isUnsupported = some c ∨
        text.find? isUnsupported = none ∧
          ∃ run, illSizedRun? text = some run ∧ run.head? = some c := by
  cases hfind : text.find? isUnsupported with
  | some found => simp [ofText, hfind]
  | none =>
    rcases cut_verdict text with ⟨hwell, pieces, hcut⟩ | ⟨run, letter, hill, hhead, hcut⟩
    · simp [ofText, hfind, hcut, hwell, Except.map]
    · simp [ofText, hfind, hcut, hill, hhead, Except.map]

/-- A layout is accepted when nothing in it is stray and all runs of field letters are well-sized;
the first stray character is reported before any run. Cutting in bytes always ends, between
characters, with the same pieces. -/
theorem ofText_verdict (text : List Char) :
    ((∃ layout, ofText text = .ok layout) ↔
      (∀ c ∈ text, ¬ IsStray c) ∧ ∀ run ∈ runs text, IsWellSized run) ∧
    (∀ c, ofText text = .error c ↔
      (∃ before after, text = before ++ c :: after ∧ IsStray c ∧ ∀ x ∈ before, ¬ IsStray x) ∨
      (∀ x ∈ text, ¬ IsStray x) ∧ ∃ run, illSizedRun? text = some run ∧ run.head? = some c) ∧
    ∀ spare, scan (text.length + 1 + spare) [] text = .finished (cut text) := by
  simp only [← isUnsupported_iff]
  refine ⟨?_, fun c => ?_, fun spare => ?_⟩
  · rw [exists_ofText_eq_ok_iff, illSizedRun?_eq_none_iff, List.find?_eq_none]
  · have hfirst : text.find? isUnsupported = some c ↔
        ∃ before after, text = before ++ c :: after ∧ isUnsupported c ∧
          ∀ x ∈ before, ¬ isUnsupported x := by
      rw [List.find?_eq_some_iff_append]
      grind
    rw [ofText_eq_error_iff, hfirst, List.find?_eq_none]
  · rw [scan_eq (by omega)]
    cases cut text <;> rfl

end Lapse.DateLayout
