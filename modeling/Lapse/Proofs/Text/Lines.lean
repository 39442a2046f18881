import Mathlib.Data.List.TakeWhile
import Lapse.Text.Lines

/-!
# Where lines begin and end

Text that is made of whole lines can be cut off: what follows has its lines as if it stood alone.
From this the lines of a text are told by what stands around them, and a carriage return before
every line feed does not change them.
-/
namespace Lapse.Text

/-- A text that ends where a line ends. -/
def IsWhole (text : List Char) : Prop := text = [] ∨ text.getLast? = some '\n'

theorem linesFrom_cons (c : Char) (text current : List Char) :
    linesFrom (c :: text) current =
      if c = '\n' then (dropReturn current).reverse :: linesFrom text []
      else linesFrom text (c :: current) := by
  rw [linesFrom]

theorem linesFrom_append (front back current : List Char) :
    linesFrom (front ++ '\n' :: back) current =
      linesFrom (front ++ ['\n']) current ++ lines back := by
  induction front generalizing current with
  | nil =>
    rw [List.nil_append, List.nil_append, linesFrom_cons, linesFrom_cons, if_pos rfl, if_pos rfl]
    rfl
  | cons c front ih =>
    rw [List.cons_append, List.cons_append, linesFrom_cons, linesFrom_cons]
    split
    · rw [ih, List.cons_append]
    · exact ih _

theorem exists_of_isWhole {text : List Char} (h : IsWhole text) :
    text = [] ∨ ∃ front, text = front ++ ['\n'] :=
  h.imp_right fun hlast => List.getLast?_eq_some_iff.1 hlast

theorem lines_append {front : List Char} (h : IsWhole front) (back : List Char) :
    lines (front ++ back) = lines front ++ lines back := by
  rcases exists_of_isWhole h with rfl | ⟨front, rfl⟩
  · rfl
  · rw [List.append_assoc]
    exact linesFrom_append front back []

/-- A line begun, and nothing that ends it. -/
theorem linesFrom_of_not_mem {text : List Char} (h : '\n' ∉ text) (current : List Char) :
    linesFrom text current =
      if text = [] ∧ current = [] then [] else [current.reverse ++ text] := by
  induction text generalizing current with
  | nil => cases current <;> simp [linesFrom]
  | cons c text ih =>
    rw [List.mem_cons, not_or] at h
    rw [linesFrom_cons, if_neg (Ne.symm h.1), ih h.2]
    simp

theorem lines_of_not_mem {line : List Char} (h : '\n' ∉ line) (hne : line ≠ []) :
    lines line = [line] := by
  rw [lines, linesFrom_of_not_mem h, if_neg (by simp [hne])]
  rfl

/-- A line without the carriage return that belongs to its end. -/
def withoutReturn (line : List Char) : List Char := (dropReturn line.reverse).reverse

theorem linesFrom_line {line : List Char} (h : '\n' ∉ line) (back current : List Char) :
    linesFrom (line ++ '\n' :: back) current =
      (dropReturn (line.reverse ++ current)).reverse :: lines back := by
  induction line generalizing current with
  | nil =>
    rw [List.nil_append, linesFrom_cons, if_pos rfl]
    rfl
  | cons c line ih =>
    rw [List.mem_cons, not_or] at h
    rw [List.cons_append, linesFrom_cons, if_neg (Ne.symm h.1), ih h.2]
    simp

theorem lines_line {line : List Char} (h : '\n' ∉ line) (back : List Char) :
    lines (line ++ '\n' :: back) = withoutReturn line :: lines back := by
  rw [lines, linesFrom_line h, List.append_nil, withoutReturn]

theorem withoutReturn_append (line : List Char) : withoutReturn (line ++ ['\r']) = line := by
  simp [withoutReturn, dropReturn]

theorem withoutReturn_of_getLast?_ne {line : List Char} (h : line.getLast? ≠ some '\r') :
    withoutReturn line = line := by
  rw [withoutReturn, dropReturn]
  · exact List.reverse_reverse line
  · intro rest e
    rw [← List.head?_reverse, e] at h
    exact h rfl

/-- A text is a line feed's first line and the rest, unless it holds no line feed. -/
theorem exists_line_of_mem {text : List Char} (h : '\n' ∈ text) :
    ∃ line back, text = line ++ '\n' :: back ∧ '\n' ∉ line := by
  obtain ⟨line, back, e, hline⟩ := List.eq_append_cons_of_mem h
  exact ⟨line, back, e, hline⟩

theorem length_linesFrom (front current : List Char) :
    (linesFrom (front ++ ['\n']) current).length = (front ++ ['\n']).count '\n' := by
  induction front generalizing current with
  | nil =>
    rw [List.nil_append, linesFrom_cons, if_pos rfl]
    rfl
  | cons c front ih =>
    rw [List.cons_append, linesFrom_cons, List.count_cons]
    by_cases hc : c = '\n'
    · rw [if_pos hc, List.length_cons, ih, hc]
      rfl
    · rw [if_neg hc, ih, if_neg (by simpa using hc), Nat.add_zero]

theorem length_lines {front : List Char} (h : IsWhole front) :
    (lines front).length = front.count '\n' := by
  rcases exists_of_isWhole h with rfl | ⟨front, rfl⟩
  · rfl
  · exact length_linesFrom front []

/-- What ends a line: a line feed, a carriage return and a line feed, or the end of the text behind
a line that is not empty. -/
inductive EndsLine (line : List Char) : (stop back : List Char) → Prop
  | feed (back : List Char) (h : line.getLast? ≠ some '\r') : EndsLine line ['\n'] back
  | returnFeed (back : List Char) : EndsLine line ['\r', '\n'] back
  | stop (h : line ≠ []) : EndsLine line [] []

/-- The line with the number `n` of a text, lines being counted from one. -/
def IsLine (text : List Char) (n : Nat) (line : List Char) : Prop :=
  '\n' ∉ line ∧ ∃ front stop back, text = front ++ (line ++ (stop ++ back)) ∧ IsWhole front ∧
    n = front.count '\n' + 1 ∧ EndsLine line stop back

theorem lines_of_endsLine {line stop back : List Char} (hline : '\n' ∉ line)
    (h : EndsLine line stop back) :
    lines (line ++ (stop ++ back)) = line :: lines back := by
  cases h with
  | feed back h =>
    rw [List.singleton_append, lines_line hline, withoutReturn_of_getLast?_ne h]
  | returnFeed back =>
    have hsplit : line ++ (['\r', '\n'] ++ back) = (line ++ ['\r']) ++ '\n' :: back := by simp
    have hreturn : '\n' ∉ line ++ ['\r'] := by simp [hline]
    rw [hsplit, lines_line hreturn, withoutReturn_append]
  | stop h =>
    rw [List.append_nil, List.append_nil, lines_of_not_mem hline h]
    rfl

theorem exists_endsLine {line : List Char} (h : '\n' ∉ line) (back : List Char) :
    '\n' ∉ withoutReturn line ∧ ∃ stop,
      line ++ '\n' :: back = withoutReturn line ++ (stop ++ back) ∧
        EndsLine (withoutReturn line) stop back := by
  by_cases hreturn : line.getLast? = some '\r'
  · obtain ⟨line, rfl⟩ := List.getLast?_eq_some_iff.1 hreturn
    rw [withoutReturn_append]
    exact ⟨fun hmem => h (List.mem_append_left _ hmem), ['\r', '\n'], by simp, .returnFeed back⟩
  · rw [withoutReturn_of_getLast?_ne hreturn]
    exact ⟨h, ['\n'], by simp, .feed back hreturn⟩

theorem getElem?_lines_iff {text line : List Char} {i : Nat} :
    (lines text)[i]? = some line ↔ IsLine text (i + 1) line := by
  constructor
  · intro h
    -- The lines before the one in question are taken off one after the other.
    induction i generalizing text with
    | zero =>
      by_cases hmem : '\n' ∈ text
      · obtain ⟨first, back, rfl, hfirst⟩ := exists_line_of_mem hmem
        rw [lines_line hfirst] at h
        cases h
        obtain ⟨hline, stop, htext, hstop⟩ := exists_endsLine hfirst back
        exact ⟨hline, [], stop, back, htext, .inl rfl, rfl, hstop⟩
      · cases text with
        | nil => cases h
        | cons c text =>
          rw [lines_of_not_mem hmem (List.cons_ne_nil _ _)] at h
          cases h
          exact ⟨hmem, [], [], [], by simp, .inl rfl, rfl, .stop (List.cons_ne_nil _ _)⟩
    | succ i ih =>
      by_cases hmem : '\n' ∈ text
      · obtain ⟨first, back, rfl, hfirst⟩ := exists_line_of_mem hmem
        rw [lines_line hfirst, List.getElem?_cons_succ] at h
        obtain ⟨hline, front, stop, others, rfl, hfront, hnumber, hstop⟩ := ih h
        refine ⟨hline, first ++ '\n' :: front, stop, others, by simp, ?_, ?_, hstop⟩
        · rcases hfront with rfl | hlast
          · exact .inr (by simp)
          · exact .inr (by simp [List.getLast?_append, List.getLast?_cons, hlast])
        · rw [hnumber, List.count_append, List.count_eq_zero.2 hfirst, List.count_cons_self]
          omega
      · cases text with
        | nil => cases h
        | cons c text =>
          rw [lines_of_not_mem hmem (List.cons_ne_nil _ _)] at h
          cases h
  · rintro ⟨hline, front, stop, back, rfl, hfront, hnumber, hstop⟩
    have hi : i = (lines front).length := by
      rw [length_lines hfront]
      omega
    rw [lines_append hfront, lines_of_endsLine hline hstop, hi,
      List.getElem?_append_right (Nat.le_refl _), Nat.sub_self]
    rfl

theorem mem_numberedLines_iff {text line : List Char} {n : Nat} :
    (n, line) ∈ numberedLines text ↔ IsLine text n line := by
  rw [numberedLines, List.mem_mapIdx]
  constructor
  · rintro ⟨i, hi, e⟩
    cases e
    exact getElem?_lines_iff.1 (List.getElem?_eq_getElem hi)
  · intro h
    obtain ⟨i, rfl⟩ : ∃ i, n = i + 1 := by
      obtain ⟨-, front, -, -, -, -, hn, -⟩ := h
      exact ⟨_, hn⟩
    obtain ⟨hi, e⟩ := List.getElem?_eq_some_iff.1 (getElem?_lines_iff.2 h)
    exact ⟨i, hi, by rw [e]⟩

/-- The lines of a text behind whole lines are counted on from those. -/
theorem numberedLines_append {front : List Char} (h : IsWhole front) (back : List Char) :
    numberedLines (front ++ back) = numberedLines front ++
      (numberedLines back).map fun entry => (entry.1 + front.count '\n', entry.2) := by
  refine List.ext_getElem? fun i => ?_
  rw [numberedLines, lines_append h, List.mapIdx_append, numberedLines, numberedLines,
    List.getElem?_append, List.getElem?_append, List.getElem?_map, List.getElem?_mapIdx,
    List.getElem?_mapIdx, List.getElem?_mapIdx, List.length_mapIdx, length_lines h,
    Option.map_map]
  split
  · rfl
  · refine congrArg (Option.map · _) (funext fun line => ?_)
    exact congrArg (·, line) (Nat.add_right_comm _ _ 1)

/-- A text with a carriage return in front of every line feed. -/
def withReturns (text : List Char) : List Char :=
  text.flatMap fun c => if c = '\n' then ['\r', '\n'] else [c]

theorem linesFrom_withReturns {text current : List Char} (h : '\r' ∉ text)
    (hcurrent : '\r' ∉ current) :
    linesFrom (withReturns text) current = linesFrom text current := by
  induction text generalizing current with
  | nil => rfl
  | cons c text ih =>
    rw [List.mem_cons, not_or] at h
    rw [withReturns, List.flatMap_cons, linesFrom_cons]
    by_cases hc : c = '\n'
    · have hkept : dropReturn current = current := by
        rw [dropReturn]
        rintro rest rfl
        exact hcurrent List.mem_cons_self
      rw [if_pos hc, if_pos hc, hkept, List.cons_append, linesFrom_cons, if_neg (by decide),
        List.singleton_append, linesFrom_cons, if_pos rfl]
      exact congrArg _ (ih h.2 (by simp))
    · rw [if_neg hc, if_neg hc, List.singleton_append, linesFrom_cons, if_neg hc]
      exact ih h.2 (by simp [hcurrent, h.1])

theorem numberedLines_withReturns {text : List Char} (h : '\r' ∉ text) :
    numberedLines (withReturns text) = numberedLines text := by
  rw [numberedLines, lines, linesFrom_withReturns h (by simp)]
  rfl

end Lapse.Text
