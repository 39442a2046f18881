import Mathlib.Data.List.TakeWhile
import Mathlib.Data.Option.Defs
import Lapse.Regex.First

/-!
# The first way through the parts of a pattern

The first outcome of what follows a pattern, for the kinds of patterns that fixed texts, choices
between them, runs of one set and optional parts give.
-/
namespace Lapse.Regex

variable {α β : Type}

namespace Cursor

/-- The place `n` characters further on, or the end of the text. -/
def advance : Cursor → Nat → Cursor
  | p, 0 => p
  | p, n + 1 =>
    match p.after with
    | [] => p
    | c :: rest => (p.past c rest).advance n

theorem advance_succ {p : Cursor} {c : Char} {rest : List Char} (h : p.after = c :: rest)
    (n : Nat) : p.advance (n + 1) = (p.past c rest).advance n := by
  rw [advance, h]

@[simp] theorem after_advance (p : Cursor) (n : Nat) : (p.advance n).after = p.after.drop n := by
  induction n generalizing p with
  | zero => rfl
  | succ n ih =>
    cases h : p.after with
    | nil => simp [advance, h]
    | cons c rest =>
      rw [advance_succ h, ih]
      rfl

theorem position_advance {p : Cursor} {n : Nat} (h : n ≤ p.after.length) :
    (p.advance n).position = p.position + n := by
  induction n generalizing p with
  | zero => rfl
  | succ n ih =>
    cases hafter : p.after with
    | nil => simp [hafter] at h
    | cons c rest =>
      rw [hafter, List.length_cons] at h
      have hposition := ih (p := p.past c rest) (Nat.le_of_succ_le_succ h)
      rw [advance_succ hafter, hposition]
      exact Nat.add_right_comm _ 1 n

theorem text_captureTo_advance {p : Cursor} {n : Nat} (h : n ≤ p.after.length) :
    (p.captureTo (p.advance n)).text = p.after.take n := by
  rw [captureTo, position_advance h, Nat.add_sub_cancel_left]

end Cursor

/-- Whether a text begins with one character of each of the sets. -/
def takes : List CharSet → List Char → Bool
  | [], _ => true
  | _ :: _, [] => false
  | s :: sets, c :: text => s.mem c && takes sets text

theorem length_le_of_takes {sets : List CharSet} {text : List Char} (h : takes sets text) :
    sets.length ≤ text.length := by
  induction sets generalizing text with
  | nil => exact Nat.zero_le _
  | cons s sets ih =>
    cases text with
    | nil => cases h
    | cons c text =>
      rw [takes, Bool.and_eq_true] at h
      exact Nat.succ_le_succ (ih h.2)

theorem ways_sequence_cons (a : Regex) (rest : List Regex) (p : Cursor) :
    (sequence (a :: rest)).ways p = andThen (a.ways p) (sequence rest).ways := by
  cases rest with
  | nil => exact (andThen_stop _).symm
  | cons b rest => rfl

theorem firstOf_sequence_cons (a : Regex) (rest : List Regex) (p : Cursor)
    (k : Cursor → Captures → Option α) (caps : Captures) :
    firstOf ((sequence (a :: rest)).ways p) k caps =
      firstOf (a.ways p) (fun q caps => firstOf ((sequence rest).ways q) k caps) caps := by
  rw [ways_sequence_cons, firstOf_andThen]

theorem firstOf_sets_append (sets : List CharSet) (rest : List Regex) (p : Cursor)
    (k : Cursor → Captures → Option α) (caps : Captures) :
    firstOf ((sequence (sets.map set ++ rest)).ways p) k caps =
      if takes sets p.after then firstOf ((sequence rest).ways (p.advance sets.length)) k caps
      else none := by
  induction sets generalizing p with
  | nil => rfl
  | cons s sets ih =>
    rw [List.map_cons, List.cons_append, firstOf_sequence_cons, ways]
    cases h : p.after with
    | nil => rfl
    | cons c after =>
      simp only [takes, List.length_cons, Cursor.advance_succ h]
      by_cases hc : s.mem c
      · simp only [hc, if_true, Bool.true_and]
        rw [firstOf_here, ih]
        rfl
      · simp [hc, firstOf]

theorem firstOf_sets (sets : List CharSet) (p : Cursor) (k : Cursor → Captures → Option α)
    (caps : Captures) :
    firstOf ((sequence (sets.map set)).ways p) k caps =
      if takes sets p.after then k (p.advance sets.length) caps else none := by
  have hlast : firstOf ((sequence []).ways (p.advance sets.length)) k caps =
      k (p.advance sets.length) caps := firstOf_here _ _ _
  have happ := firstOf_sets_append sets [] p k caps
  rwa [List.append_nil, hlast] at happ

theorem findSome?_cons_eq_or (f : β → Option α) (b : β) (bs : List β) :
    (b :: bs).findSome? f = (f b).or (bs.findSome? f) := by
  rw [List.findSome?_cons]
  cases f b <;> rfl

theorem firstOf_choice (rs : List Regex) (p : Cursor) (k : Cursor → Captures → Option α)
    (caps : Captures) :
    firstOf ((choice rs).ways p) k caps = rs.findSome? fun r => firstOf (r.ways p) k caps := by
  induction rs with
  | nil =>
    rw [choice, ways]
    cases p.after <;> rfl
  | cons r rs ih =>
    cases rs with
    | nil => rw [choice, findSome?_cons_eq_or, List.findSome?_nil, Option.or_none]
    | cons s rs =>
      have happend : (choice (r :: s :: rs)).ways p = r.ways p ++ (choice (s :: rs)).ways p := rfl
      rw [happend, firstOf_append, ih, findSome?_cons_eq_or _ r]

theorem firstOf_group (index : Nat) (name : Option String) (a : Regex) (p : Cursor)
    (k : Cursor → Captures → Option α) (caps : Captures) :
    firstOf ((group index name a).ways p) k caps =
      firstOf (a.ways p) (fun q caps => k q ((index, p.captureTo q) :: caps)) caps := by
  rw [ways, firstOf, firstOf, List.findSome?_map]
  rfl

theorem firstOf_optional (a : Regex) (p : Cursor) (k : Cursor → Captures → Option α)
    (caps : Captures) :
    firstOf ((repeated a 0 (some 1) true).ways p) k caps =
      (firstOf (a.ways p) k caps).or (k p caps) := by
  rw [ways_optional, firstOf_ordered, if_pos rfl]

/-- The numbers up to `n`, the greatest first. -/
def downFrom (n : Nat) : List Nat := (List.range (n + 1)).reverse

theorem downFrom_succ (n : Nat) : downFrom (n + 1) = (downFrom n).map (· + 1) ++ [0] := by
  rw [downFrom, List.range_succ_eq_map, List.reverse_cons, ← List.map_reverse]
  rfl

theorem mem_downFrom {k n : Nat} : k ∈ downFrom n ↔ k ≤ n := by
  rw [downFrom, List.mem_reverse, List.mem_range, Nat.lt_succ_iff]

/-- How many characters of a set a text begins with. -/
def runLength (s : CharSet) (text : List Char) : Nat := (text.takeWhile s.mem).length

theorem firstOf_run (s : CharSet) (p : Cursor) (k : Cursor → Captures → Option α)
    (caps : Captures) :
    firstOf ((repeated (set s) 0 none true).ways p) k caps =
      (downFrom (runLength s p.after)).findSome? fun n => k (p.advance n) caps := by
  have hways (p : Cursor) :
      (repeated (set s) 0 none true).ways p = waysAnyTimes (set s).ways true p := if_pos rfl
  have hstop {p : Cursor} (h : (set s).ways p = []) :
      firstOf ((repeated (set s) 0 none true).ways p) k caps = k p caps := by
    rw [hways, waysAnyTimes_eq (forward_ways _), h]
    exact firstOf_here p k caps
  induction h : p.after generalizing p with
  | nil =>
    rw [hstop (by rw [ways, h])]
    exact ((findSome?_cons_eq_or (fun n => k (p.advance n) caps) 0 []).trans Option.or_none).symm
  | cons c rest ih =>
    by_cases hc : s.mem c
    · have hfirst : (set s).ways p = [(p.past c rest, [])] := by
        rw [ways, h]
        exact if_pos hc
      have hmoved : p.position < (p.past c rest).position := Nat.lt_succ_self _
      rw [hways, waysAnyTimes_eq (forward_ways _), hfirst, firstOf_ordered, if_pos rfl,
        List.filter_cons_of_pos (by simpa using hmoved), List.filter_nil, andThen_here, ← hways,
        ih (p.past c rest) rfl]
      have hlength : runLength s (c :: rest) = runLength s rest + 1 := by
        simp [runLength, hc]
      have hshift : (fun n => k (p.advance n) caps) ∘ (· + 1) =
          fun n => k ((p.past c rest).advance n) caps :=
        funext fun n => congrArg (k · caps) (Cursor.advance_succ h n)
      rw [hlength, downFrom_succ, List.findSome?_append, List.findSome?_map, hshift,
        findSome?_cons_eq_or, List.findSome?_nil, Option.or_none]
      rfl
    · rw [hstop (by rw [ways, h]; exact if_neg hc)]
      simp [runLength, hc, downFrom, Cursor.advance]

/-- A run is as long as it can be when what follows is found there. -/
theorem firstOf_run_of_isSome {s : CharSet} {p : Cursor} {k : Cursor → Captures → Option α}
    {caps : Captures} {a : α} (h : k (p.advance (runLength s p.after)) caps = some a) :
    firstOf ((repeated (set s) 0 none true).ways p) k caps = some a := by
  rw [firstOf_run, downFrom, List.range_succ, List.reverse_append, List.reverse_singleton,
    List.singleton_append, findSome?_cons_eq_or, h]
  rfl

theorem firstOf_some_run_of_nil (s : CharSet) {p : Cursor} (h : p.after = [])
    (k : Cursor → Captures → Option α) (caps : Captures) :
    firstOf ((repeated (set s) 1 none true).ways p) k caps = none := by
  have hnone : (set s).ways p = [] := by rw [ways, h]
  have hways : (repeated (set s) 1 none true).ways p =
      andThen ((set s).ways p) (repeated (set s) 0 none true).ways := andThen_here _ _
  rw [hways, hnone]
  rfl

/-- One character at least: the whole of a text of the set, when what follows is found behind it. -/
theorem firstOf_some_run {s : CharSet} {p : Cursor} {k : Cursor → Captures → Option α}
    {caps : Captures} {a : α} (hne : p.after ≠ []) (hall : ∀ c ∈ p.after, s.mem c)
    (h : k (p.advance p.after.length) caps = some a) :
    firstOf ((repeated (set s) 1 none true).ways p) k caps = some a := by
  have hways : (repeated (set s) 1 none true).ways p =
      andThen ((set s).ways p) (repeated (set s) 0 none true).ways := andThen_here _ _
  rw [hways, firstOf_andThen]
  cases hafter : p.after with
  | nil => exact (hne hafter).elim
  | cons c rest =>
    rw [hafter] at hall h
    have hfirst : (set s).ways p = [(p.past c rest, [])] := by
      rw [ways, hafter]
      exact if_pos (hall c List.mem_cons_self)
    have hrun : runLength s rest = rest.length := by
      rw [runLength, List.takeWhile_eq_self_iff.2 fun c hc => hall c (List.mem_cons_of_mem _ hc)]
    rw [hfirst, firstOf_here]
    refine firstOf_run_of_isSome ?_
    rw [← h, List.length_cons, Cursor.advance_succ hafter]
    exact congrArg (fun n => k ((p.past c rest).advance n) caps) hrun

theorem firstOf_look (l : Look) (p : Cursor) (k : Cursor → Captures → Option α)
    (caps : Captures) :
    firstOf ((look l).ways p) k caps = if l.holds p then k p caps else none := by
  rw [ways]
  split
  · exact firstOf_here p k caps
  · rfl

/-- The match that is found at a place, for a plain pattern, as a first outcome. -/
theorem matchAt?_eq_firstOf {r : Regex} (hr : r.isPlain) (p : Cursor) :
    r.matchAt? p =
      firstOf (r.ways p) (fun q caps => some ((0, p.captureTo q) :: caps)) [] := by
  rw [matchAt?_eq_head? hr, firstOf]
  cases r.ways p <;> simp

theorem rel_or {R : α → β → Prop} {a a' : Option α} {b b' : Option β} (h : Option.Rel R a b)
    (h' : Option.Rel R a' b') : Option.Rel R (a.or a') (b.or b') := by
  cases h with
  | none => exact h'
  | some hab => exact .some hab

/-- Two searches through a list agree when they do so at each member. -/
theorem rel_findSome? {γ : Type} {R : α → β → Prop} {f : γ → Option α} {g : γ → Option β}
    {cs : List γ} (h : ∀ c ∈ cs, Option.Rel R (f c) (g c)) :
    Option.Rel R (cs.findSome? f) (cs.findSome? g) := by
  induction cs with
  | nil => exact .none
  | cons c cs ih =>
    rw [findSome?_cons_eq_or, findSome?_cons_eq_or]
    exact rel_or (h c List.mem_cons_self) (ih fun x hx => h x (List.mem_cons_of_mem _ hx))

theorem searchFrom_cons (r : Regex) (position : Nat) (previous : Option Char) (c : Char)
    (after : List Char) :
    r.searchFrom position previous (c :: after) =
      (r.matchAt? ⟨position, previous, c :: after⟩).or
        (r.searchFrom (position + 1) (some c) after) := by
  rw [searchFrom]
  cases r.matchAt? ⟨position, previous, c :: after⟩ <;> rfl

end Lapse.Regex
