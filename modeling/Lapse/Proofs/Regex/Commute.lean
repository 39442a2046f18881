import Lapse.Proofs.Regex.Dissolve
import Lapse.Proofs.Regex.Invariant

/-!
# Changes that the reader carries through

A change of the reader's state that goes along with each of its few operations goes along with the
reading of a whole pattern. Dissolving a group that has begun is such a change.
-/
namespace Lapse.Regex

namespace Reader

/-- A change of states that goes along with everything the reader does to a state with the property
`I`. -/
structure Commutes (I : State → Prop) (F : State → State) : Prop where
  flags (s : State) : (F s).flags = s.flags
  names (s : State) : (F s).names = s.names
  push (s : State) {item : Item} (hitem : item.regex.groups = []) :
    (F s).push item = F (s.push item)
  setFlags (s : State) (flags : Flags) : { F s with flags } = F { s with flags }
  enter (s : State) (flags : Flags) : (F s).enter none flags = F (s.enter none flags)
  enterCapture {s : State} (h : I s) (name : Option String) :
    (F s).enterCapture name = F (s.enterCapture name)
  leave (s : State) : (F s).leave? = s.leave?.map F
  repeatLast (s : State) (least : Nat) (most : Option Nat) (greedy : Bool) :
    (F s).repeatLast? least most greedy = (s.repeatLast? least most greedy).map F
  split (s : State) : { F s with level := (F s).level.split } = F { s with level := s.level.split }

/-- What is read after the change is what is read before it, changed. -/
def Through (F : State → State) (x y : Option (State × List Char)) : Prop :=
  y = x.map fun r => (F r.1, r.2)

section Through

variable {F : State → State}

theorem Through.eq {x y : Option (State × List Char)} (h : Through F x y) :
    y = x.map fun r => (F r.1, r.2) := h

theorem Through.none : Through F none none := rfl

theorem Through.some {s t : State} (h : t = F s) (rest : List Char) :
    Through F (some (s, rest)) (some (t, rest)) := by
  rw [h]
  rfl

theorem Through.ite {c : Prop} [Decidable c] {x x' y y' : Option (State × List Char)}
    (hpos : c → Through F x y) (hneg : ¬ c → Through F x' y') :
    Through F (if c then x else x') (if c then y else y') := by
  split
  · next h => exact hpos h
  · next h => exact hneg h

theorem Through.bind {α : Type} {x : Option α} {f g : α → Option (State × List Char)}
    (h : ∀ a, x = Option.some a → Through F (f a) (g a)) :
    Through F (x.bind f) (x.bind g) := by
  cases x with
  | none => rfl
  | some a => exact h a rfl

theorem Through.map {α : Type} {x : Option α} {f g : α → State} {rest : α → List Char}
    (h : ∀ a, x = Option.some a → g a = F (f a)) :
    Through F (x.map fun a => (f a, rest a)) (x.map fun a => (g a, rest a)) := by
  cases x with
  | none => rfl
  | some a => exact .some (h a rfl) _

/-- What is done to the state comes first. -/
theorem Through.mapState {x y : Option State} (h : y = x.map F) (rest : List Char) :
    Through F (x.map fun s => (s, rest)) (y.map fun s => (s, rest)) := by
  rw [h]
  cases x <;> rfl

end Through

namespace Commutes

variable {I : State → Prop} {F : State → State} {s : State}

theorem readNamedGroup? (hF : Commutes I F) (h : I s) (text : List Char) :
    Through F (readNamedGroup? s text) (readNamedGroup? (F s) text) := by
  refine .bind fun ⟨name, rest⟩ _ => ?_
  rw [hF.names]
  exact .ite (fun _ => .none) fun _ => .some (hF.enterCapture h _) _

theorem readFlagGroup? (hF : Commutes I F) (text : List Char) :
    Through F (readFlagGroup? s text) (readFlagGroup? (F s) text) := by
  refine .bind fun ⟨signs, stop, rest⟩ _ => .ite (fun _ => .none) fun _ => ?_
  rw [hF.flags]
  refine .ite (fun _ => .some (hF.enter s _) _) fun _ => .ite (fun _ => .none) fun _ => ?_
  refine .some ?_ _
  rw [hF.setFlags, hF.push _ rfl]

theorem readMarked? (hF : Commutes I F) (h : I s) (text : List Char) :
    Through F (readMarked? s text) (readMarked? (F s) text) := by
  unfold Reader.readMarked?
  split
  · exact hF.readNamedGroup? h _
  · exact .none
  · exact .none
  · exact hF.readNamedGroup? h _
  · exact hF.readFlagGroup? _

theorem readGroup? (hF : Commutes I F) (h : I s) (text : List Char) :
    Through F (readGroup? s text) (readGroup? (F s) text) := by
  have hplain := hF.enterCapture h none
  cases hskip : skip s.flags text with
  | nil =>
    rw [readGroup?_of_nil hskip, readGroup?_of_nil ((hF.flags s).symm ▸ hskip)]
    exact .some hplain _
  | cons c rest =>
    by_cases hc : c = '?'
    · subst hc
      rw [readGroup?_of_mark hskip, readGroup?_of_mark ((hF.flags s).symm ▸ hskip)]
      exact hF.readMarked? h rest
    · rw [readGroup?_of_ne hskip hc, readGroup?_of_ne ((hF.flags s).symm ▸ hskip) hc]
      exact .some hplain _

theorem readCounted? (hF : Commutes I F) (text : List Char) :
    Through F (readCounted? s text) (readCounted? (F s) text) := by
  rw [Reader.readCounted?, Reader.readCounted?, hF.flags]
  refine .bind fun ⟨least, most, rest⟩ _ => ?_
  dsimp only
  rw [hF.repeatLast]
  cases s.repeatLast? least most (readGreed (skip s.flags rest)).1 <;> rfl

/-- One step after the change. -/
theorem step? (hF : Commutes I F) (h : I s) (text : List Char) :
    Through F (step? s text) (step? (F s) text) := by
  cases text with
  | nil => exact .none
  | cons c text =>
    rw [Reader.step?, Reader.step?, hF.flags]
    refine .ite (fun _ => hF.readGroup? h text) fun _ => ?_
    refine .ite (fun _ => .mapState (hF.leave s) _) fun _ => ?_
    refine .ite (fun _ => .some (hF.flags s ▸ hF.split s) _) fun _ => ?_
    refine .ite (fun _ => .map fun _ _ => hF.push s rfl) fun _ => ?_
    iterate 3 refine .ite (fun _ => .mapState (hF.repeatLast s _ _ _) _) fun _ => ?_
    refine .ite (fun _ => hF.readCounted? text) fun _ => ?_
    refine .ite (fun _ => .bind fun x _ => .bind fun regex hregex => ?_) fun _ => ?_
    · exact .some (hF.push s (groups_primitiveRegex? hregex)) _
    refine .ite (fun _ => .map fun _ _ => hF.push s rfl) fun _ => ?_
    iterate 2 refine .ite (fun _ => .some (hF.push s rfl) _) fun _ => ?_
    exact .map fun regex hregex => hF.push s (groups_primitiveRegex? hregex)

/-- A whole text after the change. The induction follows the reader's steps. -/
theorem read? (hF : Commutes I F) (hI : Preserved I) (h : I s) (text : List Char) :
    read? (F s) text = (read? s text).map F := by
  fun_induction Reader.read? s text with
  | case1 s text hskip =>
    rw [Reader.read?, hF.flags, hskip]
    rfl
  | case2 s text c rest hskip hstep =>
    have hthrough := (hF.step? h (c :: rest)).eq
    rw [hstep] at hthrough
    rw [Reader.read?, hF.flags, hskip]
    simp only [hthrough, Option.map_none]
  | case3 s text c rest hskip next after hstep hshort ih =>
    have hthrough := (hF.step? h (c :: rest)).eq
    rw [hstep] at hthrough
    rw [Reader.read?, hF.flags, hskip]
    simp only [hthrough, Option.map_some]
    rw [if_pos hshort, ih (hI.step? h _ next after hstep)]
  | case4 s text c rest hskip next after hstep hshort =>
    have hthrough := (hF.step? h (c :: rest)).eq
    rw [hstep] at hthrough
    rw [Reader.read?, hF.flags, hskip]
    simp only [hthrough, Option.map_some]
    exact if_neg hshort

end Commutes

end Reader

theorem dissolve_sequence (k : Nat) (rs : List Regex) :
    (sequence rs).dissolve k = sequence (rs.map (dissolve k)) := by
  induction rs with
  | nil => rfl
  | cons r rs ih =>
    cases rs with
    | nil => rfl
    | cons s rs => exact congrArg (seq (r.dissolve k)) ih

theorem dissolve_choice (k : Nat) (rs : List Regex) :
    (choice rs).dissolve k = choice (rs.map (dissolve k)) := by
  induction rs with
  | nil => rfl
  | cons r rs ih =>
    cases rs with
    | nil => rfl
    | cons s rs => exact congrArg (alt (r.dissolve k)) ih

theorem dissolve_repetition (k : Nat) (a : Regex) (least : Nat) (most : Option Nat)
    (greedy : Bool) :
    (repetition a least most greedy).dissolve k =
      repetition (a.dissolve k) least most greedy := by
  simp only [repetition, takesNothing_dissolve]
  generalize (if a.takesNothing = true then (min least 1, some (min (most.getD 1) 1))
    else (least, most)) = bounds
  split
  · rfl
  · split
    · rfl
    · rfl

namespace Reader

def Item.dissolve (k : Nat) (item : Item) : Item := { item with regex := item.regex.dissolve k }

def Level.dissolve (k : Nat) (level : Level) : Level :=
  ⟨level.done.map (Item.dissolve k), level.items.map (Item.dissolve k)⟩

def Opening.dissolve (k : Nat) (opening : Opening) : Opening :=
  { opening with capture := opening.capture.bind fun capture =>
      if capture.1 = k then none else some (renumber k capture.1, capture.2) }

/-- The state in which the group `k` has begun as one that does not capture. -/
def State.dissolve (k : Nat) (s : State) : State :=
  { s with
    captures := s.captures - 1
    level := s.level.dissolve k
    outer := s.outer.map fun parent => (parent.1.dissolve k, parent.2.dissolve k) }

theorem map_regex_dissolve (k : Nat) (items : List Item) :
    (items.map (Item.dissolve k)).map (·.regex) =
      (items.map (·.regex)).map (Regex.dissolve k) := by
  rw [List.map_map, List.map_map]
  rfl

theorem map_height_dissolve (k : Nat) (items : List Item) :
    (items.map (Item.dissolve k)).map (·.height) = items.map (·.height) := by
  rw [List.map_map]
  rfl

theorem Item.dissolve_eq_self {k : Nat} {item : Item} (h : ∀ g ∈ item.regex.groups, g.1 < k) :
    item.dissolve k = item := by
  rw [Item.dissolve, Regex.dissolve_eq_self h]

namespace Level

variable (k : Nat) (level : Level)

theorem dissolve_push (item : Item) :
    (level.push item).dissolve k = (level.dissolve k).push (item.dissolve k) := rfl

theorem dissolve_current : (level.dissolve k).current = level.current.dissolve k := by
  obtain ⟨done, _ | ⟨x, _ | ⟨y, items⟩⟩⟩ := level
  · rfl
  · rfl
  · have hparts := map_regex_dissolve k (x :: y :: items).reverse
    have hheights := map_height_dissolve k (x :: y :: items)
    rw [List.map_reverse] at hparts
    calc (dissolve k ⟨done, x :: y :: items⟩).current
      _ = ⟨sequence (((x :: y :: items).map (Item.dissolve k)).reverse.map (·.regex)),
          (((x :: y :: items).map (Item.dissolve k)).map (·.height)).foldl max 0 + 1, true⟩ := rfl
      _ = ⟨(sequence ((x :: y :: items).reverse.map (·.regex))).dissolve k,
          ((x :: y :: items).map (·.height)).foldl max 0 + 1, true⟩ := by
        rw [dissolve_sequence, hparts, hheights]
      _ = (current ⟨done, x :: y :: items⟩).dissolve k := rfl

theorem dissolve_split : (level.dissolve k).split = level.split.dissolve k := by
  simp only [split, dissolve_current]
  rfl

theorem dissolve_close : (level.dissolve k).close = level.close.dissolve k := by
  obtain ⟨_ | ⟨x, done⟩, items⟩ := level
  · exact dissolve_current k ⟨[], items⟩
  · have hcurrent := dissolve_current k ⟨x :: done, items⟩
    generalize hall : current ⟨x :: done, items⟩ :: x :: done = all
    have hparts := map_regex_dissolve k all.reverse
    have hheights := map_height_dissolve k all.reverse
    rw [List.map_reverse] at hparts hheights
    calc (dissolve k ⟨x :: done, items⟩).close
      _ = ⟨choice ((all.map (Item.dissolve k)).reverse.map (·.regex)),
          ((all.map (Item.dissolve k)).reverse.map (·.height)).foldl max 0 + 1, true⟩ := by
        rw [← hall, List.map_cons, ← hcurrent]
        rfl
      _ = ⟨(choice (all.reverse.map (·.regex))).dissolve k,
          (all.reverse.map (·.height)).foldl max 0 + 1, true⟩ := by
        rw [dissolve_choice, hparts, hheights]
      _ = (close ⟨x :: done, items⟩).dissolve k := by
        rw [← hall]
        rfl

end Level

theorem Opening.dissolve_wrap (k : Nat) (opening : Opening) (inner : Item) :
    (opening.dissolve k).wrap (inner.dissolve k) = (opening.wrap inner).dissolve k := by
  obtain ⟨_ | ⟨index, name⟩, flags⟩ := opening
  · rfl
  · by_cases h : index = k
    · simp [dissolve, wrap, Item.dissolve, Regex.dissolve, h]
    · simp [dissolve, wrap, Item.dissolve, Regex.dissolve, h]

theorem Item.dissolve_repeatedBy (k : Nat) (item : Item) (least : Nat) (most : Option Nat)
    (greedy : Bool) :
    (item.dissolve k).repeatedBy least most greedy =
      (item.repeatedBy least most greedy).dissolve k := by
  simp only [Item.dissolve, Item.repeatedBy, dissolve_repetition]

namespace State

variable {k : Nat}

theorem leave?_dissolve (k : Nat) (s : State) :
    (s.dissolve k).leave? = s.leave?.map (State.dissolve k) := by
  cases houter : s.outer with
  | nil => simp [leave?, dissolve, houter]
  | cons parent outer =>
    obtain ⟨level, opening⟩ := parent
    have hdissolved : (s.dissolve k).outer = (level.dissolve k, opening.dissolve k) ::
        outer.map fun parent => (parent.1.dissolve k, parent.2.dissolve k) := by
      rw [State.dissolve, houter]
      rfl
    rw [leave?_of_outer houter, leave?_of_outer hdissolved]
    simp only [Option.map_some, State.dissolve, Level.dissolve_close, Opening.dissolve_wrap,
      Level.dissolve_push]
    rfl

theorem repeatLast?_dissolve (k : Nat) (s : State) (least : Nat) (most : Option Nat)
    (greedy : Bool) :
    (s.dissolve k).repeatLast? least most greedy =
      (s.repeatLast? least most greedy).map (State.dissolve k) := by
  cases hitems : s.level.items with
  | nil => simp [repeatLast?, popRepeatable?, State.dissolve, Level.dissolve, hitems]
  | cons item items =>
    have hdissolved : (s.dissolve k).level.items =
        item.dissolve k :: items.map (Item.dissolve k) := by
      rw [State.dissolve, Level.dissolve, hitems, List.map_cons]
    by_cases hitem : item.repeatable
    · have hsame : (item.dissolve k).repeatable := hitem
      rw [repeatLast?_of_items hitems hitem, repeatLast?_of_items hdissolved hsame,
        Item.dissolve_repeatedBy]
      rfl
    · simp [repeatLast?, popRepeatable?, hdissolved, hitems, Item.dissolve, hitem]

theorem enterCapture_dissolve (hk : 0 < k) {s : State} (h : k ≤ s.captures)
    (name : Option String) :
    (s.dissolve k).enterCapture name = (s.enterCapture name).dissolve k := by
  have hcaptures : s.captures - 1 + 1 = s.captures := by omega
  have hne : s.captures + 1 ≠ k := by omega
  have hrenumber : renumber k (s.captures + 1) = s.captures := if_pos (by omega)
  simp [enterCapture, enter, State.dissolve, Level.dissolve, Opening.dissolve, Level.new, hcaptures,
    hne, hrenumber]

end State

/-- Dissolving a group that has begun goes along with the reader. -/
theorem commutes_dissolve {k : Nat} (hk : 0 < k) :
    Commutes (fun s => k ≤ s.captures) (State.dissolve k) where
  flags _ := rfl
  names _ := rfl
  push s item hitem := by
    rw [State.push, State.push, State.dissolve, State.dissolve, Level.dissolve_push,
      Item.dissolve_eq_self (by simp [hitem])]
  setFlags _ _ := rfl
  enter _ _ := rfl
  enterCapture h name := State.enterCapture_dissolve hk h name
  leave s := State.leave?_dissolve k s
  repeatLast s least most greedy := State.repeatLast?_dissolve k s least most greedy
  split s := by
    simp only [State.dissolve, Level.dissolve_split]

/-- A pattern whose group `k` has begun is read without that group when it has not begun as one. -/
theorem finish?_dissolve (k : Nat) (s : State) :
    (s.dissolve k).finish? = s.finish?.map (Regex.dissolve k) := by
  obtain ⟨flags, captures, names, level, _ | ⟨parent, outer⟩⟩ := s
  · simp only [State.finish?, State.dissolve, List.map_nil, Level.dissolve_close, Item.dissolve]
    by_cases h : level.close.height ≤ heightLimit
    · rw [if_pos h, if_pos h]
      rfl
    · rw [if_neg h, if_neg h]
      rfl
  · rfl

end Reader

end Lapse.Regex
