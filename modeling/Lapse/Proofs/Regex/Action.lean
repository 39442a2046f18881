import Lapse.Proofs.Regex.Reading

/-!
# What a step of the reader does

A step of the reader in two parts: what the text says, which depends on the flags alone, and what
that does to the state. Whatever is to be known of all states, or of two runs, follows from the few
things that can be done to a state.
-/
namespace Lapse.Regex.Reader

/-- What a step does to the reader's state. -/
inductive Action
  | push (item : Item)
  | leave
  | split
  | repeatLast (least : Nat) (most : Option Nat) (greedy : Bool)
  /-- Begins a group that does not capture. -/
  | enter (flags : Flags)
  /-- Begins a capturing group. -/
  | capture (name : Option String)
  /-- Sets the flags of the rest of the group. -/
  | turn (flags : Flags)

def Action.run? (s : State) : Action → Option State
  | push item => some (s.push item)
  | leave => s.leave?
  | split => some { s with level := s.level.split }
  | repeatLast least most greedy => s.repeatLast? least most greedy
  | enter flags => some (s.enter none flags)
  | capture name => if name.any s.names.contains then none else some (s.enterCapture name)
  | turn flags => some ({ s with flags }.push ⟨.empty, 0, false⟩)

def namedAction? (text : List Char) : Option (Action × List Char) :=
  (readName? text).map fun x => (.capture (some x.1), x.2)

def flagAction? (flags : Flags) (text : List Char) : Option (Action × List Char) :=
  (readSigns? text).bind fun (signs, stop, rest) =>
    if !signsAllowed signs then none
    else if stop = ':' then some (.enter (flags.apply signs true), rest)
    else if signs.isEmpty then none
    else some (.turn (flags.apply signs true), rest)

def markedAction? (flags : Flags) : List Char → Option (Action × List Char)
  | 'P' :: '<' :: rest => namedAction? rest
  | '<' :: '=' :: _ => none
  | '<' :: '!' :: _ => none
  | '<' :: rest => namedAction? rest
  | text => flagAction? flags text

def groupAction? (flags : Flags) (text : List Char) : Option (Action × List Char) :=
  match skip flags text with
  | '?' :: rest => markedAction? flags rest
  | text => some (.capture none, text)

/-- A repetition, from the character after its sign on. -/
def greedAction (least : Nat) (most : Option Nat) (text : List Char) : Action × List Char :=
  (.repeatLast least most (readGreed text).1, (readGreed text).2)

def countedAction? (flags : Flags) (text : List Char) : Option (Action × List Char) :=
  (readBounds? flags text).map fun (least, most, rest) => greedAction least most (skip flags rest)

def escapeAction? (flags : Flags) (text : List Char) : Option (Action × List Char) :=
  (readEscape? flags text).bind fun x =>
    (primitiveRegex? flags x.1).map fun regex => (.push ⟨regex, 0, true⟩, x.2)

def classAction? (flags : Flags) (text : List Char) : Option (Action × List Char) :=
  (readBracket? flags text).map fun (chars, height, rest) =>
    (.push ⟨.set chars, height, true⟩, rest)

/-- What the text says from the next character on, and the text behind that. -/
def action? (flags : Flags) : List Char → Option (Action × List Char)
  | [] => none
  | c :: rest =>
    let leaf (regex : Regex) : Action := .push ⟨regex, 0, true⟩
    if c = '(' then groupAction? flags rest
    else if c = ')' then some (.leave, rest)
    else if c = '|' then some (.split, rest)
    else if c = '[' then classAction? flags rest
    else if c = '?' then some (greedAction 0 (some 1) rest)
    else if c = '*' then some (greedAction 0 none rest)
    else if c = '+' then some (greedAction 1 none rest)
    else if c = '\x7b' then countedAction? flags rest
    else if c = '\\' then escapeAction? flags rest
    else if c = '.' then (dotSet? flags).map fun chars => (leaf (.set chars), rest)
    else if c = '^' then some (leaf (.look (lineStartLook flags)), rest)
    else if c = '$' then some (leaf (.look (lineStopLook flags)), rest)
    else (primitiveRegex? flags (.literal c false)).map fun regex => (leaf regex, rest)

theorem action?_meta {c : Char} (h : isMeta c) (flags : Flags) (text : List Char) :
    action? flags ('\\' :: c :: text) = some (.push (literal flags c), text) := by
  simp [action?, escapeAction?, readEscape?_meta h, primitiveRegex?_literal, literal]

theorem action?_ordinary {c : Char} (h : ¬ isMeta c) (flags : Flags) (text : List Char) :
    action? flags (c :: text) = some (.push (literal flags c), text) := by
  simp only [isMeta, decide_eq_true_eq, not_or] at h
  obtain ⟨h₁, h₂, h₃, h₄, h₅, h₆, h₇, h₈, h₉, -, h₁₁, -, h₁₃, h₁₄, -⟩ := h
  simp [action?, h₁, h₂, h₃, h₄, h₅, h₆, h₇, h₈, h₉, h₁₁, h₁₃, h₁₄, primitiveRegex?_literal, literal]

/-- The action that the text says is done to the state. -/
def ran (s : State) (x : Option (Action × List Char)) : Option (State × List Char) :=
  x.bind fun (action, rest) => (action.run? s).map fun next => (next, rest)

section Ran

variable (s : State)

theorem ran_ite {c : Prop} [Decidable c] {x y : Option (State × List Char)}
    {x' y' : Option (Action × List Char)} (hpos : c → x = ran s x') (hneg : ¬ c → y = ran s y') :
    (if c then x else y) = ran s (if c then x' else y') := by
  split
  · next h => exact hpos h
  · next h => exact hneg h

theorem ran_bind {α : Type} {x : Option α} {f : α → Option (State × List Char)}
    {g : α → Option (Action × List Char)} (h : ∀ a, f a = ran s (g a)) :
    x.bind f = ran s (x.bind g) := by
  cases x with
  | none => rfl
  | some a => exact h a

theorem readNamedGroup?_eq (text : List Char) :
    readNamedGroup? s text = ran s (namedAction? text) := by
  rw [readNamedGroup?, namedAction?]
  cases readName? text with
  | none => rfl
  | some x =>
    simp only [Option.bind_eq_bind, Option.bind_some, Option.map_some, ran, Action.run?,
      Option.any_some]
    split <;> rfl

theorem readFlagGroup?_eq (text : List Char) :
    readFlagGroup? s text = ran s (flagAction? s.flags text) := by
  refine ran_bind s fun ⟨signs, stop, rest⟩ => ran_ite s (fun _ => rfl) fun _ => ?_
  exact ran_ite s (fun _ => rfl) fun _ => ran_ite s (fun _ => rfl) fun _ => rfl

theorem readMarked?_eq (text : List Char) :
    readMarked? s text = ran s (markedAction? s.flags text) := by
  unfold readMarked?
  split
  · exact readNamedGroup?_eq s _
  · rfl
  · rfl
  · next hequals hbang =>
    rw [markedAction?]
    · exact readNamedGroup?_eq s _
    all_goals assumption
  · next hp hequals hbang hangle =>
    rw [markedAction?]
    · exact readFlagGroup?_eq s text
    all_goals assumption

theorem readGroup?_eq (text : List Char) :
    readGroup? s text = ran s (groupAction? s.flags text) := by
  rw [groupAction?]
  cases hskip : skip s.flags text with
  | nil =>
    rw [readGroup?_of_nil hskip]
    rfl
  | cons c rest =>
    by_cases hc : c = '?'
    · subst hc
      rw [readGroup?_of_mark hskip]
      exact readMarked?_eq s rest
    · rw [readGroup?_of_ne hskip hc]
      split
      · next e => exact absurd (List.cons.inj e).1 hc
      · rfl

theorem readCounted?_eq (text : List Char) :
    readCounted? s text = ran s (countedAction? s.flags text) := by
  rw [readCounted?, countedAction?]
  cases readBounds? s.flags text with
  | none => rfl
  | some x =>
    simp only [Option.bind_eq_bind, Option.bind_some, Option.map_some, ran, greedAction, Action.run?]
    cases s.repeatLast? x.1 x.2.1 (readGreed (skip s.flags x.2.2)).1 <;> rfl

theorem step?_eq (text : List Char) : step? s text = ran s (action? s.flags text) := by
  cases text with
  | nil => rfl
  | cons c rest =>
    rw [step?, action?]
    refine ran_ite s (fun _ => readGroup?_eq s rest) fun _ => ?_
    iterate 2 refine ran_ite s (fun _ => rfl) fun _ => ?_
    refine ran_ite s (fun _ => ?_) fun _ => ?_
    · rw [classAction?]
      cases readBracket? s.flags rest <;> rfl
    iterate 3 refine ran_ite s (fun _ => rfl) fun _ => ?_
    refine ran_ite s (fun _ => readCounted?_eq s rest) fun _ => ?_
    refine ran_ite s (fun _ => ran_bind s fun x => ?_) fun _ => ?_
    · obtain ⟨primitive, after⟩ := x
      simp only
      cases primitiveRegex? s.flags primitive <;> rfl
    refine ran_ite s (fun _ => ?_) fun _ => ?_
    · cases dotSet? s.flags <;> rfl
    iterate 2 refine ran_ite s (fun _ => rfl) fun _ => ?_
    cases primitiveRegex? s.flags (.literal c false) <;> rfl

end Ran

end Lapse.Regex.Reader
