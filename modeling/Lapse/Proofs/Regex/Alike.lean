import Mathlib.Data.List.Forall2
import Lapse.Proofs.Regex.Action
import Lapse.Proofs.Regex.Case
import Lapse.Proofs.Text.CaseFold
import Lapse.Regex.Search

/-!
# Patterns alike

Two patterns are alike when they differ in how their sets of characters are written only, so that they
match in the same way. Whatever the reader does to a state, it does alike to states that are alike, so
that two texts which say alike things stand for patterns that are alike.
-/
namespace Lapse.Regex

open Text (CaseFold.classOf)

namespace CharSet

/-- Two sets with the same characters. -/
def Alike (a b : CharSet) : Prop := ∀ c, a.mem c = b.mem c

/-- Two sets that are alike when they are matched regardless of case. -/
def FoldAlike (a b : CharSet) : Prop := (fold a).Alike (fold b)

variable {a b c d : CharSet}

@[refl] theorem Alike.refl (a : CharSet) : a.Alike a := fun _ => rfl

theorem Alike.compl (h : a.Alike b) : (compl a).Alike (compl b) := fun x => congrArg not (h x)

theorem Alike.union (h : a.Alike b) (h' : c.Alike d) : (union a c).Alike (union b d) :=
  fun x => congrArg₂ or (h x) (h' x)

theorem Alike.diff (h : a.Alike b) (h' : c.Alike d) : (diff a c).Alike (diff b d) :=
  fun x => congrArg₂ (fun p q => p && !q) (h x) (h' x)

theorem Alike.inter (h : a.Alike b) (h' : c.Alike d) : (inter a c).Alike (inter b d) :=
  fun x => congrArg₂ and (h x) (h' x)

theorem Alike.foldAlike (h : a.Alike b) : a.FoldAlike b :=
  fun x => congrArg (CaseFold.classOf x).any (funext h)

@[refl] theorem FoldAlike.refl (a : CharSet) : a.FoldAlike a := (Alike.refl a).foldAlike

theorem FoldAlike.union (h : a.FoldAlike b) (h' : c.FoldAlike d) :
    (CharSet.union a c).FoldAlike (CharSet.union b d) := by
  have hor (s t : CharSet) (x : Char) : (CharSet.fold (CharSet.union s t)).mem x =
      ((CharSet.fold s).mem x || (CharSet.fold t).mem x) := by
    rw [mem, mem, mem, Bool.eq_iff_iff, Bool.or_eq_true]
    simp only [List.any_eq_true, mem, Bool.or_eq_true, and_or_left, exists_or]
  exact fun x => by rw [hor, hor, h x, h' x]

theorem foldAlike_singleton {x y : Char} (h : x.toLower = y.toLower) :
    (singleton x).FoldAlike (singleton y) := by
  intro z
  have hmem (c : Char) : (fold (singleton c)).mem z = decide (c ∈ Text.CaseFold.classOf z) := by
    rw [mem, Bool.eq_iff_iff, decide_eq_true_iff, List.any_eq_true]
    simp
  rw [hmem, hmem, decide_eq_decide]
  exact Text.CaseFold.mem_classOf_iff h z

end CharSet

/-- Two patterns of one shape whose sets are alike. -/
inductive Alike : Regex → Regex → Prop
  | empty : Alike .empty .empty
  | set {s t : CharSet} (h : s.Alike t) : Alike (.set s) (.set t)
  | look (l : Look) : Alike (.look l) (.look l)
  | seq {a b a' b' : Regex} (ha : Alike a a') (hb : Alike b b') : Alike (.seq a b) (.seq a' b')
  | alt {a b a' b' : Regex} (ha : Alike a a') (hb : Alike b b') : Alike (.alt a b) (.alt a' b')
  | repeated {a a' : Regex} (least : Nat) (most : Option Nat) (greedy : Bool) (ha : Alike a a') :
    Alike (.repeated a least most greedy) (.repeated a' least most greedy)
  | group {a a' : Regex} (index : Nat) (name : Option String) (ha : Alike a a') :
    Alike (.group index name a) (.group index name a')

namespace Alike

variable {a b : Regex}

@[refl] theorem refl (a : Regex) : a.Alike a := by
  induction a with
  | empty => exact .empty
  | set s => exact .set (.refl s)
  | look l => exact .look l
  | seq a b ha hb => exact .seq ha hb
  | alt a b ha hb => exact .alt ha hb
  | repeated a least most greedy ha => exact .repeated least most greedy ha
  | group index name a ha => exact .group index name ha

theorem takesNothing_eq (h : a.Alike b) : a.takesNothing = b.takesNothing := by
  induction h with
  | empty | set | look => rfl
  | seq _ _ iha ihb | alt _ _ iha ihb => rw [takesNothing, takesNothing, iha, ihb]
  | repeated _ _ _ _ ih | group _ _ _ ih => rw [takesNothing, takesNothing, ih]

theorem consumes_eq (h : a.Alike b) : a.consumes = b.consumes := by
  induction h with
  | empty | set | look => rfl
  | seq _ _ iha ihb | alt _ _ iha ihb => rw [consumes, consumes, iha, ihb]
  | repeated _ _ _ _ ih | group _ _ _ ih => rw [consumes, consumes, ih]

theorem choices_eq (h : a.Alike b) : a.choices = b.choices := by
  induction h with
  | empty | set | look => rfl
  | seq _ _ iha ihb | alt _ _ iha ihb => rw [choices, choices, iha, ihb]
  | repeated least most greedy _ ih =>
    cases most with
    | none => cases least <;> simp only [choices, ih]
    | some most => rw [choices, choices, ih]
  | group _ _ _ ih => rw [choices, choices, ih]

theorem groups_eq (h : a.Alike b) : a.groups = b.groups := by
  induction h with
  | empty | set | look => rfl
  | seq _ _ iha ihb | alt _ _ iha ihb => rw [groups, groups, iha, ihb]
  | repeated _ _ _ _ ih | group _ _ _ ih => rw [groups, groups, ih]

theorem groupIndex?_eq (h : a.Alike b) : a.groupIndex? = b.groupIndex? := by
  funext name
  rw [groupIndex?, groupIndex?, h.groups_eq]

theorem mayStart_eq (h : a.Alike b) : a.mayStart = b.mayStart := by
  funext p
  induction h with
  | empty | look => rfl
  | set h => rw [mayStart, mayStart, funext h]
  | seq _ _ iha _ => rw [mayStart, mayStart, iha]
  | alt _ _ iha ihb => rw [mayStart, mayStart, iha, ihb]
  | repeated _ _ _ _ ih | group _ _ _ ih => rw [mayStart, mayStart, ih]

/-- Patterns that are alike take the same choices in the same order. -/
theorem run_eq {α : Type} (h : a.Alike b) : a.run (α := α) = b.run := by
  induction h with
  | empty | look => rfl
  | set h =>
    funext id k p
    rw [run, run]
    simp only [h _]
  | seq ha _ iha ihb =>
    funext id k
    rw [run, run, iha, ihb, ha.choices_eq]
  | alt ha _ iha ihb =>
    funext id k
    rw [run, run, iha, ihb, ha.choices_eq]
  | repeated least most greedy ha ih =>
    funext id k
    cases most with
    | none =>
      cases least with
      | zero => rw [run, run, ih, ha.consumes_eq]
      | succ least => rw [run, run, ih, ha.choices_eq]
    | some most => rw [run, run, ih, ha.choices_eq]
  | group index name _ ih =>
    funext id k
    rw [run, run, ih]

theorem search?_eq (h : a.Alike b) : a.search? = b.search? := by
  have hmatch : a.matchAt? = b.matchAt? := by
    funext p
    rw [matchAt?, matchAt?, h.mayStart_eq, h.run_eq]
  have hfrom (text : List Char) : ∀ position previous,
      a.searchFrom position previous text = b.searchFrom position previous text := by
    induction text with
    | nil =>
      intro position previous
      rw [searchFrom, searchFrom, hmatch]
    | cons c text ih =>
      intro position previous
      rw [searchFrom, searchFrom, hmatch, ih]
  funext text
  exact hfrom text 0 none

theorem repetition (h : a.Alike b) (least : Nat) (most : Option Nat) (greedy : Bool) :
    (a.repetition least most greedy).Alike (b.repetition least most greedy) := by
  rw [Regex.repetition, Regex.repetition, h.takesNothing_eq]
  split
  split
  · exact .empty
  · split
    · exact h
    · exact .repeated _ _ _ h

theorem sequence {as bs : List Regex} (h : List.Forall₂ Alike as bs) :
    (Regex.sequence as).Alike (Regex.sequence bs) := by
  induction h with
  | nil => exact .empty
  | cons h hrest ih =>
    cases hrest with
    | nil => exact h
    | cons => exact .seq h ih

theorem choice {as bs : List Regex} (h : List.Forall₂ Alike as bs) :
    (Regex.choice as).Alike (Regex.choice bs) := by
  induction h with
  | nil => exact .set (.refl _)
  | cons h hrest ih =>
    cases hrest with
    | nil => exact h
    | cons => exact .alt h ih

end Alike

namespace Reader

section Rel

variable {α β γ δ : Type} {R : α → β → Prop} {S : γ → δ → Prop}

theorem rel_refl {R : α → α → Prop} (h : ∀ a, R a a) (x : Option α) : Option.Rel R x x := by
  cases x with
  | none => exact .none
  | some a => exact .some (h a)

theorem rel_imp {R' : α → β → Prop} {x : Option α} {y : Option β} (h : Option.Rel R x y)
    (hR : ∀ a b, R a b → R' a b) : Option.Rel R' x y := by
  cases h with
  | none => exact .none
  | some h => exact .some (hR _ _ h)

theorem rel_bind {x : Option α} {y : Option β} (h : Option.Rel R x y) {f : α → Option γ}
    {g : β → Option δ} (hfg : ∀ a b, R a b → Option.Rel S (f a) (g b)) :
    Option.Rel S (x.bind f) (y.bind g) := by
  cases h with
  | none => exact .none
  | some h => exact hfg _ _ h

theorem rel_map {x : Option α} {y : Option β} (h : Option.Rel R x y) {f : α → γ} {g : β → δ}
    (hfg : ∀ a b, R a b → S (f a) (g b)) : Option.Rel S (x.map f) (y.map g) := by
  cases h with
  | none => exact .none
  | some h => exact .some (hfg _ _ h)

end Rel

structure Item.Alike (x y : Item) : Prop where
  regex : x.regex.Alike y.regex
  height : x.height = y.height
  repeatable : x.repeatable = y.repeatable

structure Level.Alike (x y : Level) : Prop where
  done : List.Forall₂ Item.Alike x.done y.done
  items : List.Forall₂ Item.Alike x.items y.items

structure State.Alike (s t : State) : Prop where
  flags : s.flags = t.flags
  captures : s.captures = t.captures
  names : s.names = t.names
  level : s.level.Alike t.level
  outer : List.Forall₂ (fun x y => x.1.Alike y.1 ∧ x.2 = y.2) s.outer t.outer

@[refl] theorem Item.Alike.refl (x : Item) : x.Alike x := ⟨.refl _, rfl, rfl⟩

@[refl] theorem Level.Alike.refl (x : Level) : x.Alike x :=
  ⟨List.forall₂_same.2 fun item _ => .refl item, List.forall₂_same.2 fun item _ => .refl item⟩

/-- What the regexes and heights of items say of the sequence or choice of them. -/
theorem heights_eq {xs ys : List Item} (h : List.Forall₂ Item.Alike xs ys) :
    xs.map (·.height) = ys.map (·.height) := by
  induction h with
  | nil => rfl
  | cons h _ ih => rw [List.map_cons, List.map_cons, h.height, ih]

theorem regexes_alike {xs ys : List Item} (h : List.Forall₂ Item.Alike xs ys) :
    List.Forall₂ Regex.Alike (xs.reverse.map (·.regex)) (ys.reverse.map (·.regex)) := by
  rw [List.forall₂_map_left_iff, List.forall₂_map_right_iff, List.forall₂_reverse_iff]
  exact h.imp fun _ _ h => h.regex

namespace Level.Alike

variable {x y : Level}

theorem push (h : x.Alike y) {i j : Item} (hij : i.Alike j) : (x.push i).Alike (y.push j) :=
  ⟨h.done, .cons hij h.items⟩

theorem pushAll (h : x.Alike y) {items items' : List Item}
    (hitems : List.Forall₂ Item.Alike items items') :
    (x.pushAll items).Alike (y.pushAll items') :=
  ⟨h.done, List.rel_append (List.forall₂_reverse_iff.2 hitems) h.items⟩

theorem current (h : x.Alike y) : x.current.Alike y.current := by
  obtain ⟨done, items⟩ := x
  obtain ⟨done', items'⟩ := y
  have hitems : List.Forall₂ Item.Alike items items' := h.items
  cases hitems with
  | nil => exact .refl _
  | cons hfirst hrest =>
    cases hrest with
    | nil => exact hfirst
    | cons hsecond hrest =>
      have hall := List.Forall₂.cons hfirst (.cons hsecond hrest)
      exact ⟨.sequence (regexes_alike hall), congrArg (·.foldl max 0 + 1) (heights_eq hall), rfl⟩

theorem split (h : x.Alike y) : x.split.Alike y.split := ⟨.cons h.current h.done, .nil⟩

theorem close (h : x.Alike y) : x.close.Alike y.close := by
  obtain ⟨done, items⟩ := x
  obtain ⟨done', items'⟩ := y
  have hdone : List.Forall₂ Item.Alike done done' := h.done
  cases hdone with
  | nil => exact h.current
  | cons hfirst hrest =>
    have hall := List.Forall₂.cons h.current (.cons hfirst hrest)
    have hheights := congrArg List.reverse (heights_eq hall)
    simp only [← List.map_reverse] at hheights
    exact ⟨.choice (regexes_alike hall), congrArg (·.foldl max 0 + 1) hheights, rfl⟩

end Level.Alike

theorem Opening.wrap_alike (opening : Opening) {x y : Item} (h : x.Alike y) :
    (opening.wrap x).Alike (opening.wrap y) := by
  obtain ⟨capture, flags⟩ := opening
  refine ⟨?_, congrArg (· + 1) h.height, rfl⟩
  cases capture with
  | none => exact h.regex
  | some c => exact .group c.1 c.2 h.regex

/-- Two actions that differ at most in how the sets of an item are written. -/
inductive Action.Alike : Action → Action → Prop
  | refl (action : Action) : Alike action action
  | push {i j : Item} (h : i.Alike j) : Alike (.push i) (.push j)

namespace State.Alike

variable {s t : State}

theorem push (h : s.Alike t) {i j : Item} (hij : i.Alike j) : (s.push i).Alike (t.push j) :=
  ⟨h.flags, h.captures, h.names, h.level.push hij, h.outer⟩

theorem enter (h : s.Alike t) (capture : Option (Nat × Option String)) (flags : Flags) :
    (s.enter capture flags).Alike (t.enter capture flags) :=
  ⟨rfl, h.captures, h.names, .refl _,
    .cons ⟨h.level, congrArg (Opening.mk capture) h.flags⟩ h.outer⟩

theorem enterCapture (h : s.Alike t) (name : Option String) :
    (s.enterCapture name).Alike (t.enterCapture name) := by
  refine ⟨h.flags, congrArg (· + 1) h.captures, congrArg (name.toList ++ ·) h.names, .refl _,
    .cons ⟨h.level, ?_⟩ h.outer⟩
  show Opening.mk _ s.flags = Opening.mk _ t.flags
  rw [h.captures, h.flags]

theorem leave? (h : s.Alike t) : Option.Rel State.Alike s.leave? t.leave? := by
  have houter := h.outer
  cases hs : s.outer with
  | nil =>
    rw [hs, List.forall₂_nil_left_iff] at houter
    rw [State.leave?, State.leave?, hs, houter]
    exact .none
  | cons parent outer =>
    obtain ⟨level, opening⟩ := parent
    rw [hs, List.forall₂_cons_left_iff] at houter
    obtain ⟨⟨level', _⟩, outer', ⟨hlevel, rfl⟩, hrest, ht⟩ := houter
    rw [State.leave?_of_outer hs, State.leave?_of_outer ht]
    exact .some ⟨rfl, h.captures, h.names, hlevel.push (opening.wrap_alike h.level.close), hrest⟩

theorem repeatLast? (h : s.Alike t) (least : Nat) (most : Option Nat) (greedy : Bool) :
    Option.Rel State.Alike (s.repeatLast? least most greedy) (t.repeatLast? least most greedy) := by
  have hitems := h.level.items
  cases hs : s.level.items with
  | nil =>
    rw [hs, List.forall₂_nil_left_iff] at hitems
    rw [State.repeatLast?, State.repeatLast?, popRepeatable?, popRepeatable?, hs, hitems]
    exact .none
  | cons item items =>
    rw [hs, List.forall₂_cons_left_iff] at hitems
    obtain ⟨item', items', hitem, hrest, ht⟩ := hitems
    cases hrepeatable : item.repeatable with
    | false =>
      have hrepeatable' := hitem.repeatable.symm.trans hrepeatable
      rw [State.repeatLast?, State.repeatLast?, popRepeatable?, popRepeatable?, hs, ht]
      simp only [hrepeatable, hrepeatable']
      exact .none
    | true =>
      rw [State.repeatLast?_of_items hs hrepeatable,
        State.repeatLast?_of_items ht (hitem.repeatable.symm.trans hrepeatable), ← h.flags]
      have hrepeated := hitem.regex.repetition least most (greedy != s.flags.swapGreed)
      exact .some ⟨rfl, h.captures, h.names, ⟨h.level.done,
        .cons ⟨hrepeated, congrArg (· + 1) hitem.height, rfl⟩ hrest⟩, h.outer⟩

end State.Alike

/-- What is done to states that are alike makes them states that are alike. -/
theorem Action.Alike.run? {s t : State} (h : s.Alike t) {action action' : Action}
    (hactions : action.Alike action') :
    Option.Rel State.Alike (action.run? s) (action'.run? t) := by
  cases hactions with
  | push hij => exact .some (h.push hij)
  | refl action =>
    cases action with
    | push item => exact .some (h.push (.refl item))
    | leave => exact h.leave?
    | split => exact .some ⟨h.flags, h.captures, h.names, h.level.split, h.outer⟩
    | repeatLast least most greedy => exact h.repeatLast? least most greedy
    | enter flags => exact .some (h.enter none flags)
    | capture name =>
      rw [Action.run?, Action.run?, h.names]
      split
      · exact .none
      · exact .some (h.enterCapture name)
    | turn flags =>
      have hturn : State.Alike { s with flags } { t with flags } :=
        ⟨rfl, h.captures, h.names, h.level, h.outer⟩
      exact .some (hturn.push (.refl _))

theorem State.Alike.finish? {s t : State} (h : s.Alike t) :
    Option.Rel Regex.Alike s.finish? t.finish? := by
  have houter := h.outer
  rw [State.finish?, State.finish?]
  cases hs : s.outer with
  | nil =>
    rw [hs, List.forall₂_nil_left_iff] at houter
    rw [houter]
    dsimp only
    rw [h.level.close.height]
    split
    · exact .some h.level.close.regex
    · exact .none
  | cons parent outer =>
    rw [hs, List.forall₂_cons_left_iff] at houter
    obtain ⟨parent', outer', -, -, ht⟩ := houter
    rw [ht]
    exact .none

/-- Flags under which letters match regardless of case and no gaps are left out. -/
structure Flags.FoldCase (flags : Flags) : Prop where
  ignoreCase : flags.ignoreCase = true
  unicode : flags.unicode = true
  ignoreBlank : flags.ignoreBlank = false

/-- Two open classes that differ in how their sets are written and in the case of letters. -/
structure OpenClass.Alike (a b : OpenClass) : Prop extends OpenClass.Like a b where
  pending : Option.Rel (fun x y => x.1 = y.1 ∧ x.2.FoldAlike y.2) a.pending b.pending
  members : a.members.FoldAlike b.members

/-- Two primitives that differ at most in the case of a letter. -/
inductive Primitive.Alike : Primitive → Primitive → Prop
  | refl (p : Primitive) : Alike p p
  | letter {c d : Char} (h : c.toLower = d.toLower) : Alike (.literal c false) (.literal d false)

section FoldCase

variable {flags : Flags} (hflags : flags.FoldCase)
include hflags

theorem foldFor_eq_fold (s : CharSet) : foldFor flags s = .fold s := by
  rw [foldFor, hflags.ignoreCase, hflags.unicode]
  rfl

theorem negate?_alike (negated : Bool) {s t : CharSet} (h : s.Alike t) :
    Option.Rel CharSet.Alike (negate? flags negated s) (negate? flags negated t) := by
  rw [negate?, negate?, hflags.unicode]
  cases negated with
  | false => exact .some h
  | true => exact .some h.compl

theorem literal_alike {c d : Char} (h : c.toLower = d.toLower) :
    (literal flags c).Alike (literal flags d) := by
  refine ⟨.set ?_, rfl, rfl⟩
  rw [foldFor_eq_fold hflags, foldFor_eq_fold hflags]
  exact CharSet.foldAlike_singleton h

/-- Words in other letters make alternatives that are alike. -/
theorem wordsLevel_alike {words words' : List (List Char)}
    (h : List.Forall₂ (List.Forall₂ fun c d => c.toLower = d.toLower) words words')
    {level level' : Level} (hlevel : level.Alike level') :
    (wordsLevel flags level words).Alike (wordsLevel flags level' words') := by
  induction h generalizing level level' with
  | nil => exact hlevel
  | @cons word word' words words' hword hwords ih =>
    have hitems : List.Forall₂ Item.Alike (word.map (literal flags)) (word'.map (literal flags)) :=
      List.forall₂_map_left_iff.2 (List.forall₂_map_right_iff.2
        (hword.imp fun _ _ h => literal_alike hflags h))
    have hpushed := hlevel.pushAll hitems
    cases hwords with
    | nil => exact hpushed
    | cons => exact ih hpushed.split

theorem partSet?_alike {p q : Primitive} (h : p.Alike q) :
    Option.Rel CharSet.FoldAlike (partSet? flags p) (partSet? flags q) := by
  cases h with
  | refl => exact rel_refl CharSet.FoldAlike.refl _
  | letter h =>
    rw [partSet?, partSet?, setLiteral?, setLiteral?, hflags.unicode]
    exact .some (CharSet.foldAlike_singleton h)

omit hflags in
theorem SetOperation.apply_alike (operation : SetOperation) {s s' t t' : CharSet} (hs : s.Alike s')
    (ht : t.Alike t') : (operation.apply s t).Alike (operation.apply s' t') := by
  cases operation with
  | inter => exact hs.inter ht
  | diff => exact hs.diff ht
  | symmDiff => exact (hs.diff ht).union (ht.diff hs)

namespace OpenClass.Alike

variable {a b : OpenClass}

omit hflags in
@[refl] theorem refl (a : OpenClass) : a.Alike a :=
  ⟨.refl a, rel_refl (fun x => ⟨rfl, .refl x.2⟩) _, .refl _⟩

omit hflags in
theorem add (h : a.Alike b) {s t : CharSet} (hst : s.FoldAlike t) : (a.add s).Alike (b.add t) :=
  ⟨h.toLike.add s t, h.pending, h.members.union hst⟩

omit hflags in
theorem addClass (h : a.Alike b) {s t : CharSet} (hst : s.FoldAlike t) (height : Nat) :
    (a.addClass s height).Alike (b.addClass t height) :=
  ⟨h.toLike.addClass s t height, h.pending, h.members.union hst⟩

theorem value (h : a.Alike b) : (a.value flags).FoldAlike (b.value flags) := by
  obtain ⟨negated, pending, leftHeight, members, parts, height⟩ := a
  obtain ⟨negated', pending', leftHeight', members', parts', height'⟩ := b
  have hpending : Option.Rel (fun x y => x.1 = y.1 ∧ x.2.FoldAlike y.2) pending pending' :=
    h.pending
  cases hpending with
  | none => exact h.members
  | @some x y hxy =>
    obtain ⟨operation, left⟩ := x
    obtain ⟨operation', left'⟩ := y
    obtain ⟨rfl, hleft⟩ := hxy
    simp only [OpenClass.value, foldFor_eq_fold hflags]
    exact (operation.apply_alike hleft h.members).foldAlike

theorem operate (h : a.Alike b) (operation : SetOperation) :
    (a.operate flags operation).Alike (b.operate flags operation) :=
  ⟨h.toLike.operate operation, .some ⟨rfl, h.value hflags⟩, .refl _⟩

theorem close? (h : a.Alike b) :
    Option.Rel CharSet.Alike (a.close? flags) (b.close? flags) := by
  rw [OpenClass.close?, OpenClass.close?, h.negated, foldFor_eq_fold hflags, foldFor_eq_fold hflags]
  exact negate?_alike hflags _ (h.value hflags)

end OpenClass.Alike

end FoldCase

end Reader

/-- For the size of a pattern it does not matter how its sets of characters are written, as the
machine is built from the characters that they have. -/
def SizeLimit.IgnoresSpelling [SizeLimit] : Prop :=
  ∀ a b : Regex, a.Alike b → SizeLimit.admits a = SizeLimit.admits b

theorem rel_ofText? [SizeLimit] (hlimit : SizeLimit.IgnoresSpelling) {text text' : List Char}
    (h : Option.Rel Alike (ofAnySize? text) (ofAnySize? text')) :
    Option.Rel Alike (ofText? text) (ofText? text') := by
  rw [ofText?, ofText?]
  generalize ofAnySize? text = regex, ofAnySize? text' = regex' at h ⊢
  cases h with
  | none => exact .none
  | some hab =>
    rw [Option.filter_some, Option.filter_some, hlimit _ _ hab]
    split
    · exact .some hab
    · exact .none

end Lapse.Regex
