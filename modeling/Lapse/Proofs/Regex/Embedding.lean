import Lapse.Proofs.Regex.Case
import Lapse.Proofs.Regex.Growth
import Lapse.Proofs.Regex.Suffix

/-!
# Reading a pattern inside a group of another

A pattern may be read on its own or inside an open group that already holds items, with more text
behind it that ends the group. When the whole can be read, the pattern on its own can be read as
well, unless the text around it takes up its first fault.
-/
namespace Lapse.Regex.Reader

/-- The same group, whose first alternative may have the items `front` before those of `a`. -/
structure Level.Within (R : Item → Item → Prop) (front : List Item) (a b : Level) : Prop where
  done : List.Forall₂ R a.done b.done
  items : ∃ items, List.Forall₂ Item.Like a.items items ∧
    b.items = items ++ if a.done = [] then front else []

structure Opening.Like (a b : Opening) : Prop where
  flags : a.flags.Le b.flags
  capture : a.capture.isSome = b.capture.isSome

theorem Opening.Like.wrap {a b : Opening} (h : a.Like b) {x y : Item} (hxy : x.Like y) :
    (a.wrap x).Like (b.wrap y) := by
  have hcapture := h.capture
  obtain ⟨capture, flags⟩ := a
  obtain ⟨capture', flags'⟩ := b
  have hheight := Nat.succ_le_succ hxy.le
  cases capture with
  | none =>
    cases capture' with
    | none => exact ⟨hheight, rfl⟩
    | some => cases hcapture
  | some =>
    cases capture' with
    | none => cases hcapture
    | some => exact ⟨hheight, rfl⟩

theorem Item.Like.repeatedBy {x y : Item} (h : x.Like y) (least : Nat) (most : Option Nat)
    (greedy : Bool) : (x.repeatedBy least most greedy).Like (y.repeatedBy least most greedy) :=
  ⟨Nat.succ_le_succ h.le, rfl⟩

/-- The open groups of a pattern inside the group that `parent` holds the beginning of. -/
inductive Nested (front : List Item) (parent : Level × Opening) :
    Level → List (Level × Opening) → Level → List (Level × Opening) → Prop
  | bottom {a b : Level} (h : a.Within Item.Le front b) : Nested front parent a [] b [parent]
  | inner {a b a' b' : Level} {opening opening' : Opening} {outer outer' : List (Level × Opening)}
    (h : a.Within Item.Like [] b) (hopening : opening.Like opening')
    (hnested : Nested front parent a' outer b' outer') :
    Nested front parent a ((a', opening) :: outer) b ((b', opening') :: outer')

/-- `s` reads a pattern on its own, `t` reads it inside a group. -/
structure State.Within (front : List Item) (parent : Level × Opening) (s t : State) : Prop where
  flags : s.flags.Le t.flags
  names : s.names ⊆ t.names
  nested : Nested front parent s.level s.outer t.level t.outer

variable {front : List Item} {parent : Level × Opening}

namespace Level.Within

variable {R : Item → Item → Prop} {a b : Level}

theorem new (R : Item → Item → Prop) : Level.new.Within R [] .new :=
  ⟨.nil, [], .nil, by simp [Level.new]⟩

theorem push (h : a.Within R front b) {x y : Item} (hxy : x.Like y) :
    (a.push x).Within R front (b.push y) := by
  obtain ⟨items, hitems, e⟩ := h.items
  exact ⟨h.done, y :: items, .cons hxy hitems, by rw [Level.push, e]; rfl⟩

theorem split (h : a.Within R front b) (hcurrent : R a.current b.current) :
    a.split.Within R front b.split :=
  ⟨.cons hcurrent h.done, [], .nil, by simp [Level.split]⟩

/-- The last items correspond, unless only the items in front are left. -/
theorem last (h : a.Within R front b) {y : Item} {ys : List Item} (hb : b.items = y :: ys) :
    (∃ x xs, a.items = x :: xs ∧ x.Like y ∧
      (⟨a.done, xs⟩ : Level).Within R front ⟨b.done, ys⟩) ∨
    front ≠ [] ∧ a = .new := by
  obtain ⟨items, hitems, e⟩ := h.items
  obtain ⟨done, items'⟩ := a
  cases hitems with
  | nil =>
    rw [hb, List.nil_append] at e
    split at e
    · next hdone =>
      cases hdone
      exact .inr ⟨e ▸ List.cons_ne_nil _ _, rfl⟩
    · cases e
  | @cons x _ xs items hxy hrest =>
    rw [hb] at e
    cases e
    exact .inl ⟨x, xs, rfl, hxy, h.done, items, hrest, rfl⟩

theorem items_like (h : a.Within R [] b) : List.Forall₂ Item.Like a.items b.items := by
  obtain ⟨items, hitems, e⟩ := h.items
  rw [ite_self, List.append_nil] at e
  rwa [e]

theorem le (h : a.Within Item.Le front b) : a.Le b := by
  obtain ⟨items, hitems, e⟩ := h.items
  exact ⟨⟨items, hitems.imp fun _ _ h => h.le, e ▸ List.sublist_append_left _ _⟩, h.done⟩

end Level.Within

namespace Nested

variable {a b : Level} {outer outer' : List (Level × Opening)}

theorem push (h : Nested front parent a outer b outer') {x y : Item} (hxy : x.Like y) :
    Nested front parent (a.push x) outer (b.push y) outer' := by
  cases h with
  | bottom h => exact .bottom (h.push hxy)
  | inner h hopening hnested => exact .inner (h.push hxy) hopening hnested

theorem split (h : Nested front parent a outer b outer') :
    Nested front parent a.split outer b.split outer' := by
  cases h with
  | bottom h => exact .bottom (h.split h.le.current)
  | inner h hopening hnested =>
    exact .inner (h.split (Level.current_like h.items_like)) hopening hnested

theorem ne_nil (h : Nested front parent a outer b outer') : outer' ≠ [] := by
  cases h <;> exact List.cons_ne_nil _ _

theorem of_nil (h : Nested front parent a [] b outer') :
    outer' = [parent] ∧ a.Within Item.Le front b := by
  cases h with
  | bottom h => exact ⟨rfl, h⟩

theorem of_singleton {other : Level × Opening} (h : Nested front parent a outer b [other]) :
    outer = [] := by
  cases h with
  | bottom => rfl
  | inner _ _ hnested => exact (hnested.ne_nil rfl).elim

end Nested

namespace State.Within

variable {s t : State}

theorem push (h : s.Within front parent t) {x y : Item} (hxy : x.Like y) :
    (s.push x).Within front parent (t.push y) :=
  ⟨h.flags, h.names, h.nested.push hxy⟩

theorem enter (h : s.Within front parent t) {capture capture' : Option (Nat × Option String)}
    (hcapture : capture.isSome = capture'.isSome) {f g : Flags} (hfg : f.Le g) :
    (s.enter capture f).Within front parent (t.enter capture' g) :=
  ⟨hfg, h.names, .inner (.new _) ⟨h.flags, hcapture⟩ h.nested⟩

theorem enterCapture (h : s.Within front parent t) (name : Option String) :
    (s.enterCapture name).Within front parent (t.enterCapture name) :=
  ⟨h.flags, fun _ hn => List.mem_append.2 ((List.mem_append.1 hn).imp_right (h.names ·)),
    .inner (.new _) ⟨h.flags, rfl⟩ h.nested⟩

theorem leave (h : s.Within front parent t) {t' : State} (ht : t.leave? = some t') :
    (∃ s', s.leave? = some s' ∧ s'.Within front parent t') ∨ s.outer = [] := by
  obtain ⟨flags, captures, names, level, outer⟩ := s
  obtain ⟨flags', captures', names', level', outer'⟩ := t
  cases h.nested with
  | bottom => exact .inr rfl
  | inner hlevel hopening hnested =>
    rw [leave?_of_outer rfl] at ht
    cases ht
    have hclose := Level.close_like hlevel.items_like hlevel.done
    exact .inl ⟨_, leave?_of_outer rfl, hopening.flags, h.names,
      hnested.push (hopening.wrap hclose)⟩

theorem repeatLast (h : s.Within front parent t) {least : Nat} {most : Option Nat} {greedy : Bool}
    {t' : State} (ht : t.repeatLast? least most greedy = some t') :
    (∃ s', s.repeatLast? least most greedy = some s' ∧ s'.Within front parent t') ∨
      s.outer = [] ∧ s.level = .new := by
  obtain ⟨y, ys, hb, hy, rfl⟩ := exists_of_repeatLast? ht
  have hgreed : t.flags.swapGreed = s.flags.swapGreed := by
    obtain ⟨ignoreCase, e, -⟩ := h.flags
    rw [e]
  obtain ⟨flags, captures, names, level, outer⟩ := s
  obtain ⟨flags', captures', names', level', outer'⟩ := t
  have hnames := h.names
  have hflags := h.flags
  cases h.nested with
  | bottom hlevel =>
    rcases hlevel.last hb with ⟨x, xs, ha, hxy, hrest⟩ | ⟨-, hnew⟩
    · refine .inl ⟨_, repeatLast?_of_items ha (hxy.repeatable.trans hy) _ _ _, hflags, hnames, ?_⟩
      rw [hgreed]
      exact .bottom (hrest.push (hxy.repeatedBy _ _ _))
    · exact .inr ⟨rfl, hnew⟩
  | inner hlevel hopening hnested =>
    rcases hlevel.last hb with ⟨x, xs, ha, hxy, hrest⟩ | ⟨hne, -⟩
    · refine .inl ⟨_, repeatLast?_of_items ha (hxy.repeatable.trans hy) _ _ _, hflags, hnames, ?_⟩
      rw [hgreed]
      exact .inner (hrest.push (hxy.repeatedBy _ _ _)) hopening hnested
    · exact (hne rfl).elim

end State.Within

variable {s t : State}

theorem follows_readNamedGroup? (h : s.Within front parent t) (text : List Char) :
    Follows (State.Within front parent) (readNamedGroup? s text) (readNamedGroup? t text) := by
  refine .plainBind (R := Eq) (fun x hx => ⟨x, hx, rfl⟩) ?_
  rintro ⟨name, rest⟩ _ rfl t' rest' ht
  simp only at ht ⊢
  split at ht
  · cases ht
  · next hnew =>
    cases ht
    have hnew' : ¬ s.names.contains name = true := fun hold =>
      hnew (List.contains_iff_mem.2 (h.names (List.contains_iff_mem.1 hold)))
    rw [if_neg hnew']
    exact ⟨_, rfl, h.enterCapture (some name)⟩

theorem follows_readFlagGroup? (h : s.Within front parent t) (text : List Char) :
    Follows (State.Within front parent) (readFlagGroup? s text) (readFlagGroup? t text) := by
  refine .plainBind (R := Eq) (fun x hx => ⟨x, hx, rfl⟩) ?_
  rintro ⟨signs, stop, rest⟩ _ rfl
  have hflags := h.flags.apply signs true
  refine .ite (fun _ => .none _) fun _ => ?_
  refine .ite (fun _ => .some _ (h.enter rfl hflags)) fun _ => ?_
  refine .ite (fun _ => .none _) fun _ => .some _ ?_
  exact ⟨hflags, h.names, h.nested.push (.refl _)⟩

theorem follows_readMarked? (h : s.Within front parent t) (text : List Char) :
    Follows (State.Within front parent) (readMarked? s text) (readMarked? t text) := by
  unfold readMarked?
  split
  · exact follows_readNamedGroup? h _
  · exact .none _
  · exact .none _
  · exact follows_readNamedGroup? h _
  · exact follows_readFlagGroup? h _

theorem follows_readGroup? (h : s.Within front parent t) (text : List Char) :
    Follows (State.Within front parent) (readGroup? s text) (readGroup? t text) := by
  have hskip := h.flags.skip_eq text
  cases hs : skip s.flags text with
  | nil =>
    rw [readGroup?_of_nil hs, readGroup?_of_nil (hskip.trans hs)]
    exact .some _ (h.enterCapture none)
  | cons c rest =>
    by_cases hc : c = '?'
    · subst hc
      rw [readGroup?_of_mark hs, readGroup?_of_mark (hskip.trans hs)]
      exact follows_readMarked? h rest
    · rw [readGroup?_of_ne hs hc, readGroup?_of_ne (hskip.trans hs) hc]
      exact .some _ (h.enterCapture none)

theorem exists_of_primitiveRegex? {f g : Flags} (h : f.Le g) {p q : Primitive} (hpq : p.Like q)
    {b : Regex} (hb : primitiveRegex? g q = some b) : ∃ a, primitiveRegex? f p = some a := by
  cases hpq with
  | set s t => exact ⟨_, rfl⟩
  | refl =>
    cases p with
    | set s => exact ⟨_, rfl⟩
    | look l => exact ⟨_, rfl⟩
    | literal c byte =>
      rw [primitiveRegex?, h.unicode_eq] at hb
      rw [primitiveRegex?]
      split at hb
      · cases hb
      · next hbyte => exact ⟨_, if_neg hbyte⟩

theorem dotSet?_eq {f g : Flags} (h : f.Le g) : dotSet? g = dotSet? f := by
  obtain ⟨ignoreCase, rfl, -⟩ := h
  rfl

theorem readBounds?_eq {f g : Flags} (h : f.Le g) (text : List Char) :
    readBounds? g text = readBounds? f text := by
  have hbound (text : List Char) : readBound? g text = readBound? f text := by
    simp only [readBound?, h.takeParts_eq]
  have hmost (least : Nat) (text : List Char) :
      readMost? g least text = readMost? f least text := by
    simp only [readMost?, h.skip_eq, hbound]
  simp only [readBounds?, boundsBehind?, h.skip_eq, hbound, hmost]

/-- What ends the group or repeats the items in front of it. -/
def MeetsFrame (s : State) (c : Char) : Prop :=
  s.outer = [] ∧ (c = ')' ∨ (c = '?' ∨ c = '*' ∨ c = '+' ∨ c = '\x7b') ∧ s.level = .new)

/-- Whatever `y` reads, `x` reads up to the same place, unless `P` holds. -/
def FollowsUnless {α β : Type} (R : α → β → Prop) (P : Prop) (x : Option (α × List Char))
    (y : Option (β × List Char)) : Prop :=
  ∀ b rest, y = some (b, rest) → (∃ a, x = some (a, rest) ∧ R a b) ∨ P

section FollowsUnless

variable {α β : Type} {R : α → β → Prop} {P : Prop}

theorem Follows.unless {x : Option (α × List Char)} {y : Option (β × List Char)}
    (h : Follows R x y) : FollowsUnless R P x y := fun b rest e => .inl (h b rest e)

theorem FollowsUnless.ite {c : Prop} [Decidable c] {x x' : Option (α × List Char)}
    {y y' : Option (β × List Char)} (hpos : c → FollowsUnless R P x y)
    (hneg : ¬ c → FollowsUnless R P x' y') :
    FollowsUnless R P (if c then x else x') (if c then y else y') := by
  split
  · next h => exact hpos h
  · next h => exact hneg h

end FollowsUnless

theorem followsUnless_repeatLast? (h : s.Within front parent t) {c : Char}
    (hc : c = '?' ∨ c = '*' ∨ c = '+' ∨ c = '\x7b') (least : Nat) (most : Option Nat)
    (greedy : Bool) (rest : List Char) :
    FollowsUnless (State.Within front parent) (MeetsFrame s c)
      ((s.repeatLast? least most greedy).map fun s => (s, rest))
      ((t.repeatLast? least most greedy).map fun t => (t, rest)) := by
  intro t' rest' e
  obtain ⟨t', ht, e⟩ := Option.map_eq_some_iff.1 e
  cases e
  rcases h.repeatLast ht with ⟨s', hs, hwithin⟩ | ⟨houter, hnew⟩
  · exact .inl ⟨s', by rw [hs]; rfl, hwithin⟩
  · exact .inr ⟨houter, .inr ⟨hc, hnew⟩⟩

theorem followsUnless_readCounted? (h : s.Within front parent t) (text : List Char) :
    FollowsUnless (State.Within front parent) (MeetsFrame s '\x7b') (readCounted? s text)
      (readCounted? t text) := by
  intro t' rest' e
  rw [readCounted?] at e ⊢
  rw [readBounds?_eq h.flags] at e
  obtain ⟨⟨least, most, rest⟩, hbounds, e⟩ := Option.bind_eq_some_iff.1 e
  simp only [h.flags.skip_eq] at e
  obtain ⟨t', ht, e⟩ := Option.bind_eq_some_iff.1 e
  cases e
  rcases h.repeatLast ht with ⟨s', hs, hwithin⟩ | ⟨houter, hnew⟩
  · refine .inl ⟨s', ?_, hwithin⟩
    rw [hbounds]
    simp only [Option.bind_eq_bind, Option.bind_some, hs]
    rfl
  · exact .inr ⟨houter, .inr ⟨by simp, hnew⟩⟩

theorem follows_class (h : s.Within front parent t) (text : List Char) :
    Follows (State.Within front parent)
      ((readBracket? s.flags text).map fun (chars, height, rest) =>
        (s.push ⟨.set chars, height, true⟩, rest))
      ((readBracket? t.flags text).map fun (chars, height, rest) =>
        (t.push ⟨.set chars, height, true⟩, rest)) := by
  intro t' rest e
  obtain ⟨⟨chars, height, after⟩, hread, e⟩ := Option.map_eq_some_iff.1 e
  cases e
  obtain ⟨chars', hread'⟩ := exists_of_readBracket? h.flags hread
  exact ⟨s.push ⟨.set chars', height, true⟩, by rw [hread']; rfl, h.push (.regexes _ _ _)⟩

/-- Whatever is read inside the group is read on its own as well, unless it meets the frame. -/
theorem followsUnless_step? (h : s.Within front parent t) (c : Char) (rest : List Char) :
    FollowsUnless (State.Within front parent) (MeetsFrame s c) (step? s (c :: rest))
      (step? t (c :: rest)) := by
  have hflags := h.flags
  have hlook (l : Look) (rest : List Char) : FollowsUnless (State.Within front parent)
      (MeetsFrame s c) (some (s.push ⟨.look l, 0, true⟩, rest))
      (some (t.push ⟨.look l, 0, true⟩, rest)) := (Follows.some _ (h.push (.refl _))).unless
  have hprimitive {p q : Primitive} (hpq : p.Like q) (rest : List Char) :
      Follows (State.Within front parent)
        ((primitiveRegex? s.flags p).bind fun r => some (s.push ⟨r, 0, true⟩, rest))
        ((primitiveRegex? t.flags q).bind fun r => some (t.push ⟨r, 0, true⟩, rest)) :=
    .plainBind (R := fun _ _ => True) (fun b hb => (exists_of_primitiveRegex? hflags hpq hb).imp
      fun _ ha => ⟨ha, trivial⟩) fun a b _ => .some _ (h.push (.regexes a b 0))
  rw [step?, step?]
  refine .ite (fun _ => (follows_readGroup? h rest).unless) fun _ => ?_
  refine .ite (fun hc => ?_) fun _ => ?_
  · intro t' rest' e
    obtain ⟨t', ht, e⟩ := Option.map_eq_some_iff.1 e
    cases e
    rcases h.leave ht with ⟨s', hs, hwithin⟩ | houter
    · exact .inl ⟨s', by rw [hs]; rfl, hwithin⟩
    · exact .inr ⟨houter, .inl hc⟩
  refine .ite (fun _ => (Follows.some _ ⟨hflags, h.names, h.nested.split⟩).unless) fun _ => ?_
  refine .ite (fun _ => (follows_class h rest).unless) fun _ => ?_
  refine .ite (fun hc => followsUnless_repeatLast? h (.inl hc) _ _ _ _) fun _ => ?_
  refine .ite (fun hc => followsUnless_repeatLast? h (.inr (.inl hc)) _ _ _ _) fun _ => ?_
  refine .ite (fun hc => followsUnless_repeatLast? h (.inr (.inr (.inl hc))) _ _ _ _) fun _ => ?_
  refine .ite (fun hc => hc ▸ followsUnless_readCounted? h rest) fun _ => ?_
  refine .ite (fun _ => Follows.unless ?_) fun _ => ?_
  · exact .bind (follows_readEscape? hflags rest) fun p q rest hpq => hprimitive hpq rest
  rw [dotSet?_eq hflags]
  refine .ite (fun _ => Follows.unless ?_) fun _ => ?_
  · exact .map (R := Eq) _ (fun chars h => ⟨chars, h, rfl⟩) fun a b e => e ▸ h.push (.refl _)
  have hstart : lineStartLook t.flags = lineStartLook s.flags := by
    obtain ⟨ignoreCase, e, -⟩ := hflags
    rw [e]
    rfl
  have hstop : lineStopLook t.flags = lineStopLook s.flags := by
    obtain ⟨ignoreCase, e, -⟩ := hflags
    rw [e]
    rfl
  rw [hstart, hstop]
  refine .ite (fun _ => hlook _ _) fun _ => .ite (fun _ => hlook _ _) fun _ => ?_
  exact (Follows.map (R := fun _ _ => True) _ (fun b hb =>
    (exists_of_primitiveRegex? hflags (.refl _) hb).imp fun _ ha => ⟨ha, trivial⟩)
    fun a b _ => h.push (.regexes a b 0)).unless

/-- Where the reader gets stuck: the state before the first part that cannot be read, and the text
from that part on. -/
def stuck? (s : State) (text : List Char) : Option (State × List Char) :=
  match skip s.flags text with
  | [] => none
  | c :: rest =>
    match step? s (c :: rest) with
    | none => some (s, c :: rest)
    | some (next, after) =>
      if after.length < text.length then stuck? next after else some (s, c :: rest)
  termination_by text.length

theorem stuck?_eq_none_iff (s : State) (text : List Char) :
    stuck? s text = none ↔ (read? s text).isSome := by
  fun_induction stuck? s text with
  | case1 s text hskip =>
    rw [read?, hskip]
    simp
  | case2 s text c rest hskip hstep =>
    rw [read?, hskip]
    simp only [hstep]
    simp
  | case3 s text c rest hskip next after hstep hshort ih =>
    rw [read?, hskip]
    simp only [hstep]
    rw [if_pos hshort]
    exact ih
  | case4 s text c rest hskip next after hstep hshort =>
    rw [read?, hskip]
    simp only [hstep]
    rw [if_neg hshort]
    simp

/-- A fault that is none in a group with `tail` behind it: a parenthesis that ends the group, a
repetition of what stands in front, or a part that is cut off. -/
inductive TakenUp (tail : List Char) : State → List Char → Prop
  | parenthesis {s : State} (rest : List Char) (h : s.outer = []) : TakenUp tail s (')' :: rest)
  | repetition {s : State} {c : Char} (rest : List Char) (h : s.outer = [])
    (hc : c = '?' ∨ c = '*' ∨ c = '+' ∨ c = '\x7b') (hnew : s.level = .new) :
    TakenUp tail s (c :: rest)
  | cutOff {s : State} {text : List Char} (h : (step? s (text ++ tail)).isSome) :
    TakenUp tail s text

theorem takenUp_of_meetsFrame {c : Char} (h : MeetsFrame s c) (tail rest : List Char) :
    TakenUp tail s (c :: rest) := by
  rcases h with ⟨houter, rfl | ⟨hc, hnew⟩⟩
  · exact .parenthesis rest houter
  · exact .repetition rest houter hc hnew

/-- What meets the frame cannot be read. -/
theorem step?_eq_none_of_meetsFrame {c : Char} (h : MeetsFrame s c) (rest : List Char) :
    step? s (c :: rest) = none := by
  have hrepeat (hnew : s.level = .new) (least : Nat) (most : Option Nat) (greedy : Bool) :
      s.repeatLast? least most greedy = none := by
    rw [State.repeatLast?, State.popRepeatable?, hnew]
    rfl
  rcases h with ⟨houter, rfl | ⟨rfl | rfl | rfl | rfl, hnew⟩⟩
  · simp [step?, State.leave?, houter]
  · simp [step?, hrepeat hnew]
  · simp [step?, hrepeat hnew]
  · simp [step?, hrepeat hnew]
  · simp [step?, readCounted?, hrepeat hnew]

theorem stuck?_of_step_eq_none {c : Char} {text rest : List Char}
    (hskip : skip s.flags text = c :: rest) (hstep : step? s (c :: rest) = none) :
    stuck? s text = some (s, c :: rest) := by
  rw [stuck?, hskip]
  simp only [hstep]

theorem exists_step_of_read? {c : Char} {text rest : List Char} {t' : State}
    (hskip : skip t.flags text = c :: rest) (h : read? t text = some t') :
    ∃ next after, step? t (c :: rest) = some (next, after) ∧ after.length < text.length ∧
      read? next after = some t' := by
  rw [read?, hskip] at h
  simp only at h
  split at h
  · cases h
  · next next after hstep =>
    split at h
    · next hshort => exact ⟨next, after, hstep, hshort, h⟩
    · cases h

/-- The text behind a pattern ends a group that is open before it. -/
theorem State.Within.not_closed (h : s.Within front parent t) {t' : State}
    (hclosed : t'.outer = []) : read? t [] ≠ some t' := by
  rw [read?_nil]
  intro e
  cases e
  exact h.nested.ne_nil hclosed

/-- A part that can be read on its own is read inside the group as well. -/
theorem exists_read?_of_step? {tail : List Char} (htail : IsTail tail)
    (h : s.Within front parent t) {c : Char} {text rest after : List Char} {next t' : State}
    (hskip : skip s.flags text = c :: rest) (hstep : step? s (c :: rest) = some (next, after))
    (hread : read? t (text ++ tail) = some t') (hclosed : t'.outer = []) :
    ∃ t₁, next.Within front parent t₁ ∧ after.length < text.length ∧
      read? t₁ (after ++ tail) = some t' := by
  obtain ⟨t₁, behind, ht, hshort, hread⟩ := exists_step_of_read?
    ((h.flags.skip_eq _).trans (skip_append hskip tail)) hread
  rcases followsUnless_step? h c (rest ++ tail) t₁ behind ht with ⟨s₁, hs, hwithin⟩ | hmeets
  · rcases extendedOrOpen_step? s (c :: rest) next after hstep with hmore | ⟨-, hopen⟩
    · cases hs.symm.trans (hmore tail htail.fresh)
      rw [List.length_append, List.length_append] at hshort
      exact ⟨t₁, hwithin, Nat.lt_of_add_lt_add_right hshort, hread⟩
    · cases hs.symm.trans (hopen tail htail.fresh htail.oneLine)
      exact (hwithin.not_closed hclosed hread).elim
  · rw [step?_eq_none_of_meetsFrame hmeets] at hstep
    cases hstep

/-- When a pattern and the end of the group behind it are read inside the group, the pattern can be
read on its own, or its first fault is taken up. -/
theorem exists_of_read?_append {tail : List Char} (htail : IsTail tail)
    (h : s.Within front parent t) {text : List Char} {t' : State}
    (hread : read? t (text ++ tail) = some t') (hclosed : t'.outer = []) :
    (∃ s' u, read? s text = some s' ∧ s'.Within front parent u ∧ read? u tail = some t') ∨
      ∃ s' rest, stuck? s text = some (s', rest) ∧ TakenUp tail s' rest := by
  -- The run on the pattern alone leads: each of its steps is answered inside the group.
  fun_induction stuck? s text generalizing t with
  | case1 s text hskip =>
    refine .inl ⟨s, t, ?_, h, ?_⟩
    · rw [read?, hskip]
    · rcases skip_append_of_nil hskip with hmore | hopen
      · rw [← read?_skip, h.flags.skip_eq, hmore tail htail.fresh] at hread
        exact hread
      · refine (h.not_closed hclosed ?_).elim
        rw [read?, h.flags.skip_eq, hopen tail htail.oneLine] at hread
        rwa [read?_nil]
  | case2 s text c rest hskip hstep =>
    obtain ⟨t₁, after, ht, -, -⟩ := exists_step_of_read?
      ((h.flags.skip_eq _).trans (skip_append hskip tail)) hread
    refine .inr ⟨s, c :: rest, rfl, ?_⟩
    rcases followsUnless_step? h c (rest ++ tail) t₁ after ht with ⟨s₁, hs, -⟩ | hmeets
    · exact .cutOff (by rw [List.cons_append, hs]; rfl)
    · exact takenUp_of_meetsFrame hmeets tail rest
  | case3 s text c rest hskip next after hstep hshort ih =>
    obtain ⟨t₁, hwithin, -, hread⟩ := exists_read?_of_step? htail h hskip hstep hread hclosed
    rcases ih hwithin hread with ⟨s', u, hs', hu⟩ | hstuck
    · refine .inl ⟨s', u, ?_, hu⟩
      rw [read?, hskip]
      simp only [hstep]
      rw [if_pos hshort, hs']
    · exact .inr hstuck
  | case4 s text c rest hskip next after hstep hshort =>
    obtain ⟨t₁, -, hless, -⟩ := exists_read?_of_step? htail h hskip hstep hread hclosed
    exact (hshort hless).elim

end Lapse.Regex.Reader
