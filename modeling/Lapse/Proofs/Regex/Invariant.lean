import Lapse.Proofs.Regex.Reading

/-!
# Invariants of the reader

What holds of the reader's state throughout a pattern follows from what its few operations keep.
So it is with what is known of all capturing groups, with the order of their numbers, and with the
name of each.
-/
namespace Lapse.Regex

namespace Reader

/-- A property of states that every step keeps which begins no group. -/
structure Steady (I : State → Prop) : Prop where
  push {s : State} (h : I s) {item : Item} (hitem : item.regex.groups = []) : I (s.push item)
  leave {s s' : State} (h : I s) (hleave : s.leave? = some s') : I s'
  repeatLast {s s' : State} (h : I s) {least : Nat} {most : Option Nat} {greedy : Bool}
    (hrepeat : s.repeatLast? least most greedy = some s') : I s'
  split {s : State} (h : I s) : I { s with level := s.level.split }

/-- A property of states that everything the reader does to a state keeps. -/
structure Preserved (I : State → Prop) : Prop extends Steady I where
  setFlags {s : State} (h : I s) (flags : Flags) : I { s with flags }
  enter {s : State} (h : I s) (flags : Flags) : I (s.enter none flags)
  enterCapture {s : State} (h : I s) {name : Option String} (hnew : ∀ n ∈ name, n ∉ s.names) :
    I (s.enterCapture name)

/-- Whatever is read, the state afterwards has the property. -/
def Keeps (I : State → Prop) (x : Option (State × List Char)) : Prop :=
  ∀ s rest, x = some (s, rest) → I s

section Keeps

variable {I : State → Prop}

theorem Keeps.none : Keeps I none := fun _ _ h => by cases h

theorem Keeps.some {s : State} (h : I s) (rest : List Char) : Keeps I (some (s, rest)) :=
  fun _ _ e => by
    cases e
    exact h

theorem Keeps.ite {c : Prop} [Decidable c] {x y : Option (State × List Char)}
    (hpos : c → Keeps I x) (hneg : ¬ c → Keeps I y) : Keeps I (if c then x else y) := by
  split
  · next h => exact hpos h
  · next h => exact hneg h

theorem Keeps.bind {α : Type} {x : Option α} {f : α → Option (State × List Char)}
    (h : ∀ a, x = Option.some a → Keeps I (f a)) : Keeps I (x.bind f) := by
  intro s rest e
  obtain ⟨a, hx, e⟩ := Option.bind_eq_some_iff.1 e
  exact h a hx s rest e

theorem Keeps.map {α : Type} {x : Option α} {f : α → State × List Char}
    (h : ∀ a, x = Option.some a → I (f a).1) : Keeps I (x.map f) := by
  intro s rest e
  obtain ⟨a, hx, e⟩ := Option.map_eq_some_iff.1 e
  have hfirst : (f a).1 = s := by rw [e]
  exact hfirst ▸ h a hx

end Keeps

theorem groups_primitiveRegex? {flags : Flags} {p : Primitive} {r : Regex}
    (h : primitiveRegex? flags p = some r) : r.groups = [] := by
  cases p with
  | set s =>
    cases h
    rfl
  | look l =>
    cases h
    rfl
  | literal c byte =>
    rw [primitiveRegex?] at h
    split at h
    · cases h
    · cases h
      rfl

theorem step?_group (s : State) (text : List Char) :
    step? s ('(' :: text) = readGroup? s text := by
  simp [step?]

namespace Steady

variable {I : State → Prop} {s : State}

theorem readCounted? (hI : Steady I) (h : I s) (text : List Char) :
    Keeps I (readCounted? s text) :=
  .bind fun _ _ => .bind fun _ hrepeat => .some (hI.repeatLast h hrepeat) _

theorem step? (hI : Steady I) (h : I s) {c : Char} (hc : c ≠ '(') (text : List Char) :
    Keeps I (step? s (c :: text)) := by
  rw [Reader.step?, if_neg hc]
  refine .ite (fun _ => .map fun s' hleave => hI.leave h hleave) fun _ => ?_
  refine .ite (fun _ => .some (hI.split h) _) fun _ => ?_
  refine .ite (fun _ => .map fun _ _ => hI.push h rfl) fun _ => ?_
  iterate 3 refine .ite (fun _ => .map fun s' hrepeat => hI.repeatLast h hrepeat) fun _ => ?_
  refine .ite (fun _ => hI.readCounted? h text) fun _ => ?_
  refine .ite (fun _ => .bind fun x _ => .bind fun r hr => ?_) fun _ => ?_
  · exact .some (hI.push h (groups_primitiveRegex? hr)) _
  refine .ite (fun _ => .map fun _ _ => hI.push h rfl) fun _ => ?_
  iterate 2 refine .ite (fun _ => .some (hI.push h rfl) _) fun _ => ?_
  exact .map fun r hr => hI.push h (groups_primitiveRegex? hr)

end Steady

namespace Preserved

variable {I : State → Prop} {s : State}

theorem readNamedGroup? (hI : Preserved I) (h : I s) (text : List Char) :
    Keeps I (readNamedGroup? s text) := by
  refine .bind fun ⟨name, rest⟩ _ => ?_
  simp only
  split
  · exact .none
  · next hnew =>
    refine .some (hI.enterCapture h fun n hn hold => hnew ?_) _
    cases hn
    simpa using hold

theorem readFlagGroup? (hI : Preserved I) (h : I s) (text : List Char) :
    Keeps I (readFlagGroup? s text) := by
  refine .bind fun ⟨signs, stop, rest⟩ _ => .ite (fun _ => .none) fun _ => ?_
  refine .ite (fun _ => .some (hI.enter h _) _) fun _ => .ite (fun _ => .none) fun _ => ?_
  exact .some (hI.push (hI.setFlags h _) rfl) _

theorem readMarked? (hI : Preserved I) (h : I s) (text : List Char) :
    Keeps I (readMarked? s text) := by
  unfold Reader.readMarked?
  split
  · exact hI.readNamedGroup? h _
  · exact .none
  · exact .none
  · exact hI.readNamedGroup? h _
  · exact hI.readFlagGroup? h _

theorem readGroup? (hI : Preserved I) (h : I s) (text : List Char) :
    Keeps I (readGroup? s text) := by
  have hplain : I (s.enterCapture none) := hI.enterCapture h fun n hn => by cases hn
  cases hskip : skip s.flags text with
  | nil =>
    rw [readGroup?_of_nil hskip]
    exact .some hplain _
  | cons c rest =>
    by_cases hc : c = '?'
    · subst hc
      rw [readGroup?_of_mark hskip]
      exact hI.readMarked? h rest
    · rw [readGroup?_of_ne hskip hc]
      exact .some hplain _

theorem step? (hI : Preserved I) (h : I s) (text : List Char) : Keeps I (step? s text) := by
  cases text with
  | nil => exact .none
  | cons c text =>
    by_cases hc : c = '('
    · rw [hc, step?_group]
      exact hI.readGroup? h text
    · exact hI.toSteady.step? h hc text

theorem read? (hI : Preserved I) (h : I s) {text : List Char} {s' : State}
    (hread : read? s text = some s') : I s' := by
  fun_induction Reader.read? s text with
  | case1 s text hskip =>
    cases hread
    exact h
  | case2 => cases hread
  | case3 s text c rest hskip next after hstep hshort ih =>
    exact ih (hI.step? h _ next after hstep) hread
  | case4 => cases hread

end Preserved

end Reader

/-- All groups satisfy `P`, with their number, their name and what is inside. -/
def EveryGroup (P : Nat → Option String → Regex → Prop) : Regex → Prop
  | empty | set _ | look _ => True
  | seq a b | alt a b => a.EveryGroup P ∧ b.EveryGroup P
  | repeated a .. => a.EveryGroup P
  | group index name a => P index name a ∧ a.EveryGroup P

variable {P : Nat → Option String → Regex → Prop}

theorem everyGroup_of_groups_eq_nil {r : Regex} (h : r.groups = []) : r.EveryGroup P := by
  induction r with
  | empty | set | look => trivial
  | seq a b iha ihb | alt a b iha ihb =>
    obtain ⟨ha, hb⟩ := List.append_eq_nil_iff.1 h
    exact ⟨iha ha, ihb hb⟩
  | repeated a least most greedy iha => exact iha h
  | group => cases h

theorem exists_of_mem_groups {r : Regex} (h : r.EveryGroup P) {index : Nat}
    {name : Option String} (hmem : (index, name) ∈ r.groups) : ∃ a, P index name a := by
  induction r with
  | empty | set | look => cases hmem
  | seq a b iha ihb | alt a b iha ihb =>
    rcases List.mem_append.1 hmem with hmem | hmem
    · exact iha h.1 hmem
    · exact ihb h.2 hmem
  | repeated a least most greedy iha => exact iha h hmem
  | group i n a iha =>
    rcases List.mem_cons.1 hmem with e | hmem
    · cases e
      exact ⟨a, h.1⟩
    · exact iha h.2 hmem

theorem everyGroup_sequence {rs : List Regex} (h : ∀ r ∈ rs, r.EveryGroup P) :
    (sequence rs).EveryGroup P := by
  induction rs with
  | nil => trivial
  | cons r rs ih =>
    have hfirst := h r List.mem_cons_self
    cases rs with
    | nil => exact hfirst
    | cons s rs => exact ⟨hfirst, ih fun r hr => h r (List.mem_cons_of_mem _ hr)⟩

theorem everyGroup_choice {rs : List Regex} (h : ∀ r ∈ rs, r.EveryGroup P) :
    (choice rs).EveryGroup P := by
  induction rs with
  | nil => trivial
  | cons r rs ih =>
    have hfirst := h r List.mem_cons_self
    cases rs with
    | nil => exact hfirst
    | cons s rs => exact ⟨hfirst, ih fun r hr => h r (List.mem_cons_of_mem _ hr)⟩

theorem repetition_cases (a : Regex) (least : Nat) (most : Option Nat) (greedy : Bool) :
    repetition a least most greedy = empty ∨ repetition a least most greedy = a ∨
      ∃ least' most', repetition a least most greedy = repeated a least' most' greedy := by
  simp only [repetition]
  generalize (if a.takesNothing = true then (min least 1, some (min (most.getD 1) 1))
    else (least, most)) = bounds
  split
  · exact .inl rfl
  · split
    · exact .inr (.inl rfl)
    · exact .inr (.inr ⟨bounds.1, bounds.2, rfl⟩)

theorem everyGroup_repetition {a : Regex} (h : a.EveryGroup P) (least : Nat)
    (most : Option Nat) (greedy : Bool) : (repetition a least most greedy).EveryGroup P := by
  rcases repetition_cases a least most greedy with e | e | ⟨least', most', e⟩
  · rw [e]
    trivial
  · rwa [e]
  · rwa [e]

theorem groups_repetition_sublist (a : Regex) (least : Nat) (most : Option Nat) (greedy : Bool) :
    (repetition a least most greedy).groups.Sublist a.groups := by
  rcases repetition_cases a least most greedy with e | e | ⟨least', most', e⟩
  · simp [e, groups]
  · simp [e]
  · simp [e, groups]

namespace Reader

/-- All groups of the items satisfy `P`. -/
def Level.EveryGroup (P : Nat → Option String → Regex → Prop) (level : Level) : Prop :=
  (∀ item ∈ level.done, item.regex.EveryGroup P) ∧ ∀ item ∈ level.items, item.regex.EveryGroup P

namespace Level.EveryGroup

variable {level : Level}

theorem push (h : level.EveryGroup P) {item : Item} (hitem : item.regex.EveryGroup P) :
    (level.push item).EveryGroup P :=
  ⟨h.1, List.forall_mem_cons.2 ⟨hitem, h.2⟩⟩

theorem current (h : level.EveryGroup P) : level.current.regex.EveryGroup P := by
  rw [regex_current]
  refine everyGroup_sequence fun r hr => ?_
  obtain ⟨item, hitem, rfl⟩ := List.mem_map.1 hr
  exact h.2 item (List.mem_reverse.1 hitem)

theorem split (h : level.EveryGroup P) : level.split.EveryGroup P :=
  ⟨List.forall_mem_cons.2 ⟨h.current, h.1⟩, fun _ hitem => by cases hitem⟩

theorem close (h : level.EveryGroup P) : level.close.regex.EveryGroup P := by
  rw [regex_close]
  refine everyGroup_choice fun r hr => ?_
  obtain ⟨item, hitem, rfl⟩ := List.mem_map.1 hr
  exact h.split.1 item (List.mem_reverse.1 hitem)

/-- The last item is repeated. -/
theorem repeatLast {done items : List Item} {item : Item}
    (h : Level.EveryGroup P ⟨done, item :: items⟩) (least : Nat) (most : Option Nat)
    (greedy : Bool) : Level.EveryGroup P ⟨done, item.repeatedBy least most greedy :: items⟩ := by
  obtain ⟨hitem, hitems⟩ := List.forall_mem_cons.1 h.2
  exact ⟨h.1, List.forall_mem_cons.2 ⟨everyGroup_repetition hitem _ _ _, hitems⟩⟩

end Level.EveryGroup

/-- All groups satisfy `P`, which holds of every group after the first `known` ones whose name is
none of `taken`. -/
structure State.EveryGroup (P : Nat → Option String → Regex → Prop) (known : Nat)
    (taken : List String) (s : State) : Prop where
  level : s.level.EveryGroup P
  outer : ∀ parent ∈ s.outer, parent.1.EveryGroup P ∧
    ∀ capture ∈ parent.2.capture, ∀ a, P capture.1 capture.2 a
  captures : known ≤ s.captures
  names : taken ⊆ s.names

theorem everyGroup_wrap {opening : Opening}
    (h : ∀ capture ∈ opening.capture, ∀ a, P capture.1 capture.2 a) {inner : Item}
    (hinner : inner.regex.EveryGroup P) : (opening.wrap inner).regex.EveryGroup P := by
  obtain ⟨capture, flags⟩ := opening
  cases capture with
  | none => exact hinner
  | some capture => exact ⟨h capture rfl _, hinner⟩

theorem preserved_everyGroup {known : Nat} {taken : List String}
    (hP : ∀ index name a, known < index → (∀ n ∈ name, n ∉ taken) → P index name a) :
    Preserved (State.EveryGroup P known taken) where
  push h _ hitem := ⟨h.level.push (everyGroup_of_groups_eq_nil hitem), h.outer, h.captures, h.names⟩
  setFlags h _ := ⟨h.level, h.outer, h.captures, h.names⟩
  enter h _ := by
    refine ⟨⟨by simp [State.enter, Level.new], by simp [State.enter, Level.new]⟩,
      List.forall_mem_cons.2 ⟨⟨h.level, fun _ e => by cases e⟩, h.outer⟩, h.captures, h.names⟩
  enterCapture {s} h name hnew := by
    refine ⟨⟨by simp [State.enterCapture, State.enter, Level.new],
      by simp [State.enterCapture, State.enter, Level.new]⟩,
      List.forall_mem_cons.2 ⟨⟨h.level, ?_⟩, h.outer⟩, Nat.le_succ_of_le h.captures,
      fun n hn => List.mem_append_right _ (h.names hn)⟩
    rintro capture e a
    cases e
    exact hP _ _ a (Nat.lt_succ_of_le h.captures) fun n hn hold => hnew n hn (h.names hold)
  leave {s s'} h hleave := by
    cases houter : s.outer with
    | nil =>
      rw [State.leave?, houter] at hleave
      cases hleave
    | cons parent outer =>
      rw [State.leave?_of_outer houter] at hleave
      cases hleave
      obtain ⟨⟨hparent, hcapture⟩, hrest⟩ := List.forall_mem_cons.1 (houter ▸ h.outer)
      exact ⟨hparent.push (everyGroup_wrap hcapture h.level.close), hrest, h.captures, h.names⟩
  repeatLast {s s'} h _ _ _ hrepeat := by
    obtain ⟨item, items, hitems, -, rfl⟩ := State.exists_of_repeatLast? hrepeat
    have hlevel : Level.EveryGroup P ⟨s.level.done, item :: items⟩ := hitems ▸ h.level
    exact ⟨hlevel.repeatLast _ _ _, h.outer, h.captures, h.names⟩
  split h := ⟨h.level.split, h.outer, h.captures, h.names⟩

/-- The groups of the items, from left to right. -/
def Level.groups (level : Level) : List (Nat × Option String) :=
  (level.done.reverse ++ level.items.reverse).flatMap (·.regex.groups)

theorem Level.groups_push (level : Level) (item : Item) :
    (level.push item).groups = level.groups ++ item.regex.groups := by
  simp [Level.groups, Level.push]

theorem Level.groups_split (level : Level) : level.split.groups = level.groups := by
  simp [Level.groups, Level.split, regex_current, groups_sequence, List.flatMap_map,
    -List.map_reverse]

theorem Level.groups_close (level : Level) : level.close.regex.groups = level.groups := by
  rw [← groups_split, regex_close, groups_choice, Level.groups, Level.split]
  simp [List.flatMap_map, -List.map_reverse]

/-- The groups that have begun, from left to right. -/
def State.groups (s : State) : List (Nat × Option String) :=
  (s.outer.reverse.flatMap fun parent => parent.1.groups ++ parent.2.capture.toList) ++
    s.level.groups

theorem groups_wrap (opening : Opening) (inner : Item) :
    (opening.wrap inner).regex.groups = opening.capture.toList ++ inner.regex.groups := by
  obtain ⟨capture, flags⟩ := opening
  cases capture <;> rfl

theorem State.groups_enterCapture (s : State) (name : Option String) :
    (s.enterCapture name).groups = s.groups ++ [(s.captures + 1, name)] := by
  simp [groups, enterCapture, enter, Level.new, Level.groups]

/-- No group has begun between the two states, though some may have been dropped. -/
structure State.BeginsNone (s next : State) : Prop where
  groups : next.groups.Sublist s.groups
  captures : next.captures = s.captures
  names : next.names = s.names

theorem State.beginsNone_push (s : State) {item : Item} (hitem : item.regex.groups = []) :
    s.BeginsNone (s.push item) :=
  ⟨by simp [State.groups, State.push, Level.groups_push, hitem], rfl, rfl⟩

theorem State.beginsNone_leave {s s' : State} (hleave : s.leave? = some s') :
    s.BeginsNone s' := by
  cases houter : s.outer with
  | nil =>
    rw [State.leave?, houter] at hleave
    cases hleave
  | cons parent outer =>
    rw [State.leave?_of_outer houter] at hleave
    cases hleave
    refine ⟨?_, rfl, rfl⟩
    simp [State.groups, houter, Level.groups_push, groups_wrap, Level.groups_close]

theorem State.beginsNone_repeatLast {s s' : State} {least : Nat} {most : Option Nat}
    {greedy : Bool} (hrepeat : s.repeatLast? least most greedy = some s') :
    s.BeginsNone s' := by
  obtain ⟨item, items, hitems, -, rfl⟩ := State.exists_of_repeatLast? hrepeat
  refine ⟨List.Sublist.append_left ?_ _, rfl, rfl⟩
  rw [Level.groups, Level.groups, hitems]
  simp only [List.reverse_cons, List.flatMap_append, List.flatMap_singleton]
  refine List.Sublist.append_left (List.Sublist.append_left ?_ _) _
  exact groups_repetition_sublist _ _ _ _

theorem State.beginsNone_split (s : State) : s.BeginsNone { s with level := s.level.split } :=
  ⟨by simp [State.groups, Level.groups_split], rfl, rfl⟩

theorem State.beginsNone_enter (s : State) (flags : Flags) :
    s.BeginsNone (s.enter none flags) :=
  ⟨by simp [State.groups, State.enter, Level.new, Level.groups], rfl, rfl⟩

theorem Steady.of_groups {I : State → Prop}
    (hless : ∀ {s s' : State}, I s → s.BeginsNone s' → I s') : Steady I where
  push {s} h _ hitem := hless h (s.beginsNone_push hitem)
  leave h hleave := hless h (State.beginsNone_leave hleave)
  repeatLast h _ _ _ hrepeat := hless h (State.beginsNone_repeatLast hrepeat)
  split {s} h := hless h s.beginsNone_split

/-- All that the reader does to the groups is to begin one and to drop some. -/
theorem Preserved.of_groups {I : State → Prop}
    (hless : ∀ {s s' : State}, I s → s.BeginsNone s' → I s')
    (hcapture : ∀ {s : State} (name : Option String), I s → I (s.enterCapture name)) :
    Preserved I where
  toSteady := .of_groups hless
  setFlags h _ := hless h ⟨List.Sublist.refl _, rfl, rfl⟩
  enter {s} h flags := hless h (s.beginsNone_enter flags)
  enterCapture h name _ := hcapture name h

/-- The groups are numbered from left to right. -/
structure State.InOrder (s : State) : Prop where
  sorted : s.groups.Pairwise fun a b => a.1 < b.1
  bound : ∀ g ∈ s.groups, g.1 ≤ s.captures

theorem State.inOrder_start : State.start.InOrder :=
  ⟨List.Pairwise.nil, fun g hg => by cases hg⟩

theorem State.InOrder.enterCapture {s : State} (h : s.InOrder) (name : Option String) :
    (s.enterCapture name).InOrder := by
  refine ⟨?_, fun g hg => ?_⟩
  · rw [State.groups_enterCapture, List.pairwise_append]
    refine ⟨h.sorted, List.pairwise_singleton _ _, fun a ha b hb => ?_⟩
    rw [List.mem_singleton.1 hb]
    exact Nat.lt_succ_of_le (h.bound a ha)
  · rw [State.groups_enterCapture] at hg
    rcases List.mem_append.1 hg with hg | hg
    · exact Nat.le_succ_of_le (h.bound g hg)
    · rw [List.mem_singleton.1 hg]
      exact Nat.le_refl _

theorem preserved_inOrder : Preserved State.InOrder :=
  .of_groups
    (fun h hnone => ⟨h.sorted.sublist hnone.groups,
      fun g hg => hnone.captures ▸ h.bound g (hnone.groups.subset hg)⟩)
    fun name h => h.enterCapture name

theorem preserved_captures (k : Nat) : Preserved fun s => k ≤ s.captures :=
  .of_groups (fun h hnone => hnone.captures ▸ h) fun _ h => Nat.le_succ_of_le h

/-- Names that are taken stay so. -/
theorem preserved_names (taken : List String) : Preserved fun s => taken ⊆ s.names :=
  .of_groups (fun h hnone => hnone.names ▸ h) fun _ h => List.subset_append_of_subset_right _ h

/-- A group that has begun keeps its name. -/
theorem preserved_name (k : Nat) (name : Option String) :
    Preserved fun s => k ≤ s.captures ∧ ∀ g ∈ s.groups, g.1 = k → g.2 = name :=
  .of_groups
    (fun h hnone => ⟨hnone.captures ▸ h.1, fun g hg => h.2 g (hnone.groups.subset hg)⟩)
    fun {s} other h => ⟨Nat.le_succ_of_le h.1, fun g hg hk => by
      rw [State.groups_enterCapture] at hg
      rcases List.mem_append.1 hg with hg | hg
      · exact h.2 g hg hk
      · rw [List.mem_singleton.1 hg] at hk
        have hle := h.1
        exact absurd hk (Nat.ne_of_gt (Nat.lt_succ_of_le hle))⟩

end Reader

end Lapse.Regex
