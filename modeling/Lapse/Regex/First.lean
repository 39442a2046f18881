import Lapse.Regex.Ways

/-!
# The first way

A pattern is plain when all it repeats takes a character and leaves no choice, optional parts apart.
For plain patterns the search finds the first of all ways from a place, so that what is known of the
ways is known of the search.
-/
namespace Lapse.Regex

/-- Optional parts apart, only what takes a character and leaves no choice is repeated, and that
without an upper bound. -/
def isPlain : Regex → Bool
  | empty | set _ | look _ => true
  | seq a b | alt a b => a.isPlain && b.isPlain
  | repeated a _ none _ => a.isPlain && a.consumes && a.choices = 0
  | repeated a least (some most) _ => a.isPlain && least = 0 && most = 1
  | group _ _ a => a.isPlain

theorem andThen_congr {xs : List Way} {f g : Cursor → List Way} (h : ∀ w ∈ xs, f w.1 = g w.1) :
    andThen xs f = andThen xs g := by
  induction xs with
  | nil => rfl
  | cons x xs ih =>
    rw [andThen, List.flatMap_cons, h x List.mem_cons_self]
    exact congrArg _ (ih fun w hw => h w (List.mem_cons_of_mem _ hw))

theorem position_lt_of_consumes {r : Regex} (h : r.consumes = true) {p : Cursor} {w : Way}
    (hw : w ∈ r.ways p) : p.position < w.1.position := by
  induction r generalizing p w with
  | empty => cases h
  | look l => cases h
  | set s =>
    rw [ways] at hw
    split at hw
    · simp at hw
    · split at hw
      · rw [List.mem_singleton] at hw
        subst hw
        exact Nat.lt_succ_self _
      · simp at hw
  | seq a b ha hb =>
    obtain ⟨u, hu, x, hx, rfl⟩ := mem_andThen.1 hw
    have h₁ := (forward_ways a p u hu).position_le
    have h₂ := (forward_ways b u.1 x hx).position_le
    rw [consumes, Bool.or_eq_true] at h
    rcases h with h | h
    · exact Nat.lt_of_lt_of_le (ha h hu) h₂
    · have h₃ := hb h hx
      exact Nat.lt_of_le_of_lt h₁ h₃
  | alt a b ha hb =>
    rw [consumes, Bool.and_eq_true] at h
    rcases List.mem_append.1 hw with hw | hw
    · exact ha h.1 hw
    · exact hb h.2 hw
  | repeated a least most greedy ha =>
    rw [consumes, Bool.and_eq_true, decide_eq_true_iff] at h
    obtain ⟨least, rfl⟩ := Nat.exists_eq_succ_of_ne_zero h.1
    cases most with
    | none =>
      obtain ⟨u, hu, x, hx, rfl⟩ := mem_andThen.1 hw
      obtain ⟨y, hy, z, hz, rfl⟩ := mem_andThen.1 hx
      have h₁ := (forward_waysExactly (forward_ways a) least p u hu).position_le
      have h₂ := ha h.2 hy
      have h₃ := (forward_waysAnyTimes (forward_ways a) greedy y.1 z hz).position_le
      show p.position < z.1.position
      omega
    | some most =>
      rw [ways] at hw
      obtain ⟨u, hu, x, hx, rfl⟩ := mem_andThen.1 hw
      obtain ⟨y, hy, z, hz, rfl⟩ := mem_andThen.1 hu
      have h₁ := ha h.2 hy
      have h₂ := (forward_waysExactly (forward_ways a) least y.1 z hz).position_le
      have h₃ := (forward_waysAtMost (forward_ways a) greedy _ z.1 x hx).position_le
      show p.position < x.1.position
      omega
  | group index name a ha =>
    obtain ⟨u, hu, rfl⟩ := List.mem_map.1 hw
    have moved := ha h hu
    exact moved

/-- More fuel than there are characters makes no difference. -/
theorem waysOnward_eq {m : Cursor → List Way} (hm : Forward m) (greedy : Bool) {p : Cursor}
    {fuel : Nat} (h : p.after.length < fuel) :
    waysOnward m greedy fuel p = waysAnyTimes m greedy p := by
  rw [waysAnyTimes]
  generalize e : p.after.length + 1 = n
  have hn : p.after.length < n := by omega
  clear e
  induction fuel generalizing p n with
  | zero => omega
  | succ fuel ih =>
    cases n with
    | zero => omega
    | succ n =>
      rw [waysOnward, waysOnward]
      refine congrArg _ (andThen_congr fun w hw => ?_)
      obtain ⟨hw, moved⟩ := List.mem_filter.1 hw
      have same := (hm p w hw).position_add_length
      have moved := of_decide_eq_true moved
      rw [ih (by omega) n (by omega)]

theorem waysAnyTimes_eq {m : Cursor → List Way} (hm : Forward m) (greedy : Bool) (p : Cursor) :
    waysAnyTimes m greedy p = ordered greedy p
      (andThen ((m p).filter fun w => p.position < w.1.position) (waysAnyTimes m greedy)) := by
  rw [waysAnyTimes, waysOnward]
  refine congrArg _ (andThen_congr fun w hw => ?_)
  obtain ⟨hw, moved⟩ := List.mem_filter.1 hw
  have same := (hm p w hw).position_add_length
  have moved := of_decide_eq_true moved
  rw [waysOnward_eq hm greedy (by omega)]

variable {α : Type}

/-- The first outcome of `k` at the ends of ways. -/
def firstOf (ws : List Way) (k : Cursor → Captures → Option α) (caps : Captures) : Option α :=
  ws.findSome? fun w => k w.1 (w.2 ++ caps)

theorem firstOf_append (xs ys : List Way) (k : Cursor → Captures → Option α) (caps : Captures) :
    firstOf (xs ++ ys) k caps = (firstOf xs k caps).or (firstOf ys k caps) :=
  List.findSome?_append

theorem firstOf_here (p : Cursor) (k : Cursor → Captures → Option α) (caps : Captures) :
    firstOf [(p, [])] k caps = k p caps := by
  rw [firstOf, List.findSome?_cons]
  cases h : k p ([] ++ caps) with
  | none => exact h.symm
  | some a => exact h.symm

theorem firstOf_andThen (xs : List Way) (f : Cursor → List Way)
    (k : Cursor → Captures → Option α) (caps : Captures) :
    firstOf (andThen xs f) k caps = firstOf xs (fun q caps => firstOf (f q) k caps) caps := by
  induction xs with
  | nil => rfl
  | cons x xs ih =>
    have h : firstOf (andThen (x :: xs) f) k caps =
        (firstOf (f x.1) k (x.2 ++ caps)).or (firstOf (andThen xs f) k caps) := by
      rw [andThen, List.flatMap_cons, firstOf_append]
      congr 1
      simp only [firstOf, List.findSome?_map, Function.comp_def, List.append_assoc]
    rw [h, ih]
    conv => rhs; rw [firstOf, List.findSome?_cons]
    cases firstOf (f x.1) k (x.2 ++ caps) <;> rfl

theorem firstOf_ordered (greedy : Bool) (p : Cursor) (more : List Way)
    (k : Cursor → Captures → Option α) (caps : Captures) :
    firstOf (ordered greedy p more) k caps =
      if greedy then (firstOf more k caps).or (k p caps)
      else (k p caps).or (firstOf more k caps) := by
  cases greedy
  · exact (firstOf_append [(p, [])] more k caps).trans (by rw [firstOf_here]; rfl)
  · exact (firstOf_append more [(p, [])] k caps).trans (by rw [firstOf_here]; rfl)

theorem firstOf_eq_none {ws : List Way} {F : Cursor → Prop} {k : Cursor → Captures → Option α}
    (hF : ∀ q, F q → ∀ caps, k q caps = none) (h : ∀ w ∈ ws, F w.1) (caps : Captures) :
    firstOf ws k caps = none :=
  List.findSome?_eq_none_iff.2 fun w hw => hF w.1 (h w hw) _

/-- Every way from `p` ends at a place where nothing is found, `F` being those places. -/
def Fails (ws : Cursor → List Way) (F : Cursor → Prop) (p : Cursor) : Prop :=
  ∀ w ∈ ws p, F w.1

theorem fails_andThen {xs : Cursor → List Way} {f : Cursor → List Way} {F : Cursor → Prop}
    {p : Cursor} : Fails (fun q => andThen (xs q) f) F p ↔ Fails xs (Fails f F) p := by
  simp only [Fails, mem_andThen]
  constructor
  · exact fun h w hw x hx => h (x.1, x.2 ++ w.2) ⟨w, hw, x, hx, rfl⟩
  · rintro h _ ⟨u, hu, x, hx, rfl⟩
    exact h u hu x hx

theorem forall_mem_ordered {greedy : Bool} {p : Cursor} {more : List Way} {F : Cursor → Prop} :
    (∀ w ∈ ordered greedy p more, F w.1) ↔ F p ∧ ∀ w ∈ more, F w.1 := by
  simp only [mem_ordered]
  exact ⟨fun h => ⟨h (p, []) (.inl rfl), fun w hw => h w (.inr hw)⟩,
    fun h w hw => hw.elim (fun e => e ▸ h.1) (h.2 w)⟩

/-- Nothing is found from the choice `i` of a pattern on, when it is met at `q`. The choices are
numbered from `id`, and nothing is found behind the pattern at the places `F`. -/
def Dead : Regex → (id : Nat) → (F : Cursor → Prop) → (i : Nat) → (q : Cursor) → Prop
  | empty, _, _, _, _ | set _, _, _, _, _ | look _, _, _, _, _ => False
  | seq a b, id, F, i, q => a.Dead id (Fails b.ways F) i q ∨ b.Dead (id + a.choices) F i q
  | alt a b, id, F, i, q =>
    (i = id ∧ Fails (alt a b).ways F q) ∨ a.Dead (id + 1) F i q ∨
      b.Dead (id + 1 + a.choices) F i q
  | repeated a _ none greedy, id, F, i, q => i = id ∧ Fails (waysAnyTimes a.ways greedy) F q
  | repeated a least (some most) greedy, id, F, i, q =>
    (i = id ∧ Fails (repeated a least (some most) greedy).ways F q) ∨ a.Dead (id + 1) F i q
  | group _ _ a, id, F, i, q => a.Dead id F i q

theorem choices_pos_of_unbounded (a : Regex) (least : Nat) (greedy : Bool) :
    0 < (repeated a least none greedy).choices := by
  cases least
  · rw [choices]
    omega
  · rw [choices]
    · omega
    · exact Nat.succ_ne_zero _

theorem choices_optional (a : Regex) (greedy : Bool) :
    (repeated a 0 (some 1) greedy).choices = 1 + a.choices := by
  rw [choices]
  omega

theorem Dead.range {r : Regex} (hr : r.isPlain = true) {id i : Nat} {F : Cursor → Prop}
    {q : Cursor} (h : r.Dead id F i q) : id ≤ i ∧ i < id + r.choices := by
  induction r generalizing id F with
  | empty | set | look => exact h.elim
  | seq a b ha hb =>
    rw [isPlain, Bool.and_eq_true] at hr
    rw [choices]
    rcases h with h | h
    · have := ha hr.1 h
      omega
    · have := hb hr.2 h
      omega
  | alt a b ha hb =>
    rw [isPlain, Bool.and_eq_true] at hr
    rw [choices]
    rcases h with h | h | h
    · omega
    · have := ha hr.1 h
      omega
    · have := hb hr.2 h
      omega
  | repeated a least most greedy ha =>
    cases most with
    | none =>
      have := choices_pos_of_unbounded a least greedy
      obtain ⟨rfl, -⟩ := h
      omega
    | some most =>
      simp only [isPlain, Bool.and_eq_true, decide_eq_true_iff] at hr
      obtain ⟨⟨hr, rfl⟩, rfl⟩ := hr
      rw [choices_optional]
      rcases h with h | h
      · omega
      · have := ha hr h
        omega
  | group index name a ha => exact ha hr h

/-- `D` tells of each choice of the pattern where nothing is found from it on. -/
def Tells (D : Nat → Cursor → Prop) (r : Regex) (id : Nat) (F : Cursor → Prop) : Prop :=
  ∀ i, id ≤ i → i < id + r.choices → ∀ q, D i q ↔ r.Dead id F i q

/-- What has been met is dead or still open. -/
def Sound (start : Cursor) (D : Nat → Cursor → Prop) (P : Nat → Nat → Prop) (v : Visited) : Prop :=
  ∀ i q, start.Reaches q → (i, q.position) ∈ v → D i q ∨ P i q.position

/-- The open choices were met before the choice `id` at `position`. -/
def Before (P : Nat → Nat → Prop) (position id : Nat) : Prop :=
  ∀ i x, P i x → x < position ∨ (x = position ∧ i < id)

theorem Before.mono {P : Nat → Nat → Prop} {position position' id id' : Nat}
    (h : Before P position id) (hp : position ≤ position') (hid : position' = position → id ≤ id') :
    Before P position' id' := by
  intro i x hx
  have := h i x hx
  omega

/-- An outcome is the expected one, and a failure is expected and keeps the invariant. -/
def Answers (start : Cursor) (D : Nat → Cursor → Prop) (P : Nat → Nat → Prop)
    (expected : Option α) (dead : Prop) : Except Visited α → Prop
  | .ok a => expected = some a
  | .error v => dead ∧ Sound start D P v

/-- The rest answers as expected at the places not before `p`, when it is reached from choices up
to `id`. -/
def Continues (start : Cursor) (D : Nat → Cursor → Prop) (k : Rest α)
    (expected : Cursor → Captures → Option α) (F : Cursor → Prop) (p : Cursor) (moves : Bool)
    (id : Nat) : Prop :=
  ∀ q P caps v, start.Reaches q → p.position ≤ q.position →
    (moves = true → p.position < q.position) → Before P q.position id → Sound start D P v →
    Answers start D P (expected q caps) (F q) (k q caps v)

/-- The open choices with one more. -/
def opening (P : Nat → Nat → Prop) (id : Nat) (position : Nat) : Nat → Nat → Prop :=
  fun i x => P i x ∨ (i = id ∧ x = position)

theorem Before.opening {P : Nat → Nat → Prop} {position id : Nat} (h : Before P position id) :
    Before (opening P id position) position (id + 1) := by
  intro i x hx
  rcases hx with hx | ⟨rfl, rfl⟩
  · have := h i x hx
    omega
  · omega

theorem Sound.insert {start p : Cursor} {D : Nat → Cursor → Prop} {P : Nat → Nat → Prop}
    {v : Visited} {id : Nat} (h : Sound start D P v) :
    Sound start D (opening P id p.position) (v.insert (id, p.position)) := by
  intro i q hq hv
  rcases Std.HashSet.mem_insert.1 hv with e | hv
  · simp only [beq_iff_eq, Prod.mk.injEq] at e
    exact .inr (.inr ⟨e.1.symm, e.2.symm⟩)
  · exact (h i q hq hv).imp_right .inl

theorem answers_choose {start p : Cursor} {D : Nat → Cursor → Prop} {P : Nat → Nat → Prop}
    {id : Nat} {first second : Rest α} {x y : Option α} {dx dy : Prop} {caps : Captures}
    {v : Visited} (hp : start.Reaches p) (hD : D id p ↔ dx ∧ dy) (hx : dx → x = none)
    (hP : Before P p.position id) (hv : Sound start D P v)
    (h₁ : ∀ v, Sound start D (opening P id p.position) v →
      Answers start D (opening P id p.position) x dx (first p caps v))
    (h₂ : ∀ v, Sound start D (opening P id p.position) v →
      Answers start D (opening P id p.position) y dy (second p caps v)) :
    Answers start D P (x.or y) (dx ∧ dy) (choose id first second p caps v) := by
  rw [choose]
  split
  · next met =>
    refine ⟨?_, hv⟩
    rcases hv id p hp (Std.HashSet.contains_iff_mem.1 met) with d | o
    · exact hD.1 d
    · have := hP id _ o
      omega
  · split
    · next a e =>
      have answer := h₁ _ hv.insert
      rw [e] at answer
      rw [show x = some a from answer]
      rfl
    · next v₁ e =>
      have answer := h₁ _ hv.insert
      rw [e] at answer
      obtain ⟨dead, hv₁⟩ := answer
      rw [hx dead, Option.none_or]
      have answer := h₂ _ hv₁
      cases e₂ : second p caps v₁ with
      | ok a =>
        rw [e₂] at answer
        exact answer
      | error v₂ =>
        rw [e₂] at answer
        refine ⟨⟨dead, answer.1⟩, fun i q hq met => ?_⟩
        rcases answer.2 i q hq met with d | o | ⟨rfl, o⟩
        · exact .inl d
        · exact .inr o
        · rw [hq.eq_of_position_eq hp o]
          exact .inl (hD.2 ⟨dead, answer.1⟩)

theorem Answers.of_iff {start : Cursor} {D : Nat → Cursor → Prop} {P : Nat → Nat → Prop}
    {expected : Option α} {dead dead' : Prop} {x : Except Visited α}
    (h : Answers start D P expected dead x) (e : dead ↔ dead') :
    Answers start D P expected dead' x := by
  cases x with
  | ok a => exact h
  | error v => exact ⟨e.1 h.1, h.2⟩

theorem answers_moreOrEnd {start p : Cursor} {D : Nat → Cursor → Prop} {P : Nat → Nat → Prop}
    {id : Nat} {greedy : Bool} {more stop : Rest α} {x y : Option α} {dx dy : Prop}
    {caps : Captures} {v : Visited} (hp : start.Reaches p) (hD : D id p ↔ dx ∧ dy)
    (hx : dx → x = none) (hy : dy → y = none) (hP : Before P p.position id)
    (hv : Sound start D P v)
    (h₁ : ∀ v, Sound start D (opening P id p.position) v →
      Answers start D (opening P id p.position) x dx (more p caps v))
    (h₂ : ∀ v, Sound start D (opening P id p.position) v →
      Answers start D (opening P id p.position) y dy (stop p caps v)) :
    Answers start D P (if greedy then x.or y else y.or x) (dx ∧ dy)
      (moreOrEnd greedy id more stop p caps v) := by
  cases greedy
  · rw [And.comm]
    exact answers_choose hp (hD.trans And.comm) hy hP hv h₂ h₁
  · exact answers_choose hp hD hx hP hv h₁ h₂

/-- There is one way at most, and `m` takes it. -/
def Single (m : Rest α → Rest α) (ws : Cursor → List Way) : Prop :=
  ∀ p, (ws p = [] ∧ ∀ k caps v, m k p caps v = .error v) ∨
    ∃ w, ws p = [w] ∧ ∀ k caps v, m k p caps v = k w.1 (w.2 ++ caps) v

theorem Single.andThen {m m' : Rest α → Rest α} {ws ws' : Cursor → List Way} (h : Single m ws)
    (h' : Single m' ws') : Single (fun k => m (m' k)) fun p => andThen (ws p) ws' := by
  intro p
  rcases h p with ⟨hw, hm⟩ | ⟨w, hw, hm⟩
  · exact .inl ⟨by simp [Regex.andThen, hw], fun k caps v => hm _ caps v⟩
  · rcases h' w.1 with ⟨hx, hm'⟩ | ⟨x, hx, hm'⟩
    · exact .inl ⟨by simp [Regex.andThen, hw, hx], fun k caps v => (hm _ caps v).trans (hm' _ _ _)⟩
    · refine .inr ⟨(x.1, x.2 ++ w.2), by simp [Regex.andThen, hw, hx], fun k caps v => ?_⟩
      refine (hm _ caps v).trans ((hm' _ _ v).trans ?_)
      rw [List.append_assoc]

theorem single_exactly {m : Nat → Rest α → Rest α} {ws : Cursor → List Way}
    (h : ∀ id, Single (m id) ws) (width n : Nat) :
    ∀ id, Single (exactly m width n id) (waysExactly ws n) := by
  induction n with
  | zero => exact fun _ p => .inr ⟨(p, []), rfl, fun _ _ _ => rfl⟩
  | succ n ih => exact fun id => (h id).andThen (ih _)

theorem single_run {r : Regex} (hr : r.isPlain = true) (h : r.choices = 0) :
    ∀ id, Single (α := α) (r.run id) r.ways := by
  induction r with
  | empty => exact fun _ p => .inr ⟨(p, []), rfl, fun _ _ _ => rfl⟩
  | set s =>
    intro id p
    simp only [ways, run]
    cases e : p.after with
    | nil => exact .inl ⟨rfl, fun _ _ _ => rfl⟩
    | cons c rest =>
      by_cases hc : s.mem c = true
      · exact .inr ⟨(p.past c rest, []), by simp [hc], fun _ _ _ => by simp [hc]⟩
      · exact .inl ⟨by simp [hc], fun _ _ _ => by simp [hc]⟩
  | look l =>
    intro id p
    simp only [ways, run]
    by_cases hl : l.holds p = true
    · exact .inr ⟨(p, []), by simp [hl], fun _ _ _ => by simp [hl]⟩
    · exact .inl ⟨by simp [hl], fun _ _ _ => by simp [hl]⟩
  | seq a b ha hb =>
    rw [isPlain, Bool.and_eq_true] at hr
    rw [choices, Nat.add_eq_zero_iff] at h
    exact fun id => (ha hr.1 h.1 id).andThen (hb hr.2 h.2 _)
  | alt a b =>
    rw [choices] at h
    omega
  | repeated a least most greedy =>
    cases most with
    | none =>
      have := choices_pos_of_unbounded a least greedy
      omega
    | some most =>
      simp only [isPlain, Bool.and_eq_true, decide_eq_true_iff] at hr
      obtain ⟨⟨-, rfl⟩, rfl⟩ := hr
      rw [choices_optional] at h
      omega
  | group index name a ha =>
    intro id p
    rcases ha hr h id p with ⟨hw, hm⟩ | ⟨w, hw, hm⟩
    · exact .inl ⟨by rw [ways, hw]; rfl, fun _ caps v => hm _ caps v⟩
    · exact .inr ⟨(w.1, (index, p.captureTo w.1) :: w.2), by rw [ways, hw]; rfl,
        fun _ caps v => hm _ caps v⟩

theorem Single.answers {m : Rest α → Rest α} {ws : Cursor → List Way} (h : Single m ws)
    {start : Cursor} {D : Nat → Cursor → Prop} {P : Nat → Nat → Prop} {k : Rest α}
    {expected : Cursor → Captures → Option α} {F : Cursor → Prop} {p : Cursor} {caps : Captures}
    {v : Visited} (hv : Sound start D P v)
    (hk : ∀ w ∈ ws p, Answers start D P (expected w.1 (w.2 ++ caps)) (F w.1)
      (k w.1 (w.2 ++ caps) v)) :
    Answers start D P (firstOf (ws p) expected caps) (Fails ws F p) (m k p caps v) := by
  rcases h p with ⟨hw, hm⟩ | ⟨w, hw, hm⟩
  · rw [hm, Fails, hw]
    exact ⟨fun w h => (List.not_mem_nil h).elim, hv⟩
  · have answer := hk w (by rw [hw]; exact List.mem_cons_self)
    rw [hm, Fails, hw, show firstOf [w] expected caps = expected w.1 (w.2 ++ caps) by
      rw [firstOf, List.findSome?_cons]; cases expected w.1 (w.2 ++ caps) <;> rfl]
    exact answer.of_iff (by simp)

theorem answers_onward {start : Cursor} {D : Nat → Cursor → Prop} {F : Cursor → Prop}
    {expected : Cursor → Captures → Option α} {a : Regex} (ha : a.isPlain = true)
    (one : a.choices = 0) (takes : a.consumes = true) {greedy : Bool} {id body : Nat}
    {k : Rest α} (hF : ∀ q, F q → ∀ caps, expected q caps = none)
    (hD : ∀ q, D id q ↔ Fails (waysAnyTimes a.ways greedy) F q) (fuel : Nat) {p : Cursor}
    {P : Nat → Nat → Prop} {caps : Captures} {v : Visited} (hfuel : p.after.length < fuel)
    (hp : start.Reaches p) (hP : Before P p.position id) (hv : Sound start D P v)
    (hk : Continues start D k expected F p false (id + 1)) :
    Answers start D P (firstOf (waysAnyTimes a.ways greedy p) expected caps)
      (Fails (waysAnyTimes a.ways greedy) F p)
      (onward (a.run body) greedy id k fuel p caps v) := by
  induction fuel generalizing p P caps v with
  | zero => omega
  | succ fuel ih =>
    have moves : (a.ways p).filter (fun w => p.position < w.1.position) = a.ways p :=
      List.filter_eq_self.2 fun w hw => by simpa using position_lt_of_consumes takes hw
    have unfolded : waysAnyTimes a.ways greedy p =
        ordered greedy p (andThen (a.ways p) (waysAnyTimes a.ways greedy)) := by
      rw [waysAnyTimes_eq (forward_ways a), moves]
    have dead : Fails (waysAnyTimes a.ways greedy) F p ↔
        Fails (fun q => andThen (a.ways q) (waysAnyTimes a.ways greedy)) F p ∧ F p := by
      rw [Fails, unfolded, forall_mem_ordered, And.comm]
      rfl
    rw [unfolded, firstOf_ordered, onward, dead]
    refine answers_moreOrEnd hp ((hD p).trans dead)
      (fun h => firstOf_eq_none hF h caps) (fun h => hF p h caps) hP hv (fun v hv => ?_)
      (fun v hv => hk p _ caps v hp (Nat.le_refl _) (fun h => by cases h) hP.opening hv)
    rw [firstOf_andThen, fails_andThen]
    refine (single_run ha one body).answers hv fun w hw => ?_
    have reaches := forward_ways a p w hw
    have moved := position_lt_of_consumes takes hw
    have same := reaches.position_add_length
    exact ih (by omega) (hp.trans reaches) (hP.opening.mono (Nat.le_of_lt moved) fun e => by omega)
      hv fun q P caps v hq hle _ => hk q P caps v hq (by omega) fun h => by cases h

theorem Continues.mono {start : Cursor} {D : Nat → Cursor → Prop} {k : Rest α}
    {expected : Cursor → Captures → Option α} {F : Cursor → Prop} {p q : Cursor}
    {moves moves' : Bool} {id id' : Nat} (h : Continues start D k expected F p moves id)
    (hp : p.position ≤ q.position)
    (hm : moves = true → moves' = true ∨ p.position < q.position) (hid : id' ≤ id) :
    Continues start D k expected F q moves' id' := by
  intro x P caps v hx hle hmoves hP hv
  refine h x P caps v hx (by omega) (fun m => ?_) (hP.mono (Nat.le_refl _) fun _ => hid) hv
  rcases hm m with m | m
  · have := hmoves m
    omega
  · omega

theorem andThen_here (p : Cursor) (f : Cursor → List Way) : andThen [(p, [])] f = f p := by
  simp [andThen]

theorem andThen_stop (xs : List Way) : andThen xs (fun q => [(q, [])]) = xs := by
  simp [andThen]

theorem ways_optional (a : Regex) (greedy : Bool) (p : Cursor) :
    (repeated a 0 (some 1) greedy).ways p = ordered greedy p (a.ways p) := by
  rw [ways, waysExactly, andThen_here, waysAtMost]
  congr 1
  exact andThen_stop _

theorem run_optional (a : Regex) (greedy : Bool) (id : Nat) (k : Rest α) (p : Cursor)
    (caps : Captures) (v : Visited) :
    (repeated a 0 (some 1) greedy).run id k p caps v =
      moreOrEnd greedy id (a.run (id + 1) k) k p caps v := by
  rw [run, exactly, Nat.zero_mul, Nat.add_zero]
  rfl

theorem tells_seq {D : Nat → Cursor → Prop} {a b : Regex} {id : Nat} {F : Cursor → Prop}
    (ha : a.isPlain = true) (hb : b.isPlain = true) (h : Tells D (seq a b) id F) :
    Tells D a id (Fails b.ways F) ∧ Tells D b (id + a.choices) F := by
  rw [Tells, choices] at h
  constructor
  · intro i h₁ h₂ q
    refine (h i h₁ (by omega) q).trans (or_iff_left fun d => ?_)
    have := d.range hb
    omega
  · intro i h₁ h₂ q
    refine (h i (by omega) (by omega) q).trans (or_iff_right fun d => ?_)
    have := d.range ha
    omega

theorem tells_alt {D : Nat → Cursor → Prop} {a b : Regex} {id : Nat} {F : Cursor → Prop}
    (ha : a.isPlain = true) (hb : b.isPlain = true) (h : Tells D (alt a b) id F) :
    (∀ q, D id q ↔ Fails (alt a b).ways F q) ∧ Tells D a (id + 1) F ∧
      Tells D b (id + 1 + a.choices) F := by
  rw [Tells, choices] at h
  refine ⟨fun q => (h id (by omega) (by omega) q).trans ?_, fun i h₁ h₂ q => ?_,
    fun i h₁ h₂ q => ?_⟩
  · rw [Dead, or_iff_left]
    · exact and_iff_right rfl
    · rintro (d | d)
      · have := d.range ha
        omega
      · have := d.range hb
        omega
  · rw [h i (by omega) (by omega) q, Dead, or_iff_right, or_iff_left]
    · intro d
      have := d.range hb
      omega
    · rintro ⟨rfl, -⟩
      omega
  · rw [h i (by omega) (by omega) q, Dead, or_iff_right, or_iff_right]
    · intro d
      have := d.range ha
      omega
    · rintro ⟨rfl, -⟩
      omega

theorem tells_optional {D : Nat → Cursor → Prop} {a : Regex} {greedy : Bool} {id : Nat}
    {F : Cursor → Prop} (ha : a.isPlain = true)
    (h : Tells D (repeated a 0 (some 1) greedy) id F) :
    (∀ q, D id q ↔ Fails (repeated a 0 (some 1) greedy).ways F q) ∧ Tells D a (id + 1) F := by
  rw [Tells, choices_optional] at h
  refine ⟨fun q => (h id (by omega) (by omega) q).trans ?_, fun i h₁ h₂ q => ?_⟩
  · rw [Dead, or_iff_left]
    · exact and_iff_right rfl
    · intro d
      have := d.range ha
      omega
  · rw [h i (by omega) (by omega) q, Dead, or_iff_right]
    rintro ⟨rfl, -⟩
    omega

theorem answers_run {start : Cursor} {D : Nat → Cursor → Prop} (r : Regex) :
    ∀ {id : Nat} {F : Cursor → Prop} {expected : Cursor → Captures → Option α} {k : Rest α}
      {p : Cursor} {P : Nat → Nat → Prop} {caps : Captures} {v : Visited},
    r.isPlain = true → Tells D r id F → (∀ q, F q → ∀ caps, expected q caps = none) →
    start.Reaches p → Before P p.position id → Sound start D P v →
    Continues start D k expected F p r.consumes (id + r.choices) →
    Answers start D P (firstOf (r.ways p) expected caps) (Fails r.ways F p)
      (r.run id k p caps v) := by
  have single {r : Regex} (hr : r.isPlain = true) (hc : r.choices = 0) {id : Nat}
      {F : Cursor → Prop} {expected : Cursor → Captures → Option α} {k : Rest α} {p : Cursor}
      {P : Nat → Nat → Prop} {caps : Captures} {v : Visited} (hp : start.Reaches p)
      (hP : Before P p.position id) (hv : Sound start D P v)
      (hk : Continues start D k expected F p r.consumes (id + r.choices)) :
      Answers start D P (firstOf (r.ways p) expected caps) (Fails r.ways F p)
        (r.run id k p caps v) :=
    (single_run hr hc id).answers hv fun w hw =>
      have reaches := forward_ways r p w hw
      hk w.1 P _ v (hp.trans reaches) reaches.position_le
        (fun m => position_lt_of_consumes m hw)
        (hP.mono reaches.position_le fun _ => Nat.le_add_right _ _) hv
  induction r with
  | empty => exact fun hr _ _ hp hP hv hk => single hr rfl hp hP hv hk
  | set s => exact fun hr _ _ hp hP hv hk => single hr rfl hp hP hv hk
  | look l => exact fun hr _ _ hp hP hv hk => single hr rfl hp hP hv hk
  | seq a b ha hb =>
    intro id F expected k p P caps v hr hD hF hp hP hv hk
    rw [isPlain, Bool.and_eq_true] at hr
    obtain ⟨hDa, hDb⟩ := tells_seq hr.1 hr.2 hD
    rw [ways, firstOf_andThen]
    refine (ha hr.1 hDa (fun q h caps => firstOf_eq_none hF h caps) hp hP hv ?_).of_iff
      fails_andThen.symm
    intro q P caps v hq hle hm hP hv
    refine hb hr.2 hDb hF hq hP hv (hk.mono hle (fun m => ?_) ?_)
    · rw [consumes, Bool.or_eq_true] at m
      exact m.symm.imp_right hm
    · rw [choices]
      omega
  | alt a b ha hb =>
    intro id F expected k p P caps v hr hD hF hp hP hv hk
    rw [isPlain, Bool.and_eq_true] at hr
    obtain ⟨hDhere, hDa, hDb⟩ := tells_alt hr.1 hr.2 hD
    have dead : Fails (alt a b).ways F p ↔ Fails a.ways F p ∧ Fails b.ways F p := by
      simp only [Fails, ways, List.mem_append]
      exact ⟨fun h => ⟨fun w hw => h w (.inl hw), fun w hw => h w (.inr hw)⟩,
        fun h w hw => hw.elim (h.1 w) (h.2 w)⟩
    rw [ways, firstOf_append, dead]
    rw [consumes, choices] at hk
    refine answers_choose hp ((hDhere p).trans dead) (fun h => firstOf_eq_none hF h caps) hP hv
      (fun v hv => ?_) fun v hv => ?_
    · exact ha hr.1 hDa hF hp hP.opening hv (hk.mono (Nat.le_refl _)
        (fun m => .inl (Bool.and_eq_true _ _ ▸ m).1) (by omega))
    · exact hb hr.2 hDb hF hp (hP.opening.mono (Nat.le_refl _) fun _ => Nat.le_add_right _ _) hv
        (hk.mono (Nat.le_refl _) (fun m => .inl (Bool.and_eq_true _ _ ▸ m).2) (by omega))
  | repeated a least most greedy ha =>
    intro id F expected k p P caps v hr hD hF hp hP hv hk
    cases most with
    | none =>
      simp only [isPlain, Bool.and_eq_true, decide_eq_true_iff] at hr
      obtain ⟨⟨hr, takes⟩, one⟩ := hr
      have many := choices_pos_of_unbounded a least greedy
      have hDhere (q : Cursor) : D id q ↔ Fails (waysAnyTimes a.ways greedy) F q :=
        (hD id (Nat.le_refl _) (by omega) q).trans (and_iff_right rfl)
      cases least with
      | zero =>
        rw [ways, run, if_pos takes, if_pos takes]
        refine (answers_onward hr one takes hF hDhere _ (Nat.lt_succ_self _) hp hP hv
          (hk.mono (Nat.le_refl _) (fun m => ?_) (by omega))).of_iff ?_
        · simp [consumes] at m
        · rw [Fails, Fails, ways, if_pos takes]
      | succ least =>
        have loop : id + least * a.choices + a.choices = id := by
          rw [one]
          rfl
        have dead : Fails (repeated a (least + 1) none greedy).ways F p ↔
            Fails (waysExactly a.ways least)
              (Fails (fun q => andThen (a.ways q) (waysAnyTimes a.ways greedy)) F) p :=
          fails_andThen
        rw [dead, ways, firstOf_andThen]
        refine (single_exactly (single_run hr one) a.choices least id).answers hv fun w hw => ?_
        rw [firstOf_andThen, fails_andThen]
        refine (single_run hr one _).answers hv fun x hx => ?_
        have first := forward_waysExactly (forward_ways a) least p w hw
        have next := forward_ways a w.1 x hx
        have le := first.position_le
        have moved := position_lt_of_consumes takes hx
        exact answers_onward hr one takes hF (loop.symm ▸ hDhere) _ (Nat.lt_succ_self _)
          (hp.trans (first.trans next)) (hP.mono (by omega) fun _ => by omega) hv
          (hk.mono (by omega) (fun _ => .inr (by omega)) (by omega))
    | some most =>
      simp only [isPlain, Bool.and_eq_true, decide_eq_true_iff] at hr
      obtain ⟨⟨hr, rfl⟩, rfl⟩ := hr
      obtain ⟨hDhere, hDa⟩ := tells_optional hr hD
      have dead : Fails (repeated a 0 (some 1) greedy).ways F p ↔ Fails a.ways F p ∧ F p := by
        rw [Fails, ways_optional, forall_mem_ordered, And.comm]
        rfl
      rw [choices_optional] at hk
      rw [ways_optional, firstOf_ordered, run_optional, dead]
      refine answers_moreOrEnd hp ((hDhere p).trans dead) (fun h => firstOf_eq_none hF h caps)
        (fun h => hF p h caps) hP hv (fun v hv => ?_) fun v hv => ?_
      · exact ha hr hDa hF hp hP.opening hv
          (hk.mono (Nat.le_refl _) (fun m => by simp [consumes] at m) (by omega))
      · exact hk p _ caps v hp (Nat.le_refl _) (fun m => by simp [consumes] at m)
          (hP.opening.mono (Nat.le_refl _) fun _ => by omega) hv
  | group index name a ha =>
    intro id F expected k p P caps v hr hD hF hp hP hv hk
    have same : firstOf ((group index name a).ways p) expected caps =
        firstOf (a.ways p) (fun q caps => expected q ((index, p.captureTo q) :: caps)) caps := by
      rw [ways, firstOf, firstOf, List.findSome?_map]
      rfl
    rw [same]
    refine (ha hr hD (fun q h caps => hF q h _) hp hP hv
      fun q P caps v hq hle hm hP hv => hk q P _ v hq hle hm hP hv).of_iff ?_
    simp only [Fails, ways, List.mem_map]
    constructor
    · rintro h w ⟨u, hu, rfl⟩
      exact h u hu
    · exact fun h w hw => h (w.1, (index, p.captureTo w.1) :: w.2) ⟨w, hw, rfl⟩

/-- A place where the pattern cannot start has no way. -/
theorem ways_eq_nil_of_not_mayStart {r : Regex} {p : Cursor} (h : ¬ r.mayStart p) :
    r.ways p = [] := by
  induction r with
  | empty => exact (h rfl).elim
  | set s =>
    rw [mayStart] at h
    rw [ways]
    cases e : p.after with
    | nil => rfl
    | cons c rest =>
      rw [e] at h
      simpa using h
  | look l =>
    rw [mayStart] at h
    rw [ways, if_neg h]
  | seq a b ha =>
    rw [ways, ha h]
    rfl
  | alt a b ha hb =>
    rw [mayStart, Bool.or_eq_true, not_or] at h
    rw [ways, ha h.1, hb h.2]
    rfl
  | repeated a least most greedy ha =>
    rw [mayStart, Bool.or_eq_true, not_or, decide_eq_true_iff] at h
    obtain ⟨least, rfl⟩ := Nat.exists_eq_succ_of_ne_zero h.1
    have none_first (n : Nat) (rest : Cursor → List Way) (hrest : rest p = []) :
        andThen (waysExactly a.ways n p) rest = [] := by
      cases n with
      | zero => rw [waysExactly, andThen_here, hrest]
      | succ n =>
        rw [waysExactly, ha h.2]
        rfl
    cases most with
    | none =>
      refine none_first least _ ?_
      rw [ha h.2]
      rfl
    | some most =>
      rw [ways, waysExactly, ha h.2]
      rfl
  | group index name a ha =>
    rw [ways, ha h]
    rfl

/-- For a plain pattern the match that is found at a place is the first way from there. -/
theorem matchAt?_eq_head? {r : Regex} (hr : r.isPlain = true) (p : Cursor) :
    r.matchAt? p = (r.ways p).head?.map fun w => (0, p.captureTo w.1) :: w.2 := by
  rw [matchAt?]
  split
  · have answer : Answers p (r.Dead 0 fun _ => False) (fun _ _ => False)
        (firstOf (r.ways p) (fun q caps => some ((0, p.captureTo q) :: caps)) [])
        (Fails r.ways (fun _ => False) p)
        (r.run 0 (fun q caps _ => .ok ((0, p.captureTo q) :: caps)) p [] ∅) :=
      answers_run r hr (fun _ _ _ _ => Iff.rfl) (fun _ h => h.elim) .here
        (fun _ _ h => h.elim) (fun i q _ h => by simp at h) fun _ _ _ _ _ _ _ _ _ => rfl
    have expected : firstOf (r.ways p) (fun q caps => some ((0, p.captureTo q) :: caps)) [] =
        (r.ways p).head?.map fun w => (0, p.captureTo w.1) :: w.2 := by
      cases r.ways p <;> simp [firstOf]
    rw [expected] at answer
    cases e : r.run 0 (fun q caps _ => .ok ((0, p.captureTo q) :: caps)) p [] ∅ with
    | ok caps =>
      rw [e] at answer
      exact (show _ = some caps from answer).symm
    | error v =>
      rw [e] at answer
      cases hw : r.ways p with
      | nil => rfl
      | cons w ws => exact (answer.1 w (hw ▸ List.mem_cons_self)).elim
  · next h =>
    rw [ways_eq_nil_of_not_mayStart h]
    rfl

end Lapse.Regex
