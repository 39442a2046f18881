import Lapse.Regex.Search

/-!
# Ways to match

All ways to match a pattern at a place, the preferred ones first, each with the place it leads to
and the captures made on it.
-/
namespace Lapse.Regex

/-- The place that a way leads to and the captures made on it, the latest first. -/
abbrev Way := Cursor × Captures

/-- The ways of `ways`, each continued by those that `next` gives where it ends. -/
def andThen (ways : List Way) (next : Cursor → List Way) : List Way :=
  ways.flatMap fun w => (next w.1).map fun x => (x.1, x.2 ++ w.2)

/-- First `more` and then the end at once, or the other way round. -/
def ordered (greedy : Bool) (p : Cursor) (more : List Way) : List Way :=
  if greedy then more ++ [(p, [])] else (p, []) :: more

def waysExactly (m : Cursor → List Way) : Nat → Cursor → List Way
  | 0, p => [(p, [])]
  | n + 1, p => andThen (m p) (waysExactly m n)

def waysAtMost (m : Cursor → List Way) (greedy : Bool) : Nat → Cursor → List Way
  | 0, p => [(p, [])]
  | n + 1, p => ordered greedy p (andThen (m p) (waysAtMost m greedy n))

/-- Any number of times `m`, each of which takes some of the text. -/
def waysOnward (m : Cursor → List Way) (greedy : Bool) : (fuel : Nat) → Cursor → List Way
  | 0, _ => []
  | fuel + 1, p =>
    ordered greedy p
      (andThen ((m p).filter fun w => p.position < w.1.position) (waysOnward m greedy fuel))

def waysAnyTimes (m : Cursor → List Way) (greedy : Bool) (p : Cursor) : List Way :=
  waysOnward m greedy (p.after.length + 1) p

/-- The ways to match at a place. A repetition may begin with one time that takes nothing. -/
def ways : Regex → Cursor → List Way
  | empty, p => [(p, [])]
  | set s, p =>
    match p.after with
    | [] => []
    | c :: rest => if s.mem c then [(p.past c rest, [])] else []
  | look l, p => if l.holds p then [(p, [])] else []
  | seq a b, p => andThen (a.ways p) b.ways
  | alt a b, p => a.ways p ++ b.ways p
  | repeated a 0 none greedy, p =>
    if a.consumes then waysAnyTimes a.ways greedy p
    else ordered greedy p (andThen (a.ways p) (waysAnyTimes a.ways greedy))
  | repeated a (least + 1) none greedy, p =>
    andThen (waysExactly a.ways least p) fun q =>
      andThen (a.ways q) (waysAnyTimes a.ways greedy)
  | repeated a least (some most) greedy, p =>
    andThen (waysExactly a.ways least p) (waysAtMost a.ways greedy (most - least))
  | group index _ a, p =>
    (a.ways p).map fun w => (w.1, (index, p.captureTo w.1) :: w.2)

/-- One place lies behind another in the same text. -/
inductive Cursor.Reaches (p : Cursor) : Cursor → Prop
  | here : Reaches p p
  | past {q : Cursor} {c : Char} {rest : List Char} :
      Reaches p q → q.after = c :: rest → Reaches p (q.past c rest)

namespace Cursor.Reaches

theorem trans {p q r : Cursor} (h : p.Reaches q) (k : q.Reaches r) : p.Reaches r := by
  induction k with
  | here => exact h
  | past _ e ih => exact ih.past e

theorem position_le {p q : Cursor} (h : p.Reaches q) : p.position ≤ q.position := by
  induction h with
  | here => exact Nat.le_refl _
  | past _ _ ih => exact Nat.le_succ_of_le ih

theorem position_add_length {p q : Cursor} (h : p.Reaches q) :
    q.position + q.after.length = p.position + p.after.length := by
  induction h with
  | here => rfl
  | @past q c rest _ e ih =>
    rw [← ih, e]
    simp only [Cursor.past, List.length_cons]
    omega

theorem eq_of_position_eq {p q r : Cursor} (h : p.Reaches q) (k : p.Reaches r)
    (e : q.position = r.position) : q = r := by
  induction h generalizing r with
  | here =>
    cases k with
    | here => rfl
    | past k _ =>
      have := k.position_le
      simp only [Cursor.past] at e
      omega
  | @past q c rest h eq ih =>
    cases k with
    | here =>
      have := h.position_le
      simp only [Cursor.past] at e
      omega
    | @past r d rest' k er =>
      have : q = r := ih k (by simpa only [Cursor.past, Nat.add_right_cancel_iff] using e)
      subst this
      rw [eq] at er
      cases er
      rfl

end Cursor.Reaches

theorem mem_andThen {xs : List Way} {f : Cursor → List Way} {w : Way} :
    w ∈ andThen xs f ↔ ∃ u ∈ xs, ∃ x ∈ f u.1, (x.1, x.2 ++ u.2) = w := by
  simp only [andThen, List.mem_flatMap, List.mem_map]

theorem mem_ordered {greedy : Bool} {p : Cursor} {more : List Way} {w : Way} :
    w ∈ ordered greedy p more ↔ w = (p, []) ∨ w ∈ more := by
  cases greedy <;> simp [ordered, or_comm]

/-- All ways lead on in the text. -/
def Forward (m : Cursor → List Way) : Prop := ∀ p, ∀ w ∈ m p, p.Reaches w.1

theorem Forward.andThen {m : Cursor → List Way} (hm : Forward m) {p : Cursor} {xs : List Way}
    (h : ∀ w ∈ xs, p.Reaches w.1) : ∀ w ∈ andThen xs m, p.Reaches w.1 := by
  intro w hw
  obtain ⟨u, hu, x, hx, rfl⟩ := mem_andThen.1 hw
  exact (h u hu).trans (hm _ x hx)

theorem forward_waysExactly {m : Cursor → List Way} (hm : Forward m) (n : Nat) :
    Forward (waysExactly m n) := by
  induction n with
  | zero =>
    intro p w hw
    rw [waysExactly, List.mem_singleton] at hw
    exact hw ▸ .here
  | succ n ih => exact fun p => ih.andThen (hm p)

theorem forward_ordered {greedy : Bool} {p : Cursor} {more : List Way}
    (h : ∀ w ∈ more, p.Reaches w.1) : ∀ w ∈ ordered greedy p more, p.Reaches w.1 := by
  intro w hw
  rcases mem_ordered.1 hw with rfl | hw
  · exact .here
  · exact h w hw

theorem forward_waysAtMost {m : Cursor → List Way} (hm : Forward m) (greedy : Bool) (n : Nat) :
    Forward (waysAtMost m greedy n) := by
  induction n with
  | zero =>
    intro p w hw
    rw [waysAtMost, List.mem_singleton] at hw
    exact hw ▸ .here
  | succ n ih => exact fun p => forward_ordered (ih.andThen (hm p))

theorem forward_waysOnward {m : Cursor → List Way} (hm : Forward m) (greedy : Bool)
    (fuel : Nat) : Forward (waysOnward m greedy fuel) := by
  induction fuel with
  | zero =>
    intro p w hw
    simp [waysOnward] at hw
  | succ fuel ih =>
    exact fun p => forward_ordered
      (ih.andThen fun w hw => hm p w (List.mem_filter.1 hw).1)

theorem forward_waysAnyTimes {m : Cursor → List Way} (hm : Forward m) (greedy : Bool) :
    Forward (waysAnyTimes m greedy) := fun p => forward_waysOnward hm greedy _ p

theorem forward_ways (r : Regex) : Forward r.ways := by
  induction r with
  | empty =>
    intro p w hw
    rw [ways, List.mem_singleton] at hw
    exact hw ▸ .here
  | set s =>
    intro p w hw
    rw [ways] at hw
    split at hw
    · simp at hw
    · next c rest e =>
      split at hw
      · rw [List.mem_singleton] at hw
        exact hw ▸ Cursor.Reaches.here.past e
      · simp at hw
  | look l =>
    intro p w hw
    rw [ways] at hw
    split at hw
    · rw [List.mem_singleton] at hw
      exact hw ▸ .here
    · simp at hw
  | seq a b ha hb => exact fun p => hb.andThen (ha p)
  | alt a b ha hb =>
    intro p w hw
    rw [ways, List.mem_append] at hw
    exact hw.elim (ha p w) (hb p w)
  | repeated a least most greedy ha =>
    have many := forward_waysAnyTimes ha greedy
    cases most with
    | some most =>
      intro p w hw
      rw [ways] at hw
      exact (forward_waysAtMost ha greedy _).andThen (forward_waysExactly ha least p) w hw
    | none =>
      cases least with
      | zero =>
        intro p w hw
        rw [ways] at hw
        split at hw
        · exact many p w hw
        · exact forward_ordered (many.andThen (ha p)) w hw
      | succ least =>
        intro p
        have once : Forward fun q => andThen (a.ways q) (waysAnyTimes a.ways greedy) :=
          fun q => many.andThen (ha q)
        exact once.andThen (forward_waysExactly ha least p)
  | group index name a ha =>
    intro p w hw
    rw [ways, List.mem_map] at hw
    obtain ⟨u, hu, rfl⟩ := hw
    exact ha p u hu

variable {α : Type}

/-- A failure keeps the choices that had been met before. -/
def Grows (k : Rest α) : Prop :=
  ∀ p caps v v', k p caps v = .error v' → ∀ x ∈ v, x ∈ v'

/-- `k` gives `a` at the end of one of `ws`. -/
def Leads (ws : List Way) (k : Rest α) (caps : Captures) (v : Visited) (a : α) : Prop :=
  ∃ w ∈ ws, ∃ v' : Visited, (∀ x ∈ v, x ∈ v') ∧ k w.1 (w.2 ++ caps) v' = .ok a

/-- Keeps growth, and what it finds lies at the end of one of the ways `ws`. -/
structure Follows (m : Rest α → Rest α) (ws : Cursor → List Way) : Prop where
  grows {k : Rest α} : Grows k → Grows (m k)
  leads {k : Rest α} {p : Cursor} {caps : Captures} {v : Visited} {a : α} :
    Grows k → m k p caps v = .ok a → Leads (ws p) k caps v a

theorem Leads.weaken {ws : List Way} {k : Rest α} {caps : Captures} {v v₀ : Visited} {a : α}
    (h : Leads ws k caps v a) (hv : ∀ x ∈ v₀, x ∈ v) : Leads ws k caps v₀ a := by
  obtain ⟨w, hw, v', hv', hk⟩ := h
  exact ⟨w, hw, v', fun x hx => hv' x (hv x hx), hk⟩

theorem Leads.mono {ws ws' : List Way} {k : Rest α} {caps : Captures} {v : Visited} {a : α}
    (h : Leads ws k caps v a) (hws : ∀ w ∈ ws, w ∈ ws') : Leads ws' k caps v a := by
  obtain ⟨w, hw, v', hv', hk⟩ := h
  exact ⟨w, hws w hw, v', hv', hk⟩

theorem Leads.andThen {xs : List Way} {ws : Cursor → List Way} {m : Rest α → Rest α} {k : Rest α}
    {caps : Captures} {v : Visited} {a : α} (hm : Follows m ws) (hk : Grows k)
    (h : Leads xs (m k) caps v a) : Leads (andThen xs ws) k caps v a := by
  obtain ⟨w, hw, v', hv', e⟩ := h
  obtain ⟨x, hx, v'', hv'', e'⟩ := hm.leads hk e
  refine ⟨(x.1, x.2 ++ w.2), mem_andThen.2 ⟨w, hw, x, hx, rfl⟩, v'',
    fun y hy => hv'' y (hv' y hy), ?_⟩
  rwa [List.append_assoc]

theorem mem_insert_self (v : Visited) (x : Nat × Nat) : x ∈ v.insert x := by
  simp

theorem mem_insert_of_mem {v : Visited} {x : Nat × Nat} (y : Nat × Nat) (h : x ∈ v) :
    x ∈ v.insert y := by
  simp [h]

theorem grows_choose {id : Nat} {first second : Rest α} (h₁ : Grows first) (h₂ : Grows second) :
    Grows (choose id first second) := by
  intro p caps v v' h x hx
  rw [choose] at h
  split at h
  · cases h
    exact hx
  · split at h
    · cases h
    · next v₁ e => exact h₂ _ _ _ _ h x (h₁ _ _ _ _ e x (mem_insert_of_mem _ hx))

/-- A choice succeeds by one of its sides, at a place where it has not been met. -/
theorem eq_ok_of_choose {id : Nat} {first second : Rest α} {p : Cursor} {caps : Captures}
    {v : Visited} {a : α} (h₁ : Grows first) (h : choose id first second p caps v = .ok a) :
    (id, p.position) ∉ v ∧ ∃ v' : Visited, (∀ x ∈ v.insert (id, p.position), x ∈ v') ∧
      (first p caps v' = .ok a ∨ second p caps v' = .ok a) := by
  rw [choose] at h
  split at h
  · cases h
  · next hv =>
    refine ⟨by simpa using hv, ?_⟩
    split at h
    · next e => exact ⟨_, fun x hx => hx, .inl (e.trans h)⟩
    · next v₁ e => exact ⟨v₁, h₁ _ _ _ _ e, .inr h⟩

theorem grows_moreOrEnd {greedy : Bool} {id : Nat} {more stop : Rest α} (h₁ : Grows more)
    (h₂ : Grows stop) : Grows (moreOrEnd greedy id more stop) := by
  cases greedy
  · exact grows_choose h₂ h₁
  · exact grows_choose h₁ h₂

theorem eq_ok_of_moreOrEnd {greedy : Bool} {id : Nat} {more stop : Rest α} {p : Cursor}
    {caps : Captures} {v : Visited} {a : α} (h₁ : Grows more) (h₂ : Grows stop)
    (h : moreOrEnd greedy id more stop p caps v = .ok a) :
    (id, p.position) ∉ v ∧ ∃ v' : Visited, (∀ x ∈ v.insert (id, p.position), x ∈ v') ∧
      (more p caps v' = .ok a ∨ stop p caps v' = .ok a) := by
  cases greedy
  · obtain ⟨hv, v', hv', e⟩ := eq_ok_of_choose h₂ h
    exact ⟨hv, v', hv', e.symm⟩
  · exact eq_ok_of_choose h₁ h

/-- One more time leads to `ws`, an end to nothing more. -/
theorem leads_of_moreOrEnd {greedy : Bool} {id : Nat} {more k : Rest α} {p : Cursor}
    {caps : Captures} {v : Visited} {a : α} {ws : List Way} (h₁ : Grows more) (h₂ : Grows k)
    (hm : ∀ v, more p caps v = .ok a → Leads ws k caps v a)
    (h : moreOrEnd greedy id more k p caps v = .ok a) :
    Leads (ordered greedy p ws) k caps v a := by
  obtain ⟨-, v', hv', e⟩ := eq_ok_of_moreOrEnd h₁ h₂ h
  have hv : ∀ x ∈ v, x ∈ v' := fun x hx => hv' x (mem_insert_of_mem _ hx)
  rcases e with e | e
  · exact ((hm v' e).weaken hv).mono fun w hw => mem_ordered.2 (.inr hw)
  · exact ⟨(p, []), mem_ordered.2 (.inl rfl), v', hv, e⟩

theorem follows_exactly {m : Nat → Rest α → Rest α} {ws : Cursor → List Way}
    (hm : ∀ id, Follows (m id) ws) (width n : Nat) :
    ∀ id, Follows (exactly m width n id) (waysExactly ws n) := by
  induction n with
  | zero =>
    exact fun id => ⟨fun h => h, fun {k p caps v a} _ h =>
      ⟨(p, []), List.mem_singleton.2 rfl, v, fun x hx => hx, h⟩⟩
  | succ n ih =>
    exact fun id => ⟨fun h => (hm id).grows ((ih _).grows h),
      fun hk h => ((hm id).leads ((ih _).grows hk) h).andThen (ih _) hk⟩

theorem follows_atMost {m : Nat → Rest α → Rest α} {ws : Cursor → List Way}
    (hm : ∀ id, Follows (m id) ws) (width : Nat) (greedy : Bool) (n : Nat) :
    ∀ id, Follows (fun k => atMost m width greedy k n id) (waysAtMost ws greedy n) := by
  induction n with
  | zero =>
    exact fun id => ⟨fun h => h, fun {k p caps v a} _ h =>
      ⟨(p, []), List.mem_singleton.2 rfl, v, fun x hx => hx, h⟩⟩
  | succ n ih =>
    exact fun id => ⟨fun h => grows_moreOrEnd ((hm _).grows ((ih _).grows h)) h,
      fun {k p caps v a} hk h => leads_of_moreOrEnd ((hm _).grows ((ih _).grows hk)) hk
        (fun v e => ((hm _).leads ((ih _).grows hk) e).andThen (ih _) hk) h⟩

theorem grows_onward {m : Rest α → Rest α} (hm : ∀ {k : Rest α}, Grows k → Grows (m k))
    (greedy : Bool) (id : Nat) {k : Rest α} (hk : Grows k) (fuel : Nat) :
    Grows (onward m greedy id k fuel) := by
  induction fuel with
  | zero =>
    intro p caps v v' h x hx
    cases h
    exact hx
  | succ fuel ih => exact grows_moreOrEnd (hm ih) hk

theorem follows_onward {m : Rest α → Rest α} {ws : Cursor → List Way} (hm : Follows m ws)
    (hws : Forward ws) (greedy : Bool) (id fuel : Nat) :
    Follows (fun k => onward m greedy id k fuel) (waysOnward ws greedy fuel) := by
  induction fuel with
  | zero => exact ⟨fun hk => grows_onward hm.grows greedy id hk 0, fun _ h => by cases h⟩
  | succ fuel ih =>
    refine ⟨fun hk => grows_onward hm.grows greedy id hk _, fun {k p caps v a} hk h => ?_⟩
    obtain ⟨-, v', hv', e⟩ := eq_ok_of_moreOrEnd (hm.grows (ih.grows hk)) hk h
    have hv : ∀ x ∈ v, x ∈ v' := fun x hx => hv' x (mem_insert_of_mem _ hx)
    rcases e with e | e
    · obtain ⟨w, hw, v₁, hv₁, e₁⟩ := hm.leads (ih.grows hk) e
      have moved : p.position < w.1.position := by
        refine Nat.lt_of_le_of_ne (hws p w hw).position_le fun same => ?_
        cases fuel with
        | zero => cases e₁
        | succ fuel =>
          have met := (eq_ok_of_moreOrEnd
            (hm.grows (grows_onward hm.grows greedy id hk fuel)) hk e₁).1
          exact met (same ▸ hv₁ _ (hv' _ (mem_insert_self _ _)))
      have first : Leads ((ws p).filter fun w => p.position < w.1.position)
          (onward m greedy id k fuel) caps v' a :=
        ⟨w, List.mem_filter.2 ⟨hw, by simpa using moved⟩, v₁, hv₁, e₁⟩
      exact ((first.andThen ih hk).weaken hv).mono fun w hw => mem_ordered.2 (.inr hw)
    · exact ⟨(p, []), mem_ordered.2 (.inl rfl), v', hv, e⟩

theorem follows_anyTimes {m : Rest α → Rest α} {ws : Cursor → List Way} (hm : Follows m ws)
    (hws : Forward ws) (greedy : Bool) (id : Nat) :
    Follows (anyTimes m greedy id) (waysAnyTimes ws greedy) where
  grows hk p caps v v' h x hx := (follows_onward hm hws greedy id _).grows hk p caps v v' h x hx
  leads hk h := (follows_onward hm hws greedy id _).leads hk h

/-- Whatever a search finds lies at the end of a way. -/
theorem follows_run (r : Regex) : ∀ id, Follows (α := α) (r.run id) r.ways := by
  induction r with
  | empty =>
    exact fun id => ⟨fun h => h, fun {k p caps v a} _ h =>
      ⟨(p, []), List.mem_singleton.2 rfl, v, fun x hx => hx, h⟩⟩
  | set s =>
    refine fun id => ⟨fun hk p caps v v' h x hx => ?_, fun {k p caps v a} _ h => ?_⟩
    · simp only [run] at h
      split at h
      · cases h
        exact hx
      · split at h
        · exact hk _ _ _ _ h x hx
        · cases h
          exact hx
    · simp only [run] at h
      split at h
      · cases h
      · next c rest e =>
        split at h
        · next hc =>
          refine ⟨(p.past c rest, []), ?_, v, fun x hx => hx, h⟩
          rw [ways, e]
          simp [hc]
        · cases h
  | look l =>
    refine fun id => ⟨fun hk p caps v v' h x hx => ?_, fun {k p caps v a} _ h => ?_⟩
    · simp only [run] at h
      split at h
      · exact hk _ _ _ _ h x hx
      · cases h
        exact hx
    · simp only [run] at h
      split at h
      · next hl => exact ⟨(p, []), by simp [ways, hl], v, fun x hx => hx, h⟩
      · cases h
  | seq a b ha hb =>
    exact fun id => ⟨fun hk => (ha id).grows ((hb _).grows hk),
      fun hk h => ((ha id).leads ((hb _).grows hk) h).andThen (hb _) hk⟩
  | alt a b ha hb =>
    refine fun id => ⟨fun hk => grows_choose ((ha _).grows hk) ((hb _).grows hk),
      fun {k p caps v x} hk h => ?_⟩
    obtain ⟨-, v', hv', e⟩ := eq_ok_of_choose ((ha _).grows hk) h
    have hv : ∀ y ∈ v, y ∈ v' := fun y hy => hv' y (mem_insert_of_mem _ hy)
    rcases e with e | e
    · exact (((ha _).leads hk e).weaken hv).mono fun w hw => List.mem_append.2 (.inl hw)
    · exact (((hb _).leads hk e).weaken hv).mono fun w hw => List.mem_append.2 (.inr hw)
  | repeated a least most greedy ha =>
    have many (id body : Nat) := follows_anyTimes (ha body) (forward_ways a) greedy id
    intro id
    cases most with
    | some most =>
      have copies := follows_exactly ha a.choices least id
      have extra := follows_atMost ha a.choices greedy (most - least) (id + least * a.choices)
      constructor
      · intro k hk
        rw [run]
        exact copies.grows (extra.grows hk)
      · intro k p caps v x hk h
        rw [run] at h
        rw [ways]
        exact (copies.leads (extra.grows hk) h).andThen extra hk
    | none =>
      cases least with
      | zero =>
        constructor
        · intro k hk
          rw [run]
          split
          · exact (many _ _).grows hk
          · exact grows_moreOrEnd ((ha _).grows ((many _ _).grows hk)) hk
        · intro k p caps v x hk h
          rw [run] at h
          rw [ways]
          split at h
          · next hc =>
            rw [if_pos hc]
            exact (many _ _).leads hk h
          · next hc =>
            rw [if_neg hc]
            exact leads_of_moreOrEnd ((ha _).grows ((many _ _).grows hk)) hk
              (fun v e => ((ha _).leads ((many _ _).grows hk) e).andThen (many _ _) hk) h
      | succ least =>
        have copies := follows_exactly ha a.choices least id
        have last (k : Rest α) (hk : Grows k) := (ha (id + least * a.choices)).grows
          ((many (id + least * a.choices + a.choices) (id + least * a.choices)).grows hk)
        constructor
        · exact fun {k} hk => copies.grows (last k hk)
        · intro k p caps v x hk h
          have once : Follows (fun k : Rest α => a.run (id + least * a.choices)
              (anyTimes (a.run (id + least * a.choices)) greedy
                (id + least * a.choices + a.choices) k))
              (fun q => andThen (a.ways q) (waysAnyTimes a.ways greedy)) :=
            ⟨last _, fun hk h => ((ha _).leads ((many _ _).grows hk) h).andThen (many _ _) hk⟩
          exact (copies.leads (last k hk) h).andThen once hk
  | group index name a ha =>
    have inner {k : Rest α} (hk : Grows k) (p : Cursor) :
        Grows fun q caps v => k q ((index, p.captureTo q) :: caps) v :=
      fun q caps => hk q _
    refine fun id => ⟨fun hk p caps => (ha id).grows (inner hk p) p caps,
      fun {k p caps v x} hk h => ?_⟩
    obtain ⟨w, hw, v', hv', e⟩ := (ha id).leads (inner hk p) h
    exact ⟨(w.1, (index, p.captureTo w.1) :: w.2), List.mem_map.2 ⟨w, hw, rfl⟩, v', hv', e⟩

/-- What is found at a place are the captures of a way from there. -/
theorem exists_way_of_matchAt? {r : Regex} {p : Cursor} {caps : Captures}
    (h : r.matchAt? p = some caps) :
    ∃ w ∈ r.ways p, caps = (0, p.captureTo w.1) :: w.2 := by
  rw [matchAt?] at h
  split at h
  · cases e : r.run 0 (fun q caps _ => .ok ((0, p.captureTo q) :: caps)) p [] ∅ with
    | error v =>
      rw [e] at h
      cases h
    | ok a =>
      rw [e] at h
      cases h
      have grows : Grows fun (q : Cursor) (caps : Captures) (_ : Visited) =>
          Except.ok ((0, p.captureTo q) :: caps) := fun p caps v v' h => by cases h
      obtain ⟨w, hw, v', -, e'⟩ := (r.follows_run 0).leads grows e
      simp only [List.append_nil, Except.ok.injEq] at e'
      exact ⟨w, hw, e'.symm⟩
  · cases h

end Lapse.Regex
