import Mathlib
import Lapse.Regex.First

/-!
# The memory of a search

A search does not meet a choice twice at one place. The choices that a failed search has met lead to
one another and to failures, never to a match, so what is left out because of them would have failed
as well: a search finds the same whatever failed searches for the same have been made before, and
however its choices are numbered.
-/
namespace Lapse.Regex

/-- Where a search stands: at an end, or in front of a choice. -/
inductive Point
  | failure
  | success
  | choice (id : Nat) (p : Cursor)

/-- Where the two sides of a choice lead from a place, the side that is tried first in front. -/
abbrev Fork := Cursor → Point × Point

/-- The choices from the number `id` on lead where `forks` say. -/
def Numbered (S : Nat → Fork) : (id : Nat) → (forks : List Fork) → Prop
  | _, [] => True
  | id, fork :: forks => S id = fork ∧ Numbered S (id + 1) forks

theorem numbered_append {S : Nat → Fork} {id : Nat} {forks others : List Fork} :
    Numbered S id (forks ++ others) ↔
      Numbered S id forks ∧ Numbered S (id + forks.length) others := by
  induction forks generalizing id with
  | nil => simp [Numbered]
  | cons fork forks ih =>
    rw [List.cons_append, Numbered, Numbered, ih, and_assoc, List.length_cons, Nat.add_right_comm,
      ← Nat.add_assoc]

theorem Numbered.congr {S S' : Nat → Fork} {id : Nat} {forks : List Fork}
    (h : Numbered S id forks) (hsame : ∀ i, id ≤ i → S' i = S i) : Numbered S' id forks := by
  induction forks generalizing id with
  | nil => trivial
  | cons fork forks ih =>
    exact ⟨(hsame id (Nat.le_refl _)).trans h.1, ih h.2 fun i hi => hsame i (Nat.le_of_succ_le hi)⟩

theorem exists_numbered (id : Nat) (forks : List Fork) : ∃ S, Numbered S id forks := by
  induction forks generalizing id with
  | nil => exact ⟨fun _ _ => (.failure, .failure), trivial⟩
  | cons fork forks ih =>
    obtain ⟨S, hS⟩ := ih (id + 1)
    refine ⟨fun i => if i = id then fork else S i, if_pos rfl, hS.congr fun i hi => if_neg ?_⟩
    exact Nat.ne_of_gt hi

variable {α : Type}

/-- The choices that have been met, by their numbers without the first number `d`. -/
def met (d : Nat) (v : Visited) : Set (Nat × Nat) := {x | (d + x.1, x.2) ∈ v}

theorem met_insert (d id position : Nat) (v : Visited) :
    met d (v.insert (d + id, position)) = insert (id, position) (met d v) := by
  ext ⟨i, j⟩
  simp only [met, Set.mem_ofPred_eq, Set.mem_insert_iff, Std.HashSet.mem_insert, beq_iff_eq,
    Prod.mk.injEq, Nat.add_left_cancel_iff, @eq_comm _ id i, @eq_comm _ position j]

theorem insert_subset_met {d : Nat} {path : Set (Nat × Nat)} {v : Visited} (h : path ⊆ met d v)
    (id position : Nat) :
    insert (id, position) path ⊆ met d (v.insert (d + id, position)) := by
  rw [met_insert]
  exact Set.insert_subset_insert h

/-- A choice at the place `p`, its sides given from there on. -/
def meet (id : Nat) (p : Cursor) (first second : Visited → Except Visited α) (v : Visited) :
    Except Visited α :=
  if v.contains (id, p.position) then .error v
  else
    match first (v.insert (id, p.position)) with
    | .ok a => .ok a
    | .error w => second w

section Meet

variable {id : Nat} {p : Cursor} {first second : Visited → Except Visited α} {v : Visited}

theorem choose_eq_meet (id : Nat) (first second : Rest α) (p : Cursor) (caps : Captures) :
    choose id first second p caps = meet id p (first p caps) (second p caps) := rfl

theorem meet_of_mem (h : (id, p.position) ∈ v) : meet id p first second v = .error v :=
  if_pos (by simpa using h)

theorem meet_of_ok {a : α} (h : (id, p.position) ∉ v)
    (hfirst : first (v.insert (id, p.position)) = .ok a) : meet id p first second v = .ok a := by
  rw [meet, if_neg (by simpa using h), hfirst]

theorem meet_of_error {w : Visited} (h : (id, p.position) ∉ v)
    (hfirst : first (v.insert (id, p.position)) = .error w) :
    meet id p first second v = second w := by
  rw [meet, if_neg (by simpa using h), hfirst]

end Meet

/-- Two searches that go the same way from a point through the choices `S`, which they number from
`d` and from `d'` on, to results that `R` relates. On the path they have met the choices `path`. -/
inductive Walk (start : Cursor) (S : Nat → Fork) (R : α → α → Prop) (d d' : Nat) :
    (path : Set (Nat × Nat)) → Point → (Visited → Except Visited α) →
      (Visited → Except Visited α) → Prop
  | failure {path : Set (Nat × Nat)} : Walk start S R d d' path .failure .error .error
  | success {path : Set (Nat × Nat)} {a b : α} (h : R a b) :
      Walk start S R d d' path .success (fun _ => .ok a) (fun _ => .ok b)
  | choice {path : Set (Nat × Nat)} {id : Nat} {p : Cursor}
      {first second first' second' : Visited → Except Visited α} (hp : start.Reaches p)
      (hfirst : Walk start S R d d' (insert (id, p.position) path) (S id p).1 first first')
      (hsecond : Walk start S R d d' (insert (id, p.position) path) (S id p).2 second second') :
      Walk start S R d d' path (.choice id p) (meet (d + id) p first second)
        (meet (d' + id) p first' second')
  | again {path : Set (Nat × Nat)} {id : Nat} {p : Cursor}
      {f f' : Visited → Except Visited α} (hpath : (id, p.position) ∈ path)
      (hf : ∀ v, (d + id, p.position) ∈ v → f v = .error v)
      (hf' : ∀ v, (d' + id, p.position) ∈ v → f' v = .error v) :
      Walk start S R d d' path (.choice id p) f f'

/-- A point from which nothing is met but `D`, as far as one choice. -/
def Point.Within (D : Set (Nat × Nat)) : Point → Prop
  | failure => True
  | success => False
  | choice id p => (id, p.position) ∈ D

theorem Point.Within.mono {D D' : Set (Nat × Nat)} (h : D ⊆ D') :
    ∀ {point : Point}, point.Within D → point.Within D'
  | .failure, _ => trivial
  | .choice _ _, hpoint => h hpoint

/-- The choices `D` lead to one another and to failures only. -/
def Closed (start : Cursor) (S : Nat → Fork) (D : Set (Nat × Nat)) : Prop :=
  ∀ id p, start.Reaches p → (id, p.position) ∈ D → (S id p).1.Within D ∧ (S id p).2.Within D

/-- What a failed search from `point` has done to the choices that have been met. -/
structure Explored (start : Cursor) (S : Nat → Fork) (d : Nat) (v w : Visited) (point : Point) :
    Prop where
  grows : ∀ x ∈ v, x ∈ w
  within : point.Within (met d w)
  closed : ∀ id p, start.Reaches p → (id, p.position) ∈ met d w → (id, p.position) ∉ met d v →
    (S id p).1.Within (met d w) ∧ (S id p).2.Within (met d w)
  numbered : ∀ x ∈ w, x ∈ v ∨ d ≤ x.1

section Walk

variable {start : Cursor} {S : Nat → Fork} {R : α → α → Prop} {d d' : Nat}
  {path D : Set (Nat × Nat)} {point : Point} {f f' : Visited → Except Visited α} {v v' w : Visited}

theorem Explored.met_subset (h : Explored start S d v w point) : met d v ⊆ met d w :=
  fun _ hx => h.grows _ hx

theorem Explored.refl (h : point.Within (met d v)) : Explored start S d v v point where
  grows _ hx := hx
  within := h
  closed _ _ _ hmem hnot := absurd hmem hnot
  numbered _ hx := .inl hx

theorem Explored.closed_met (h : Explored start S d v w point) (hv : Closed start S (met d v)) :
    Closed start S (met d w) := by
  intro id p hp hmem
  by_cases hold : (id, p.position) ∈ met d v
  · exact (hv id p hp hold).imp (.mono h.met_subset) (.mono h.met_subset)
  · exact h.closed id p hp hmem hold

/-- A choice has failed when both sides have, one after the other. -/
theorem Explored.choice {id : Nat} {p : Cursor} {u : Visited} (hp : start.Reaches p)
    (hu : Explored start S d (v.insert (d + id, p.position)) u (S id p).1)
    (hw : Explored start S d u w (S id p).2) : Explored start S d v w (.choice id p) where
  grows x hx := hw.grows x (hu.grows x (mem_insert_of_mem _ hx))
  within := hw.grows _ (hu.grows _ (mem_insert_self v _))
  closed i q hq hmet hnew := by
    by_cases hold : (i, q.position) ∈ met d u
    · by_cases hsame : (i, q.position) = (id, p.position)
      · obtain ⟨rfl, hposition⟩ := Prod.mk.inj hsame
        obtain rfl := hq.eq_of_position_eq hp hposition
        exact ⟨hu.within.mono hw.met_subset, hw.within⟩
      · have hfresh : (i, q.position) ∉ met d (v.insert (d + id, p.position)) := by
          rw [met_insert]
          exact fun h => h.elim hsame hnew
        exact (hu.closed i q hq hold hfresh).imp (.mono hw.met_subset) (.mono hw.met_subset)
    · exact hw.closed i q hq hmet hold
  numbered x hx := by
    rcases hw.numbered x hx with hx | hbig
    · rcases hu.numbered x hx with hx | hbig
      · rcases Std.HashSet.mem_insert.1 hx with hsame | hold
        · obtain rfl := eq_of_beq hsame
          exact .inr (Nat.le_add_right _ _)
        · exact .inl hold
      · exact .inr hbig
    · exact .inr hbig

/-- A failed search leaves the choices behind that it has met. The induction is on the walk. -/
theorem Walk.explored (h : Walk start S R d d' path point f f') (hpath : path ⊆ met d v)
    (hf : f v = .error w) : Explored start S d v w point := by
  induction h generalizing v w with
  | failure =>
    cases hf
    exact .refl trivial
  | success => cases hf
  | @choice path id p first second first' second' hp _ _ ihfirst ihsecond =>
    by_cases hmem : (d + id, p.position) ∈ v
    · rw [meet_of_mem hmem] at hf
      cases hf
      exact .refl hmem
    cases hfirst : first (v.insert (d + id, p.position)) with
    | ok a =>
      rw [meet_of_ok hmem hfirst] at hf
      cases hf
    | error u =>
      rw [meet_of_error hmem hfirst] at hf
      have hinsert := insert_subset_met hpath id p.position
      have hu := ihfirst hinsert hfirst
      exact hu.choice hp (ihsecond (hinsert.trans hu.met_subset) hf)
  | again hmem hloop _ =>
    rw [hloop v (hpath hmem)] at hf
    cases hf
    exact .refl (hpath hmem)

theorem Walk.symm (h : Walk start S R d d' path point f f') :
    Walk start S (fun a b => R b a) d' d path point f' f := by
  induction h with
  | failure => exact .failure
  | success h => exact .success h
  | choice hp _ _ ihfirst ihsecond => exact .choice hp ihfirst ihsecond
  | again hpath hf hf' => exact .again hpath hf' hf

/-- A search fails from choices that lead to failures only, whatever has been met. -/
theorem Walk.fails (h : Walk start S R d d' path point f f') (hD : Closed start S D)
    (hpoint : point.Within D) (hpath : path ⊆ met d v) :
    ∃ w, f v = .error w ∧ met d v ⊆ met d w ∧ met d w ⊆ met d v ∪ D := by
  induction h generalizing v with
  | failure => exact ⟨v, rfl, Set.Subset.rfl, Set.subset_union_left⟩
  | success => exact hpoint.elim
  | @choice path id p first second first' second' hp _ _ ihfirst ihsecond =>
    by_cases hmem : (d + id, p.position) ∈ v
    · exact ⟨v, meet_of_mem hmem, Set.Subset.rfl, Set.subset_union_left⟩
    obtain ⟨hone, htwo⟩ := hD id p hp hpoint
    have hinsert := insert_subset_met hpath id p.position
    obtain ⟨u, hu, hlow, hhigh⟩ := ihfirst hone hinsert
    obtain ⟨w, hw, hlow', hhigh'⟩ := ihsecond htwo (hinsert.trans hlow)
    rw [met_insert] at hlow hhigh
    refine ⟨w, (meet_of_error hmem hu).trans hw, ?_, ?_⟩
    · exact (Set.subset_insert _ _).trans (hlow.trans hlow')
    · have hhere : insert (id, p.position) (met d v) ⊆ met d v ∪ D :=
        Set.insert_subset (.inr hpoint) Set.subset_union_left
      exact hhigh'.trans (Set.union_subset (hhigh.trans (Set.union_subset hhere
        Set.subset_union_right)) Set.subset_union_right)
  | again hmem hloop _ => exact ⟨v, hloop v (hpath hmem), Set.Subset.rfl, Set.subset_union_left⟩

/-- Outside of `D` the same choices have been met. -/
def SameBut (d d' : Nat) (D : Set (Nat × Nat)) (v v' : Visited) : Prop :=
  ∀ x ∉ D, x ∈ met d v ↔ x ∈ met d' v'

/-- Two outcomes say the same, but for the choices `D`. -/
def SameOutcome (R : α → α → Prop) (d d' : Nat) (D : Set (Nat × Nat)) :
    Except Visited α → Except Visited α → Prop
  | .ok a, .ok b => R a b
  | .error v, .error v' => SameBut d d' D v v'
  | _, _ => False

theorem SameBut.insert (h : SameBut d d' D v v') (id position : Nat) :
    SameBut d d' D (v.insert (d + id, position)) (v'.insert (d' + id, position)) := by
  intro x hx
  rw [met_insert, met_insert, Set.mem_insert_iff, Set.mem_insert_iff, h x hx]

/-- Two choices that have not been met have the same outcome when their sides have. -/
theorem SameOutcome.meet {id : Nat} {p : Cursor}
    {first first' second second' : Visited → Except Visited α}
    (hmem : (d + id, p.position) ∉ v) (hmem' : (d' + id, p.position) ∉ v')
    (hfirst : SameOutcome R d d' D (first (v.insert (d + id, p.position)))
      (first' (v'.insert (d' + id, p.position))))
    (hsecond : ∀ u u', first (v.insert (d + id, p.position)) = .error u →
      first' (v'.insert (d' + id, p.position)) = .error u' → SameBut d d' D u u' →
        SameOutcome R d d' D (second u) (second' u')) :
    SameOutcome R d d' D (Regex.meet (d + id) p first second v)
      (Regex.meet (d' + id) p first' second' v') := by
  cases hone : first (v.insert (d + id, p.position)) with
  | ok a =>
    cases htwo : first' (v'.insert (d' + id, p.position)) with
    | ok b =>
      rw [hone, htwo] at hfirst
      rw [meet_of_ok hmem hone, meet_of_ok hmem' htwo]
      exact hfirst
    | error u' =>
      rw [hone, htwo] at hfirst
      exact hfirst.elim
  | error u =>
    cases htwo : first' (v'.insert (d' + id, p.position)) with
    | ok b =>
      rw [hone, htwo] at hfirst
      exact hfirst.elim
    | error u' =>
      rw [hone, htwo] at hfirst
      rw [meet_of_error hmem hone, meet_of_error hmem' htwo]
      exact hsecond u u' hone htwo hfirst

/-- Two searches that go the same way agree when what one has met and the other has not leads to
failures only. -/
theorem Walk.agree (h : Walk start S R d d' path point f f') (hD : Closed start S D)
    (hpath : path ⊆ met d v) (hpath' : path ⊆ met d' v') (hsame : SameBut d d' D v v') :
    SameOutcome R d d' D (f v) (f' v') := by
  induction h generalizing v v' with
  | failure => exact hsame
  | success h => exact h
  | @choice path id p first second first' second' hp hfirst hsecond ihfirst ihsecond =>
    by_cases hdead : (id, p.position) ∈ D
    -- Both fail, though one of them may do so at once and the other after it has met more of `D`.
    · have hwalk := Walk.choice hp hfirst hsecond
      obtain ⟨w, hw, hlow, hhigh⟩ := hwalk.fails hD hdead hpath
      obtain ⟨w', hw', hlow', hhigh'⟩ := hwalk.symm.fails hD hdead hpath'
      rw [hw, hw']
      intro x hx
      have hone : x ∈ met d w ↔ x ∈ met d v := ⟨fun h => (hhigh h).resolve_right hx, fun h => hlow h⟩
      have htwo : x ∈ met d' w' ↔ x ∈ met d' v' :=
        ⟨fun h => (hhigh' h).resolve_right hx, fun h => hlow' h⟩
      rw [hone, htwo, hsame x hx]
    by_cases hmem : (d + id, p.position) ∈ v
    · have hmem' : (d' + id, p.position) ∈ v' := (hsame (id, p.position) hdead).1 hmem
      rw [meet_of_mem hmem, meet_of_mem hmem']
      exact hsame
    have hmem' : (d' + id, p.position) ∉ v' := fun h => hmem ((hsame (id, p.position) hdead).2 h)
    have hsub := insert_subset_met hpath id p.position
    have hsub' := insert_subset_met hpath' id p.position
    refine .meet hmem hmem' (ihfirst hsub hsub' (hsame.insert id p.position)) ?_
    intro u u' hone htwo hrest
    exact ihsecond (hsub.trans (hfirst.explored hsub hone).met_subset)
      (hsub'.trans (hfirst.symm.explored hsub' htwo).met_subset) hrest
  | again hmem hloop hloop' =>
    rw [hloop v (hpath hmem), hloop' v' (hpath' hmem)]
    exact hsame

end Walk

variable {start : Cursor} {S : Nat → Fork} {R : α → α → Prop} {d d' : Nat}
  {path path' : Set (Nat × Nat)} {p q : Cursor} {k k' : Rest α} {exit : Cursor → Point}

/-- What follows goes the same way from every place behind `p`, from where `exit` says. -/
def Continue (start : Cursor) (S : Nat → Fork) (R : α → α → Prop) (d d' : Nat)
    (path : Set (Nat × Nat)) (p : Cursor) (exit : Cursor → Point) (k k' : Rest α) : Prop :=
  ∀ q path' caps, p.Reaches q → path ⊆ path' →
    Walk start S R d d' path' (exit q) (k q caps) (k' q caps)

theorem Continue.mono (h : Continue start S R d d' path p exit k k') (hq : p.Reaches q)
    (hpath : path ⊆ path') : Continue start S R d d' path' q exit k k' :=
  fun r path'' caps hr hsub => h r path'' caps (hq.trans hr) (hpath.trans hsub)

/-- The searches `m` make a walk through `width` choices, whatever follows them. -/
def Walks (start : Cursor) (m : Nat → Rest α → Rest α) (width : Nat) : Prop :=
  ∀ (id : Nat) (exit : Cursor → Point), ∃ (entry : Cursor → Point) (forks : List Fork),
    forks.length = width ∧
    ∀ {S : Nat → Fork}, Numbered S id forks →
      ∀ {R : α → α → Prop} {d d' : Nat} {path : Set (Nat × Nat)} {p : Cursor} {k k' : Rest α},
        start.Reaches p → Continue start S R d d' path p exit k k' → ∀ caps,
          Walk start S R d d' path (entry p) (m (d + id) k p caps) (m (d' + id) k' p caps)

section Walks

variable {m m' : Nat → Rest α → Rest α} {width width' : Nat}

theorem walks_nothing : Walks (α := α) start (fun _ k => k) 0 :=
  fun _ exit => ⟨exit, [], rfl, fun _ _ _ _ _ p _ _ _ hk caps => hk p _ caps .here Set.Subset.rfl⟩

theorem Walks.andThen (h : Walks start m width) (h' : Walks start m' width') :
    Walks start (fun id k => m id (m' (id + width) k)) (width + width') := by
  intro id exit
  obtain ⟨middle, others, hothers, hsecond⟩ := h' (id + width) exit
  obtain ⟨entry, forks, hforks, hfirst⟩ := h id middle
  refine ⟨entry, forks ++ others, by simp [hforks, hothers], ?_⟩
  intro S hS R d d' path p k k' hp hk caps
  obtain ⟨hone, htwo⟩ := numbered_append.1 hS
  rw [hforks] at htwo
  refine hfirst hone hp (fun q path' caps hq hpath => ?_) caps
  rw [Nat.add_assoc, Nat.add_assoc]
  exact hsecond htwo (hp.trans hq) (hk.mono hq hpath) caps

theorem Walks.choose (h : Walks start m width) (h' : Walks start m' width') :
    Walks start (fun id k => choose id (m (id + 1) k) (m' (id + 1 + width) k))
      (1 + width + width') := by
  intro id exit
  obtain ⟨entry, forks, hforks, hfirst⟩ := h (id + 1) exit
  obtain ⟨entry', others, hothers, hsecond⟩ := h' (id + 1 + width) exit
  refine ⟨.choice id, (fun q => (entry q, entry' q)) :: (forks ++ others),
    by simp [hforks, hothers]; omega, ?_⟩
  intro S hS R d d' path p k k' hp hk caps
  obtain ⟨hhere, hone, htwo⟩ := hS.imp_right numbered_append.1
  rw [hforks] at htwo
  have hnext := hk.mono .here (Set.subset_insert (id, p.position) path)
  dsimp only
  rw [choose_eq_meet, choose_eq_meet]
  refine .choice hp ?_ ?_
  · rw [hhere]
    exact hfirst hone hp hnext caps
  · rw [hhere, Nat.add_assoc d, Nat.add_assoc d', Nat.add_assoc d, Nat.add_assoc d']
    exact hsecond htwo hp hnext caps

theorem Walks.moreOrEnd (h : Walks start m width) (greedy : Bool) :
    Walks start (fun id k => moreOrEnd greedy id (m (id + 1) k) k) (1 + width) := by
  cases greedy with
  | true => exact h.choose walks_nothing
  | false => exact walks_nothing.choose h

theorem Walks.exactly (h : Walks start m width) (n : Nat) :
    Walks start (Regex.exactly m width n) (n * width) := by
  induction n with
  | zero =>
    rw [Nat.zero_mul]
    exact walks_nothing
  | succ n ih =>
    rw [Nat.succ_mul, Nat.add_comm (n * width)]
    exact h.andThen ih

theorem Walks.atMost (h : Walks start m width) (greedy : Bool) (n : Nat) :
    Walks start (fun id k => Regex.atMost m width greedy k n id) (n * (1 + width)) := by
  induction n with
  | zero =>
    rw [Nat.zero_mul]
    exact walks_nothing
  | succ n ih =>
    rw [Nat.succ_mul, Nat.add_comm (n * _), Nat.add_assoc]
    exact (h.andThen ih).moreOrEnd greedy

/-- A choice between one more time and an end. -/
def moreOrEndFork (greedy : Bool) (more stop : Cursor → Point) : Fork := fun q =>
  if greedy then (more q, stop q) else (stop q, more q)

theorem walk_moreOrEnd {greedy : Bool} {id : Nat} {entry : Cursor → Point} {more more' : Rest α}
    {caps : Captures} (hS : S id = moreOrEndFork greedy entry exit) (hp : start.Reaches p)
    (hk : Continue start S R d d' path p exit k k')
    (hmore : Walk start S R d d' (insert (id, p.position) path) (entry p) (more p caps)
      (more' p caps)) :
    Walk start S R d d' path (.choice id p) (Regex.moreOrEnd greedy (d + id) more k p caps)
      (Regex.moreOrEnd greedy (d' + id) more' k' p caps) := by
  have hstop := hk p _ caps .here (Set.subset_insert (id, p.position) path)
  cases greedy with
  | true =>
    refine .choice hp ?_ ?_
    · rwa [hS]
    · rwa [hS]
  | false =>
    refine .choice hp ?_ ?_
    · rwa [hS]
    · rwa [hS]

/-- A repetition comes back to its choice behind the place it left, or it is on the way there still. -/
theorem walk_onward {greedy : Bool} {loop body : Nat} {entry : Cursor → Point}
    (hS : S loop = moreOrEndFork greedy entry exit)
    (hbody : ∀ {path : Set (Nat × Nat)} {p : Cursor} {k k' : Rest α}, start.Reaches p →
      Continue start S R d d' path p (.choice loop) k k' → ∀ caps,
        Walk start S R d d' path (entry p) (m (d + body) k p caps) (m (d' + body) k' p caps))
    (fuel : Nat) (hp : start.Reaches p)
    (hfuel : p.after.length < fuel ∨ (loop, p.position) ∈ path)
    (hk : Continue start S R d d' path p exit k k') (caps : Captures) :
    Walk start S R d d' path (.choice loop p)
      (onward (m (d + body)) greedy (d + loop) k fuel p caps)
      (onward (m (d' + body)) greedy (d' + loop) k' fuel p caps) := by
  induction fuel generalizing path p caps with
  | zero => exact .again (hfuel.resolve_left (Nat.not_lt_zero _)) (fun _ _ => rfl) fun _ _ => rfl
  | succ fuel ih =>
    by_cases hmem : (loop, p.position) ∈ path
    · refine .again hmem (fun v hv => ?_) fun v hv => ?_
      · cases greedy <;> exact meet_of_mem hv
      · cases greedy <;> exact meet_of_mem hv
    have hlength := hfuel.resolve_right hmem
    refine walk_moreOrEnd hS hp hk (hbody hp (fun q path' caps hq hpath => ?_) caps)
    refine ih (hp.trans hq) ?_ (hk.mono hq ((Set.subset_insert _ _).trans hpath)) caps
    by_cases hsame : q.position = p.position
    · exact .inr (hpath (.inl (by rw [hsame])))
    · have hbehind := hq.position_le
      have htotal := hq.position_add_length
      exact .inl (by omega)

theorem Walks.anyTimes (h : Walks start m width) (greedy : Bool) :
    Walks start (fun id k => Regex.anyTimes (m (id + 1)) greedy id k) (2 + width) := by
  intro id exit
  obtain ⟨entry, forks, hforks, hbody⟩ := h (id + 1) (.choice id)
  refine ⟨.choice id, moreOrEndFork greedy entry exit :: (forks ++ [fun _ => (.failure, .failure)]),
    by simp [hforks]; omega, ?_⟩
  intro S hS R d d' path p k k' hp hk caps
  obtain ⟨hhere, hone, -⟩ := hS.imp_right numbered_append.1
  exact walk_onward hhere (hbody hone) _ hp (.inl (Nat.lt_succ_self _)) hk caps

theorem Walks.anyTimesOrEnd (h : Walks start m width) (greedy : Bool) :
    Walks start (fun id k => Regex.moreOrEnd greedy id
      (m (id + 2) (Regex.anyTimes (m (id + 2)) greedy (id + 1) k)) k) (2 + width) := by
  intro id exit
  obtain ⟨entry, forks, hforks, hbody⟩ := h (id + 2) (.choice (id + 1))
  refine ⟨.choice id, moreOrEndFork greedy entry exit :: moreOrEndFork greedy entry exit :: forks,
    by simp [hforks]; omega, ?_⟩
  intro S hS R d d' path p k k' hp hk caps
  obtain ⟨hhere, hloop, hone⟩ := hS
  refine walk_moreOrEnd hhere hp hk (hbody hone hp (fun q path' caps hq hpath => ?_) caps)
  exact walk_onward hloop (hbody hone) _ (hp.trans hq) (.inl (Nat.lt_succ_self _))
    (hk.mono hq ((Set.subset_insert _ _).trans hpath)) caps

theorem Walks.someTimes (h : Walks start m width) (greedy : Bool) :
    Walks start (fun id k => m id (Regex.anyTimes (m id) greedy (id + width) k)) (width + 1) := by
  intro id exit
  obtain ⟨entry, forks, hforks, hbody⟩ := h id (.choice (id + width))
  refine ⟨entry, forks ++ [moreOrEndFork greedy entry exit], by simp [hforks], ?_⟩
  intro S hS R d d' path p k k' hp hk caps
  obtain ⟨hone, hloop, -⟩ := numbered_append.1 hS
  rw [hforks] at hloop
  refine hbody hone hp (fun q path' caps hq hpath => ?_) caps
  rw [Nat.add_assoc, Nat.add_assoc]
  exact walk_onward hloop (hbody hone) _ (hp.trans hq) (.inl (Nat.lt_succ_self _))
    (hk.mono hq hpath) caps

end Walks

/-- The search for a pattern makes a walk through its choices. -/
theorem walks_run (start : Cursor) (r : Regex) : Walks (α := α) start r.run r.choices := by
  induction r with
  | empty => exact walks_nothing
  | set s =>
    intro id exit
    refine ⟨fun p => p.after.head?.elim .failure fun c =>
      if s.mem c then exit (p.past c p.after.tail) else .failure, [], rfl, ?_⟩
    intro S hS R d d' path p k k' hp hk caps
    cases hafter : p.after with
    | nil => simpa [run, hafter] using Walk.failure
    | cons c rest =>
      by_cases hc : s.mem c
      · simpa [run, hafter, hc] using hk _ _ caps (.past .here hafter) Set.Subset.rfl
      · simpa [run, hafter, hc] using Walk.failure
  | look l =>
    intro id exit
    refine ⟨fun p => if l.holds p then exit p else .failure, [], rfl, ?_⟩
    intro S hS R d d' path p k k' hp hk caps
    by_cases hl : l.holds p
    · simpa [run, hl] using hk p _ caps .here Set.Subset.rfl
    · simpa [run, hl] using Walk.failure
  | seq a b iha ihb => exact iha.andThen ihb
  | alt a b iha ihb => exact iha.choose ihb
  | repeated a least most greedy iha =>
    cases most with
    | some most =>
      have hrun : (repeated a least (some most) greedy).run (α := α) = fun id k =>
          exactly a.run a.choices least id
            (atMost a.run a.choices greedy k (most - least) (id + least * a.choices)) := by
        funext id k
        rw [run]
      have hchoices : (repeated a least (some most) greedy).choices =
          least * a.choices + (most - least) * (1 + a.choices) := by rw [choices]
      rw [hrun, hchoices]
      exact (iha.exactly least).andThen (iha.atMost greedy (most - least))
    | none =>
      cases least with
      | zero =>
        by_cases hconsumes : a.consumes
        · have hrun : (repeated a 0 none greedy).run (α := α) = fun id k =>
              anyTimes (a.run (id + 1)) greedy id k := by
            funext id k
            rw [run, if_pos hconsumes]
          rw [hrun]
          exact iha.anyTimes greedy
        · have hrun : (repeated a 0 none greedy).run (α := α) = fun id k =>
              moreOrEnd greedy id
                (a.run (id + 2) (anyTimes (a.run (id + 2)) greedy (id + 1) k)) k := by
            funext id k
            rw [run, if_neg hconsumes]
          rw [hrun]
          exact iha.anyTimesOrEnd greedy
      | succ least =>
        have hchoices : (repeated a (least + 1) none greedy).choices =
            least * a.choices + (a.choices + 1) := by
          rw [choices, Nat.succ_mul, Nat.add_assoc]
          exact Nat.succ_ne_zero least
        rw [hchoices]
        exact (iha.exactly least).andThen (iha.someTimes greedy)
  | group index name a iha =>
    intro id exit
    obtain ⟨entry, forks, hforks, hbody⟩ := iha id exit
    refine ⟨entry, forks, hforks, ?_⟩
    intro S hS R d d' path p k k' hp hk caps
    exact hbody hS hp (fun q path' caps hq hpath => hk q path' _ hq hpath) caps

/-- The places from which a pattern is searched for with nothing to follow it have one map of its
choices, however these are numbered. -/
theorem exists_walk (r : Regex) (start : Cursor) :
    ∃ (S : Nat → Fork) (entry : Cursor → Point),
      ∀ {R : α → α → Prop} {d d' : Nat} {p : Cursor} {k k' : Rest α}, start.Reaches p →
        (∀ q caps, p.Reaches q →
          ∃ a b, R a b ∧ k q caps = (fun _ => .ok a) ∧ k' q caps = fun _ => .ok b) → ∀ caps,
            Walk start S R d d' ∅ (entry p) (r.run d k p caps) (r.run d' k' p caps) := by
  obtain ⟨entry, forks, -, hwalk⟩ := walks_run (α := α) start r 0 fun _ => .success
  obtain ⟨S, hS⟩ := exists_numbered 0 forks
  refine ⟨S, entry, fun {R d d' p k k'} hp hk caps => hwalk hS hp (fun q path' caps hq _ => ?_) caps⟩
  obtain ⟨a, b, hab, hone, htwo⟩ := hk q caps hq
  rw [hone, htwo]
  exact .success hab

theorem SameOutcome.toOption_eq {g : α → α} {D : Set (Nat × Nat)} {x y : Except Visited α}
    (h : SameOutcome (fun a b => a = g b) d d' D x y) : x.toOption = y.toOption.map g := by
  cases x with
  | ok a =>
    cases y with
    | ok b => exact congrArg some h
    | error v => exact h.elim
  | error v =>
    cases y with
    | ok b => exact h.elim
    | error v' => rfl

/-- A search finds `found` whenever what has been met is good, and where it fails it leaves that
good and meets no other choices than those from the number `d` on. -/
def Finds (good : Visited → Prop) (d : Nat) (f : Visited → Except Visited α)
    (found : Option α) : Prop :=
  ∀ v, good v → (f v).toOption = found ∧
    ∀ w, f v = .error w → good w ∧ ∀ x ∈ w, x ∈ v ∨ d ≤ x.1

/-- Behind failed searches the same is found as without them. -/
theorem Walk.finds {g : α → α} {point : Point} {f f' : Visited → Except Visited α}
    (h : Walk start S (fun a b => a = g b) d 0 ∅ point f f') :
    Finds (fun v => Closed start S (met d v)) d f ((f' ∅).toOption.map g) := by
  intro v hv
  have hsame : SameBut d 0 (met d v) v ∅ := fun x hx => iff_of_false hx (by simp [met])
  have hagree := h.agree hv (Set.empty_subset _) (Set.empty_subset _) hsame
  refine ⟨hagree.toOption_eq, fun w hw => ?_⟩
  have hexplored := h.explored (Set.empty_subset _) hw
  exact ⟨hexplored.closed_met hv, hexplored.numbered⟩

/-- The end of a match from `p`, whose captures are given. -/
def matched (p : Cursor) : Rest Captures := fun q caps _ => .ok ((0, p.captureTo q) :: caps)

/-- The search says by itself where a match cannot start. -/
theorem matchAt?_eq_toOption (r : Regex) (p : Cursor) :
    r.matchAt? p = (r.run 0 (matched p) p [] ∅).toOption := by
  rw [matchAt?]
  split
  · rfl
  · next hstart =>
    cases hrun : r.run 0 (matched p) p [] ∅ with
    | error v => rfl
    | ok caps =>
      have hgrows : Grows (matched p) := fun _ _ _ _ h => by cases h
      obtain ⟨w, hw, -⟩ := (r.follows_run 0).leads hgrows hrun
      rw [ways_eq_nil_of_not_mayStart hstart] at hw
      cases hw

end Lapse.Regex
