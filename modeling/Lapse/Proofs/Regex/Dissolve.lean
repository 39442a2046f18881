import Lapse.Regex.Search

/-!
# Patterns without one of their groups

When a group of a pattern no longer captures and the groups behind it are numbered one less, the
pattern matches in the same way. Only the captures of that group are gone.
-/
namespace Lapse.Regex

/-- The number of a group when the group `k` is gone. -/
def renumber (k index : Nat) : Nat := if k < index then index - 1 else index

/-- The pattern with what is inside the group `k` in place of that group. -/
def dissolve (k : Nat) : Regex → Regex
  | empty => empty
  | set s => set s
  | look l => look l
  | seq a b => seq (a.dissolve k) (b.dissolve k)
  | alt a b => alt (a.dissolve k) (b.dissolve k)
  | repeated a least most greedy => repeated (a.dissolve k) least most greedy
  | group index name a =>
    if index = k then a.dissolve k else group (renumber k index) name (a.dissolve k)

/-- What belongs to the other groups, under their new numbers. -/
def without {α : Type} (k : Nat) (xs : List (Nat × α)) : List (Nat × α) :=
  xs.filterMap fun x => if x.1 = k then none else some (renumber k x.1, x.2)

theorem renumber_inj {k i j : Nat} (hi : i ≠ k) (hj : j ≠ k) :
    renumber k i = renumber k j ↔ i = j := by
  unfold renumber
  split <;> split <;> omega

theorem renumber_of_lt {k index : Nat} (h : index < k) : renumber k index = index :=
  if_neg (Nat.lt_asymm h)

section Without

variable {α : Type} {k index : Nat}

theorem without_cons_self (k : Nat) (a : α) (xs : List (Nat × α)) :
    without k ((k, a) :: xs) = without k xs := by
  simp [without]

theorem without_cons (h : index ≠ k) (a : α) (xs : List (Nat × α)) :
    without k ((index, a) :: xs) = (renumber k index, a) :: without k xs := by
  simp [without, h]

theorem without_append (xs ys : List (Nat × α)) :
    without k (xs ++ ys) = without k xs ++ without k ys := List.filterMap_append

theorem lookup_without (h : index ≠ k) (xs : List (Nat × α)) :
    (without k xs).lookup (renumber k index) = xs.lookup index := by
  induction xs with
  | nil => rfl
  | cons x xs ih =>
    obtain ⟨i, a⟩ := x
    by_cases hi : i = k
    · subst hi
      rw [without_cons_self, ih, List.lookup_cons, beq_eq_false_iff_ne.2 h]
    · rw [without_cons hi, List.lookup_cons, List.lookup_cons, ih]
      congr 1
      rw [Bool.eq_iff_iff, beq_iff_eq, beq_iff_eq, renumber_inj h hi]

end Without

theorem consumes_dissolve (k : Nat) (r : Regex) : (r.dissolve k).consumes = r.consumes := by
  induction r with
  | empty | set | look => rfl
  | seq a b iha ihb | alt a b iha ihb => rw [dissolve, consumes, consumes, iha, ihb]
  | repeated a least most greedy iha => rw [dissolve, consumes, consumes, iha]
  | group index name a iha =>
    rw [dissolve, consumes]
    split
    · exact iha
    · exact iha

theorem takesNothing_dissolve (k : Nat) (r : Regex) :
    (r.dissolve k).takesNothing = r.takesNothing := by
  induction r with
  | empty | set | look => rfl
  | seq a b iha ihb | alt a b iha ihb => rw [dissolve, takesNothing, takesNothing, iha, ihb]
  | repeated a least most greedy iha => rw [dissolve, takesNothing, takesNothing, iha]
  | group index name a iha =>
    rw [dissolve, takesNothing]
    split
    · exact iha
    · exact iha

theorem choices_repeated_congr {a b : Regex} (h : a.choices = b.choices) (least : Nat)
    (most : Option Nat) (greedy : Bool) :
    (repeated a least most greedy).choices = (repeated b least most greedy).choices := by
  cases most with
  | some most => simp only [choices, h]
  | none => cases least <;> simp only [choices, h]

theorem choices_dissolve (k : Nat) (r : Regex) : (r.dissolve k).choices = r.choices := by
  induction r with
  | empty | set | look => rfl
  | seq a b iha ihb | alt a b iha ihb => rw [dissolve, choices, choices, iha, ihb]
  | repeated a least most greedy iha => exact choices_repeated_congr iha least most greedy
  | group index name a iha =>
    rw [dissolve, choices]
    split
    · exact iha
    · exact iha

theorem mayStart_dissolve (k : Nat) (r : Regex) (p : Cursor) :
    (r.dissolve k).mayStart p = r.mayStart p := by
  induction r with
  | empty | set | look => rfl
  | seq a b iha ihb => exact iha
  | alt a b iha ihb => rw [dissolve, mayStart, mayStart, iha, ihb]
  | repeated a least most greedy iha => rw [dissolve, mayStart, mayStart, iha]
  | group index name a iha =>
    rw [dissolve, mayStart]
    split
    · exact iha
    · exact iha

theorem groups_dissolve (k : Nat) (r : Regex) : (r.dissolve k).groups = without k r.groups := by
  induction r with
  | empty | set | look => rfl
  | seq a b iha ihb | alt a b iha ihb =>
    rw [dissolve, groups, groups, iha, ihb, without_append]
  | repeated a least most greedy iha => exact iha
  | group index name a iha =>
    rw [dissolve, groups]
    split
    · next h => rw [iha, h, without_cons_self]
    · next h => rw [groups, iha, without_cons h]

/-- A pattern without groups from number `k` on stays as it is. -/
theorem dissolve_eq_self {k : Nat} {r : Regex} (h : ∀ g ∈ r.groups, g.1 < k) :
    r.dissolve k = r := by
  induction r with
  | empty | set | look => rfl
  | seq a b iha ihb | alt a b iha ihb =>
    rw [dissolve, iha fun g hg => h g (List.mem_append_left _ hg),
      ihb fun g hg => h g (List.mem_append_right _ hg)]
  | repeated a least most greedy iha => rw [dissolve, iha h]
  | group index name a iha =>
    have hless : index < k := h _ List.mem_cons_self
    rw [dissolve, if_neg (Nat.ne_of_lt hless), renumber_of_lt hless,
      iha fun g hg => h g (List.mem_cons_of_mem _ hg)]

/-- A name stands for the same group as before, unless it was that of the group `k`. -/
theorem groupIndex?_dissolve {k : Nat} {r : Regex} (h : ∀ g ∈ r.groups, g.1 = k → g.2 = none)
    (name : String) :
    (r.dissolve k).groupIndex? name = (r.groupIndex? name).map (renumber k) := by
  rw [groupIndex?, groupIndex?, groups_dissolve]
  generalize r.groups = gs at h
  induction gs with
  | nil => rfl
  | cons g gs ih =>
    obtain ⟨index, found⟩ := g
    have hrest := ih fun g hg => h g (List.mem_cons_of_mem _ hg)
    by_cases hindex : index = k
    · have hfound : found = none := h _ List.mem_cons_self hindex
      rw [hindex, without_cons_self, hrest, List.find?_cons_of_neg (by simp [hfound])]
    · rw [without_cons hindex]
      by_cases hname : found = some name
      · rw [List.find?_cons_of_pos (by simpa using hname),
          List.find?_cons_of_pos (by simpa using hname)]
        rfl
      · rw [List.find?_cons_of_neg (by simpa using hname),
          List.find?_cons_of_neg (by simpa using hname), hrest]

theorem ne_of_groupIndex? {k : Nat} {r : Regex} (h : ∀ g ∈ r.groups, g.1 = k → g.2 = none)
    {name : String} {index : Nat} (hindex : r.groupIndex? name = some index) : index ≠ k := by
  obtain ⟨g, hg, rfl⟩ := Option.map_eq_some_iff.1 hindex
  have hname := List.find?_some hg
  intro hk
  rw [h g (List.mem_of_find?_eq_some hg) hk] at hname
  simp at hname

section Agree

variable {α β : Type} {k : Nat} {f : α → β}

/-- `K'` goes on as `K` does, from the captures of the other groups. -/
def Agree (k : Nat) (f : α → β) (K : Rest α) (K' : Rest β) : Prop :=
  ∀ p caps v, K' p (without k caps) v = (K p caps v).map f

/-- What `m` and `m'` put in front of parts that agree agrees again. -/
def Carries (k : Nat) (f : α → β) (m : Rest α → Rest α) (m' : Rest β → Rest β) : Prop :=
  ∀ K K', Agree k f K K' → Agree k f (m K) (m' K')

theorem agree_choose {id : Nat} {first second : Rest α} {first' second' : Rest β}
    (hfirst : Agree k f first first') (hsecond : Agree k f second second') :
    Agree k f (choose id first second) (choose id first' second') := by
  intro p caps v
  rw [choose, choose]
  split
  · rfl
  · rw [hfirst p caps]
    cases first p caps (v.insert (id, p.position)) with
    | ok a => rfl
    | error v' => exact hsecond p caps v'

theorem agree_moreOrEnd {greedy : Bool} {id : Nat} {more stop : Rest α} {more' stop' : Rest β}
    (hmore : Agree k f more more') (hstop : Agree k f stop stop') :
    Agree k f (moreOrEnd greedy id more stop) (moreOrEnd greedy id more' stop') := by
  rw [moreOrEnd, moreOrEnd]
  cases greedy
  · exact agree_choose hstop hmore
  · exact agree_choose hmore hstop

variable {m : Nat → Rest α → Rest α} {m' : Nat → Rest β → Rest β}

theorem carries_exactly (hm : ∀ id, Carries k f (m id) (m' id)) (width n id : Nat) :
    Carries k f (exactly m width n id) (exactly m' width n id) := by
  induction n generalizing id with
  | zero => exact fun K K' hK => hK
  | succ n ih => exact fun K K' hK => hm id _ _ (ih (id + width) K K' hK)

theorem agree_atMost (hm : ∀ id, Carries k f (m id) (m' id)) (width : Nat) (greedy : Bool)
    {K : Rest α} {K' : Rest β} (hK : Agree k f K K') (n id : Nat) :
    Agree k f (atMost m width greedy K n id) (atMost m' width greedy K' n id) := by
  induction n generalizing id with
  | zero => exact hK
  | succ n ih => exact agree_moreOrEnd (hm (id + 1) _ _ (ih _)) hK

theorem carries_anyTimes {m : Rest α → Rest α} {m' : Rest β → Rest β} (hm : Carries k f m m')
    (greedy : Bool) (id : Nat) : Carries k f (anyTimes m greedy id) (anyTimes m' greedy id) := by
  intro K K' hK
  have honward (fuel : Nat) :
      Agree k f (onward m greedy id K fuel) (onward m' greedy id K' fuel) := by
    induction fuel with
    | zero => exact fun p caps v => rfl
    | succ fuel ih => exact agree_moreOrEnd (hm _ _ ih) hK
  exact fun p caps v => honward _ p caps v

/-- The search goes the same ways. The induction follows the pattern, with any number for its first
choice. -/
theorem carries_run (k : Nat) (f : α → β) (r : Regex) (id : Nat) :
    Carries k f (r.run id) ((r.dissolve k).run id) := by
  induction r generalizing id with
  | empty => exact fun K K' hK => hK
  | set s =>
    intro K K' hK p caps v
    simp only [dissolve, run]
    split
    · rfl
    · split
      · exact hK _ _ _
      · rfl
  | look l =>
    intro K K' hK p caps v
    simp only [dissolve, run]
    split
    · exact hK _ _ _
    · rfl
  | seq a b iha ihb =>
    intro K K' hK
    rw [dissolve, run, run, choices_dissolve]
    exact iha _ _ _ (ihb _ _ _ hK)
  | alt a b iha ihb =>
    intro K K' hK
    rw [dissolve, run, run, choices_dissolve]
    exact agree_choose (iha _ _ _ hK) (ihb _ _ _ hK)
  | repeated a least most greedy iha =>
    intro K K' hK
    rw [dissolve]
    cases most with
    | some most =>
      rw [run, run, choices_dissolve]
      exact carries_exactly iha _ _ _ _ _ (agree_atMost iha _ _ hK _ _)
    | none =>
      cases least with
      | zero =>
        rw [run, run, consumes_dissolve]
        split
        · exact carries_anyTimes (iha _) _ _ _ _ hK
        · exact agree_moreOrEnd (iha _ _ _ (carries_anyTimes (iha _) _ _ _ _ hK)) hK
      | succ least =>
        rw [run, run, choices_dissolve]
        exact carries_exactly iha _ _ _ _ _
          (iha _ _ _ (carries_anyTimes (iha _) _ _ _ _ hK))
  | group index name a iha =>
    intro K K' hK p caps v
    rw [dissolve]
    split
    · next hindex =>
      refine iha id (fun q caps v => K q ((index, p.captureTo q) :: caps) v) K' ?_ p caps v
      intro q caps v
      rw [← hK, hindex, without_cons_self]
    · next hindex =>
      refine iha id (fun q caps v => K q ((index, p.captureTo q) :: caps) v)
        (fun q caps v => K' q ((renumber k index, p.captureTo q) :: caps) v) ?_ p caps v
      intro q caps v
      rw [← hK, without_cons hindex]

end Agree

theorem matchAt?_dissolve {k : Nat} (hk : k ≠ 0) (r : Regex) (p : Cursor) :
    (r.dissolve k).matchAt? p = (r.matchAt? p).map (without k) := by
  have hlast : Agree k (without k)
      (fun q caps _ => .ok ((0, p.captureTo q) :: caps))
      (fun q caps _ => .ok ((0, p.captureTo q) :: caps)) := by
    intro q caps v
    rw [Except.map, without_cons (Ne.symm hk), renumber_of_lt (Nat.pos_of_ne_zero hk)]
  have hrun : (r.dissolve k).run 0 (fun q caps _ => .ok ((0, p.captureTo q) :: caps)) p [] ∅ =
      (r.run 0 (fun q caps _ => .ok ((0, p.captureTo q) :: caps)) p [] ∅).map (without k) :=
    carries_run k (without k) r 0 _ _ hlast p [] ∅
  rw [matchAt?, matchAt?, mayStart_dissolve, hrun]
  split
  · cases r.run 0 (fun q caps _ => .ok ((0, p.captureTo q) :: caps)) p [] ∅ <;> rfl
  · rfl

/-- What is found is the same, without the captures of the group `k`. -/
theorem search?_dissolve {k : Nat} (hk : k ≠ 0) (r : Regex) (text : List Char) :
    (r.dissolve k).search? text = (r.search? text).map (without k) := by
  rw [search?, search?]
  generalize 0 = position, none = previous
  induction text generalizing position previous with
  | nil => exact matchAt?_dissolve hk r _
  | cons c text ih =>
    rw [searchFrom, searchFrom, matchAt?_dissolve hk]
    cases r.matchAt? ⟨position, previous, c :: text⟩ with
    | some caps => rfl
    | none => exact ih _ _

end Lapse.Regex
