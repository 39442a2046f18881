import Mathlib.Data.List.Forall2
import Lapse.Proofs.Regex.FirstWay
import Lapse.Proofs.Regex.Invariant

/-!
# Captures

Every capture of a match is made by a group of the pattern and holds a part of the searched text
that matches what is inside the group.
-/
namespace Lapse.Regex

/-- All captures on the ways of `m` satisfy `K` at the place where the ways begin. -/
def CapturesAll (K : Cursor → Nat × Capture → Prop) (m : Cursor → List Way) : Prop :=
  ∀ p, ∀ w ∈ m p, ∀ x ∈ w.2, K p x

theorem capturesAll_here {K : Nat × Capture → Prop} (p : Cursor) :
    ∀ w ∈ [((p, []) : Way)], ∀ x ∈ w.2, K x := by
  intro w hw x hx
  rw [List.mem_singleton.1 hw] at hx
  cases hx

theorem capturesAll_ordered {K : Nat × Capture → Prop} {greedy : Bool} {p : Cursor}
    {more : List Way} (h : ∀ w ∈ more, ∀ x ∈ w.2, K x) :
    ∀ w ∈ ordered greedy p more, ∀ x ∈ w.2, K x := by
  intro w hw
  rcases mem_ordered.1 hw with rfl | hw
  · exact capturesAll_here p _ (List.mem_singleton.2 rfl)
  · exact h w hw

/-- What holds of a capture at a place holds of it at the places in front. -/
def Inherited (K : Cursor → Nat × Capture → Prop) : Prop :=
  ∀ p q x, p.Reaches q → K q x → K p x

section CapturesAll

variable {K : Cursor → Nat × Capture → Prop} {m : Cursor → List Way} (hK : Inherited K)
include hK

theorem capturesAll_andThen (hm : CapturesAll K m) {p : Cursor} {ws : List Way}
    (hws : ∀ w ∈ ws, p.Reaches w.1) (h : ∀ w ∈ ws, ∀ x ∈ w.2, K p x) :
    ∀ w ∈ andThen ws m, ∀ x ∈ w.2, K p x := by
  intro w hw x hx
  obtain ⟨u, hu, v, hv, rfl⟩ := mem_andThen.1 hw
  rcases List.mem_append.1 hx with hx | hx
  · exact hK p u.1 x (hws u hu) (hm _ v hv x hx)
  · exact h u hu x hx

variable (hforward : Forward m) (hm : CapturesAll K m)
include hforward hm

theorem capturesAll_waysExactly (n : Nat) : CapturesAll K (waysExactly m n) := by
  induction n with
  | zero => exact fun p => capturesAll_here p
  | succ n ih => exact fun p => capturesAll_andThen hK ih (hforward p) (hm p)

theorem capturesAll_waysAtMost (greedy : Bool) (n : Nat) :
    CapturesAll K (waysAtMost m greedy n) := by
  induction n with
  | zero => exact fun p => capturesAll_here p
  | succ n ih =>
    exact fun p => capturesAll_ordered (capturesAll_andThen hK ih (hforward p) (hm p))

theorem capturesAll_waysAnyTimes (greedy : Bool) : CapturesAll K (waysAnyTimes m greedy) := by
  have honward (fuel : Nat) : CapturesAll K (waysOnward m greedy fuel) := by
    induction fuel with
    | zero =>
      intro p w hw
      cases hw
    | succ fuel ih =>
      exact fun p => capturesAll_ordered (capturesAll_andThen hK ih
        (fun w hw => hforward p w (List.mem_filter.1 hw).1)
        fun w hw => hm p w (List.mem_filter.1 hw).1)
  exact fun p => honward _ p

end CapturesAll

/-- A capture is made behind the place `p` by a group that satisfies `P`. -/
def Made (P : Nat → Option String → Regex → Prop) (p : Cursor) (x : Nat × Capture) : Prop :=
  ∃ name a q, P x.1 name a ∧ p.Reaches q ∧ ∃ v ∈ a.ways q, x.2 = q.captureTo v.1

theorem inherited_made (P : Nat → Option String → Regex → Prop) : Inherited (Made P) := by
  rintro p q x h ⟨name, a, r, ha, hr, hcapture⟩
  exact ⟨name, a, r, ha, h.trans hr, hcapture⟩

theorem capturesAll_ways {P : Nat → Option String → Regex → Prop} {r : Regex}
    (h : r.EveryGroup P) : CapturesAll (Made P) r.ways := by
  induction r with
  | empty => exact fun p => capturesAll_here p
  | set s =>
    intro p w hw
    rw [ways] at hw
    split at hw
    · cases hw
    · split at hw
      · exact capturesAll_here _ w hw
      · cases hw
  | look l =>
    intro p w hw
    rw [ways] at hw
    split at hw
    · exact capturesAll_here p w hw
    · cases hw
  | seq a b iha ihb =>
    exact fun p => capturesAll_andThen (inherited_made P) (ihb h.2) (forward_ways a p) (iha h.1 p)
  | alt a b iha ihb =>
    intro p w hw
    rw [ways, List.mem_append] at hw
    exact hw.elim (iha h.1 p w) (ihb h.2 p w)
  | repeated a least most greedy iha =>
    have ha := iha h
    have hforward := forward_ways a
    have hmany := capturesAll_waysAnyTimes (inherited_made P) hforward ha greedy
    have hexactly (n : Nat) := capturesAll_waysExactly (inherited_made P) hforward ha n
    cases most with
    | some most =>
      intro p w hw
      rw [ways] at hw
      exact capturesAll_andThen (inherited_made P)
        (capturesAll_waysAtMost (inherited_made P) hforward ha greedy _)
        (forward_waysExactly hforward least p) (hexactly least p) w hw
    | none =>
      cases least with
      | zero =>
        intro p w hw
        rw [ways] at hw
        split at hw
        · exact hmany p w hw
        · exact capturesAll_ordered
            (capturesAll_andThen (inherited_made P) hmany (hforward p) (ha p)) w hw
      | succ least =>
        intro p
        have honce : CapturesAll (Made P) fun q =>
            andThen (a.ways q) (waysAnyTimes a.ways greedy) :=
          fun q => capturesAll_andThen (inherited_made P) hmany (hforward q) (ha q)
        exact capturesAll_andThen (inherited_made P) honce (forward_waysExactly hforward least p)
          (hexactly least p)
  | group index name a iha =>
    intro p w hw x hx
    rw [ways, List.mem_map] at hw
    obtain ⟨u, hu, rfl⟩ := hw
    rcases List.mem_cons.1 hx with rfl | hx
    · exact ⟨name, a, p, h.1, .here, u, hu, rfl⟩
    · exact iha h.2 p u hu x hx

theorem everyGroup_mono {P Q : Nat → Option String → Regex → Prop}
    (h : ∀ index name a, P index name a → Q index name a) {r : Regex} (hr : r.EveryGroup P) :
    r.EveryGroup Q := by
  induction r with
  | empty | set | look => trivial
  | seq a b iha ihb | alt a b iha ihb => exact ⟨iha hr.1, ihb hr.2⟩
  | repeated a least most greedy iha => exact iha hr
  | group index name a iha => exact ⟨h _ _ _ hr.1, iha hr.2⟩

theorem everyGroup_mem_groups (r : Regex) :
    r.EveryGroup fun index name _ => (index, name) ∈ r.groups := by
  induction r with
  | empty | set | look => trivial
  | seq a b iha ihb | alt a b iha ihb =>
    exact ⟨everyGroup_mono (fun _ _ _ => List.mem_append_left _) iha,
      everyGroup_mono (fun _ _ _ => List.mem_append_right _) ihb⟩
  | repeated a least most greedy iha => exact iha
  | group index name a iha =>
    exact ⟨List.mem_cons_self, everyGroup_mono (fun _ _ _ => List.mem_cons_of_mem _) iha⟩

/-- A capture has the number of a group of the pattern. -/
theorem exists_group_of_mem_captures {r : Regex} {p : Cursor} {w : Way} (hw : w ∈ r.ways p)
    {x : Nat × Capture} (hx : x ∈ w.2) : ∃ name, (x.1, name) ∈ r.groups := by
  obtain ⟨name, -, -, hmem, -⟩ := capturesAll_ways (everyGroup_mem_groups r) p w hw x hx
  exact ⟨name, hmem⟩

/-- What a search finds, it finds at some place of the text. -/
theorem exists_matchAt?_of_search? {r : Regex} {text : List Char} {caps : Captures}
    (h : r.search? text = some caps) :
    ∃ p : Cursor, p.after <:+ text ∧ r.matchAt? p = some caps := by
  rw [search?] at h
  generalize 0 = position, none = previous at h
  induction text generalizing position previous with
  | nil => exact ⟨_, List.suffix_refl _, h⟩
  | cons c text ih =>
    rw [searchFrom] at h
    split at h
    · next found hfound =>
      cases h
      exact ⟨_, List.suffix_refl _, hfound⟩
    · obtain ⟨p, hp, hmatch⟩ := ih _ _ h
      exact ⟨p, hp.trans (List.suffix_cons c text), hmatch⟩

/-- A match at the first place is the leftmost. -/
theorem search?_of_matchAt? {r : Regex} {text : List Char} {caps : Captures}
    (h : r.matchAt? (.atStart text) = some caps) : r.search? text = some caps := by
  have h : r.matchAt? ⟨0, none, text⟩ = some caps := h
  cases text with
  | nil => exact h
  | cons c text => rw [search?, searchFrom, h]

theorem Cursor.Reaches.suffix {p q : Cursor} (h : p.Reaches q) : q.after <:+ p.after := by
  induction h with
  | here => exact List.suffix_refl _
  | @past q c rest _ e ih =>
    rw [e] at ih
    exact (List.suffix_cons c rest).trans ih

theorem Cursor.Reaches.text_captureTo_infix {p q : Cursor} (h : p.Reaches q) (r : Cursor) :
    (q.captureTo r).text <:+: p.after :=
  (List.take_prefix _ _).isInfix.trans h.suffix.isInfix

/-- What a search captures stands in the text as it is captured. -/
theorem text_infix_of_search? {r : Regex} {text : List Char} {caps : Captures}
    (h : r.search? text = some caps) {x : Nat × Capture} (hx : x ∈ caps) :
    x.2.text <:+: text := by
  obtain ⟨p, hp, hmatch⟩ := exists_matchAt?_of_search? h
  obtain ⟨w, hw, rfl⟩ := exists_way_of_matchAt? hmatch
  rcases List.mem_cons.1 hx with rfl | hx
  · exact (Cursor.Reaches.here.text_captureTo_infix w.1).trans hp.isInfix
  · obtain ⟨-, -, q, -, hq, v, -, hcapture⟩ :=
      capturesAll_ways (everyGroup_mem_groups r) p w hw x hx
    rw [hcapture]
    exact (hq.text_captureTo_infix v.1).trans hp.isInfix

theorem mem_ways_sets {sets : List CharSet} {p : Cursor} {w : Way}
    (h : w ∈ (sequence (sets.map set)).ways p) :
    takes sets p.after ∧ w = (p.advance sets.length, []) := by
  induction sets generalizing p w with
  | nil => exact ⟨rfl, List.mem_singleton.1 h⟩
  | cons s sets ih =>
    rw [List.map_cons, ways_sequence_cons] at h
    obtain ⟨u, hu, x, hx, rfl⟩ := mem_andThen.1 h
    rw [ways] at hu
    cases hafter : p.after with
    | nil =>
      rw [hafter] at hu
      cases hu
    | cons c rest =>
      rw [hafter] at hu
      simp only at hu
      split at hu
      · next hc =>
        obtain rfl := List.mem_singleton.1 hu
        obtain ⟨htakes, rfl⟩ := ih hx
        have htakes : takes sets rest = true := htakes
        refine ⟨by simp [takes, hc, htakes], ?_⟩
        rw [List.length_cons, Cursor.advance_succ hafter]
        rfl
      · cases hu

theorem mem_ways_choice {rs : List Regex} {p : Cursor} {w : Way}
    (h : w ∈ (choice rs).ways p) : ∃ r ∈ rs, w ∈ r.ways p := by
  induction rs with
  | nil =>
    rw [choice, ways] at h
    split at h
    · cases h
    · cases h
  | cons r rs ih =>
    cases rs with
    | nil => exact ⟨r, List.mem_singleton.2 rfl, h⟩
    | cons s rs =>
      have hsplit : w ∈ r.ways p ++ (choice (s :: rs)).ways p := h
      rcases List.mem_append.1 hsplit with h | h
      · exact ⟨r, List.mem_cons_self, h⟩
      · obtain ⟨r', hr', h⟩ := ih h
        exact ⟨r', List.mem_cons_of_mem _ hr', h⟩

theorem forall₂_mem_of_takes {sets : List CharSet} {text : List Char} (h : takes sets text) :
    List.Forall₂ (fun s c => s.mem c = true) sets (text.take sets.length) := by
  induction sets generalizing text with
  | nil => exact .nil
  | cons s sets ih =>
    cases text with
    | nil => cases h
    | cons c text =>
      rw [takes, Bool.and_eq_true] at h
      exact .cons h.1 (ih h.2)

/-- What a sequence of sets matches has one character of each of them. -/
theorem forall₂_mem_of_mem_ways {sets : List CharSet} {p : Cursor} {w : Way}
    (h : w ∈ (sequence (sets.map set)).ways p) :
    List.Forall₂ (fun s c => s.mem c = true) sets (p.captureTo w.1).text := by
  obtain ⟨htakes, rfl⟩ := mem_ways_sets h
  rw [Cursor.text_captureTo_advance (length_le_of_takes htakes)]
  exact forall₂_mem_of_takes htakes

/-- What is matched up to an earlier place begins what is matched up to a later one. -/
theorem text_captureTo_prefix (p : Cursor) {q r : Cursor} (h : q.Reaches r) :
    (p.captureTo q).text <+: (p.captureTo r).text :=
  List.take_prefix_take_left (Nat.sub_le_sub_right h.position_le _)

/-- A sequence that begins with a group: the group's capture is made first. -/
theorem exists_of_mem_ways_group {index : Nat} {name : Option String} {a : Regex}
    {rest : List Regex} {p : Cursor} {w : Way}
    (h : w ∈ (sequence (group index name a :: rest)).ways p) :
    ∃ u ∈ a.ways p, ∃ v ∈ (sequence rest).ways u.1,
      w = (v.1, v.2 ++ (index, p.captureTo u.1) :: u.2) := by
  rw [ways_sequence_cons] at h
  obtain ⟨x, hx, v, hv, rfl⟩ := mem_andThen.1 h
  rw [ways, List.mem_map] at hx
  obtain ⟨u, hu, rfl⟩ := hx
  exact ⟨u, hu, v, hv, rfl⟩

/-- The groups of a sequence that begins with a group are numbered from left to right, so only that
group makes captures with its number. -/
theorem lookup_of_sorted {index : Nat} {name : Option String} {a : Regex} {rest : List Regex}
    (h : (sequence (group index name a :: rest)).groups.Pairwise fun g g' => g.1 < g'.1)
    {p : Cursor} {v : Way} (hv : v ∈ (sequence rest).ways p) (capture : Capture)
    (others : Captures) :
    (v.2 ++ (index, capture) :: others).lookup index = some capture := by
  have hnone : v.2.lookup index = none := by
    refine List.lookup_eq_none_iff.2 fun x hx => ?_
    obtain ⟨name', hmem⟩ := exists_group_of_mem_captures hv hx
    rw [Reader.groups_sequence, List.flatMap_cons] at h
    have hless : index < x.1 := (List.pairwise_cons.1 h).1 (x.1, name') (by
      rw [← Reader.groups_sequence]
      exact List.mem_append_right _ hmem)
    simpa using Nat.ne_of_lt hless
  rw [List.lookup_append, hnone, Option.none_or, List.lookup_cons_self]

end Lapse.Regex
