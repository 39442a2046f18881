import Mathlib.Data.List.Pairwise
import Lapse.Proofs.Regex.Invariant
import Lapse.Proofs.Regex.Progress

/-!
# The steps of the reader

The reader goes over a pattern step by step. Every group of the result began at one of these steps,
and the groups are numbered in the order of the places where they began.
-/
namespace Lapse.Regex.Reader

/-- The steps that the reader takes, each with the state before it and what is left of the text. -/
def trace (s : State) (text : List Char) : List (State × List Char) :=
  match skip s.flags text with
  | [] => []
  | c :: rest =>
    match step? s (c :: rest) with
    | none => [(s, c :: rest)]
    | some (next, after) =>
      if after.length < text.length then (s, c :: rest) :: trace next after else [(s, c :: rest)]
  termination_by text.length

/-- The step at a place begins the group with this number and name. -/
def Begins (s : State) (place : List Char) (g : Nat × Option String) : Prop :=
  g.1 = s.captures + 1 ∧ ∃ rest, step? s place = some (s.enterCapture g.2, rest)

theorem State.BeginsNone.refl (s : State) : s.BeginsNone s := ⟨List.Sublist.refl _, rfl, rfl⟩

theorem State.BeginsNone.trans {s t u : State} (h : s.BeginsNone t) (h' : t.BeginsNone u) :
    s.BeginsNone u :=
  ⟨h'.groups.trans h.groups, h'.captures.trans h.captures, h'.names.trans h.names⟩

theorem readFlagGroup?_beginsNone (s : State) (text : List Char) :
    Keeps s.BeginsNone (readFlagGroup? s text) := by
  refine .bind fun ⟨signs, stop, rest⟩ _ => .ite (fun _ => .none) fun _ => ?_
  refine .ite (fun _ => .some (s.beginsNone_enter _) _) fun _ => .ite (fun _ => .none) fun _ => ?_
  refine .some (.trans ?_ (State.beginsNone_push _ rfl)) _
  exact ⟨List.Sublist.refl _, rfl, rfl⟩

/-- What stands before the name of a group. -/
def NameFront (text name : List Char) : Prop :=
  text = '?' :: 'P' :: '<' :: name ∨ text = '?' :: '<' :: name

/-- A parenthesis begins a group without a name, a group with a name, or what has no number. -/
theorem readGroup?_cases {s next : State} {text rest : List Char}
    (h : readGroup? s text = some (next, rest)) :
    (next = s.enterCapture none ∧ (skip s.flags text).head? ≠ some '?' ∧
      rest = skip s.flags text) ∨
    (∃ name written, NameFront (skip s.flags text) written ∧
      readName? written = some (name, rest) ∧ name ∉ s.names ∧
      next = s.enterCapture (some name)) ∨
    ∃ after, skip s.flags text = '?' :: after ∧ readFlagGroup? s after = some (next, rest) := by
  have hnamed {written : List Char} (hfront : NameFront (skip s.flags text) written)
      (h : readNamedGroup? s written = some (next, rest)) :
      ∃ name written, NameFront (skip s.flags text) written ∧
        readName? written = some (name, rest) ∧ name ∉ s.names ∧
        next = s.enterCapture (some name) := by
    obtain ⟨⟨name, after⟩, hname, h⟩ := Option.bind_eq_some_iff.1 h
    dsimp only at h
    split at h
    · cases h
    · next hnew =>
      cases h
      exact ⟨name, written, hfront, hname, by simpa using hnew, rfl⟩
  cases hskip : skip s.flags text with
  | nil =>
    rw [readGroup?_of_nil hskip] at h
    cases h
    exact .inl ⟨rfl, by simp, rfl⟩
  | cons c behind =>
    by_cases hc : c = '?'
    · subst hc
      rw [hskip] at hnamed
      rw [readGroup?_of_mark hskip] at h
      unfold readMarked? at h
      split at h
      · exact .inr (.inl (hnamed (.inl rfl) h))
      · cases h
      · cases h
      · exact .inr (.inl (hnamed (.inr rfl) h))
      · exact .inr (.inr ⟨_, rfl, h⟩)
    · rw [readGroup?_of_ne hskip hc] at h
      cases h
      exact .inl ⟨rfl, by simpa using hc, rfl⟩

/-- A step begins a group or none. -/
theorem step?_cases {s next : State} {c : Char} {text rest : List Char}
    (h : step? s (c :: text) = some (next, rest)) :
    s.BeginsNone next ∨ c = '(' ∧ ∃ name, (∀ n ∈ name, n ∉ s.names) ∧ next = s.enterCapture name := by
  by_cases hc : c = '('
  · subst hc
    rw [step?_group] at h
    obtain ⟨rfl, -⟩ | ⟨name, -, -, -, hnew, rfl⟩ | ⟨after, -, hflags⟩ := readGroup?_cases h
    · exact .inr ⟨rfl, none, by simp, rfl⟩
    · exact .inr ⟨rfl, some name, by simpa using hnew, rfl⟩
    · exact .inl (readFlagGroup?_beginsNone s after next rest hflags)
  · have hsteady : Steady s.BeginsNone := .of_groups fun h hnone => h.trans hnone
    exact .inl (hsteady.step? (.refl s) hc text next rest h)

theorem enterCapture_inj {s : State} {name other : Option String}
    (h : s.enterCapture name = s.enterCapture other) : name = other := by
  have hcapture := congrArg State.outer h
  simp only [State.enterCapture, State.enter, List.cons.injEq, Prod.mk.injEq,
    Opening.mk.injEq, Option.some.injEq] at hcapture
  exact hcapture.1.2.1.2

/-- Only a parenthesis begins a group, and a name is given once. -/
theorem Begins.head {s : State} {place : List Char} {g : Nat × Option String}
    (h : Begins s place g) : ∃ text, place = '(' :: text ∧ ∀ n ∈ g.2, n ∉ s.names := by
  obtain ⟨-, rest, hstep⟩ := h
  cases place with
  | nil => cases hstep
  | cons c text =>
    rcases step?_cases hstep with hnone | ⟨rfl, name, hnew, e⟩
    · have hcaptures := hnone.captures
      simp [State.enterCapture, State.enter] at hcaptures
    · rw [enterCapture_inj e]
      exact ⟨text, rfl, hnew⟩

theorem suffix_of_mem_trace {s : State} {text : List Char} {x : State × List Char}
    (hx : x ∈ trace s text) : x.2 <:+ text := by
  fun_induction trace s text with
  | case1 => cases hx
  | case2 s text c rest hskip hstep =>
    rw [List.mem_singleton.1 hx, ← hskip]
    exact skip_suffix _ _
  | case3 s text c rest hskip next after hstep hshort ih =>
    rcases List.mem_cons.1 hx with rfl | hx
    · rw [← hskip]
      exact skip_suffix _ _
    · exact (ih hx).trans ((leaves_step? s c rest next after hstep).trans (suffix_of_skip hskip))
  | case4 s text c rest hskip next after hstep hshort =>
    rw [List.mem_singleton.1 hx, ← hskip]
    exact skip_suffix _ _

theorem Preserved.of_mem_trace {I : State → Prop} (hI : Preserved I) {s : State} (h : I s)
    {text : List Char} {x : State × List Char} (hx : x ∈ trace s text) : I x.1 := by
  fun_induction trace s text with
  | case1 => cases hx
  | case2 =>
    rw [List.mem_singleton.1 hx]
    exact h
  | case3 s text c rest hskip next after hstep hshort ih =>
    rcases List.mem_cons.1 hx with rfl | hx
    · exact h
    · exact ih (hI.step? h _ next after hstep) hx
  | case4 =>
    rw [List.mem_singleton.1 hx]
    exact h

/-- The step `x` is taken before the step `y`. -/
structure Before (x y : State × List Char) : Prop where
  place : y.2.length < x.2.length
  number : ∀ g, Begins x.1 x.2 g → g.1 ≤ y.1.captures

theorem pairwise_trace (s : State) (text : List Char) : (trace s text).Pairwise Before := by
  fun_induction trace s text with
  | case1 => exact List.Pairwise.nil
  | case2 => exact List.pairwise_singleton _ _
  | case3 s text c rest hskip next after hstep hshort ih =>
    refine List.pairwise_cons.2 ⟨fun y hy => ⟨?_, fun g hg => ?_⟩, ih⟩
    · have hplace := (suffix_of_mem_trace hy).length_le
      have hafter := (leaves_step? s c rest next after hstep).length_le
      simp only [List.length_cons]
      omega
    · obtain ⟨hnumber, rest', hbegins⟩ := hg
      obtain ⟨rfl, -⟩ := Prod.mk.inj (Option.some.inj (hstep.symm.trans hbegins))
      rw [hnumber]
      exact (preserved_captures (s.captures + 1)).of_mem_trace (Nat.le_refl _) hy
  | case4 => exact List.pairwise_singleton _ _

section Order

variable {s : State} {text : List Char} {x y : State × List Char} (hx : x ∈ trace s text)
  (hy : y ∈ trace s text)
include hx hy

theorem before_or_eq_of_mem_trace (h : y.2.length ≤ x.2.length) : x = y ∨ Before x y := by
  by_cases hne : x = y
  · exact .inl hne
  have hpairwise : (trace s text).Pairwise fun x y => Before x y ∨ Before y x :=
    (pairwise_trace s text).imp Or.inl
  have hsymm : Std.Symm fun x y : State × List Char => Before x y ∨ Before y x :=
    ⟨fun _ _ => Or.symm⟩
  rcases hpairwise.forall hx hy hne with hxy | hyx
  · exact .inr hxy
  · exact absurd hyx.place (Nat.not_lt.2 h)

/-- Groups are numbered in the order of their places. -/
theorem lt_of_begins {g g' : Nat × Option String} (h : y.2.length < x.2.length)
    (hg : Begins x.1 x.2 g) (hg' : Begins y.1 y.2 g') : g.1 < g'.1 := by
  rcases before_or_eq_of_mem_trace hx hy (Nat.le_of_lt h) with rfl | hbefore
  · exact (Nat.lt_irrefl _ h).elim
  · rw [hg'.1]
    exact Nat.lt_succ_of_le (hbefore.number g hg)

end Order

/-- Every group of the result was there at the start or began at one of the steps. -/
theorem exists_begins_of_mem_groups {s t : State} {text : List Char}
    (hread : read? s text = some t) {g : Nat × Option String} (hg : g ∈ t.groups) :
    g ∈ s.groups ∨ ∃ x ∈ trace s text, Begins x.1 x.2 g := by
  fun_induction trace s text with
  | case1 s text hskip =>
    rw [read?_eq, hskip] at hread
    cases hread
    exact .inl hg
  | case2 s text c rest hskip hstep =>
    rw [read?_eq, hskip] at hread
    simp only [hstep, Option.bind_none] at hread
    cases hread
  | case3 s text c rest hskip next after hstep hshort ih =>
    rw [read?_eq, hskip] at hread
    simp only [hstep, Option.bind_some] at hread
    rcases ih hread with hold | ⟨x, hx, hbegins⟩
    · rcases step?_cases hstep with hnone | ⟨-, name, -, rfl⟩
      · exact .inl (hnone.groups.subset hold)
      · rw [State.groups_enterCapture] at hold
        rcases List.mem_append.1 hold with hold | hnew
        · exact .inl hold
        · rw [List.mem_singleton.1 hnew]
          exact .inr ⟨_, List.mem_cons_self, rfl, after, hstep⟩
    · exact .inr ⟨x, List.mem_cons_of_mem _ hx, hbegins⟩
  | case4 s text c rest hskip next after hstep hlong =>
    exact absurd (Nat.lt_of_le_of_lt (leaves_step? s c rest next after hstep).length_le
      (length_lt_of_skip hskip)) hlong

/-- A step that leaves the flags as they are. -/
def KeepsFlags (x : State × List Char) : Prop :=
  ∀ next rest, step? x.1 x.2 = some (next, rest) → next.flags = x.1.flags

/-- The same flags hold here and in all groups that are open. -/
structure State.Uniform (flags : Flags) (s : State) : Prop where
  flags_eq : s.flags = flags
  outer : ∀ x ∈ s.outer, x.2.flags = flags

theorem steady_uniform (flags : Flags) : Steady (State.Uniform flags) where
  push h _ _ := ⟨h.flags_eq, h.outer⟩
  leave {s s'} h hleave := by
    cases houter : s.outer with
    | nil => simp [State.leave?, houter] at hleave
    | cons parent outer =>
      rw [State.leave?_of_outer houter] at hleave
      cases hleave
      have hall := houter ▸ h.outer
      exact ⟨hall parent List.mem_cons_self, fun x hx => hall x (List.mem_cons_of_mem _ hx)⟩
  repeatLast h _ _ _ hrepeat := by
    obtain ⟨item, items, -, -, rfl⟩ := State.exists_of_repeatLast? hrepeat
    exact ⟨h.flags_eq, h.outer⟩
  split h := ⟨h.flags_eq, h.outer⟩

theorem exists_of_readFlagGroup? {s next : State} {text rest : List Char}
    (h : readFlagGroup? s text = some (next, rest)) :
    ∃ flags, next = s.enter none flags ∨ next = { s with flags }.push ⟨.empty, 0, false⟩ := by
  obtain ⟨⟨signs, stop, after⟩, -, h⟩ := Option.bind_eq_some_iff.1 h
  dsimp only at h
  split at h
  · cases h
  · split at h
    · cases h
      exact ⟨_, .inl rfl⟩
    · split at h
      · cases h
      · cases h
        exact ⟨_, .inr rfl⟩

/-- Only what begins with a parenthesis can change the flags. -/
theorem State.Uniform.step? {flags : Flags} {s next : State} (h : s.Uniform flags) {c : Char}
    {text rest : List Char} (hkeeps : c = '(' → KeepsFlags (s, c :: text))
    (hstep : step? s (c :: text) = some (next, rest)) : next.Uniform flags := by
  by_cases hc : c = '('
  · subst hc
    have hflags := (hkeeps rfl next rest hstep).trans h.flags_eq
    have hinner (capture : Option (Nat × Option String)) :
        ∀ x ∈ (s.level, Opening.mk capture s.flags) :: s.outer, x.2.flags = flags :=
      List.forall_mem_cons.2 ⟨h.flags_eq, h.outer⟩
    rw [step?_group] at hstep
    obtain ⟨rfl, -⟩ | ⟨name, -, -, -, -, rfl⟩ | ⟨after, -, hflag⟩ := readGroup?_cases hstep
    · exact ⟨hflags, hinner _⟩
    · exact ⟨hflags, hinner _⟩
    · obtain ⟨others, rfl | rfl⟩ := exists_of_readFlagGroup? hflag
      · exact ⟨hflags, hinner none⟩
      · exact ⟨hflags, h.outer⟩
  · exact (steady_uniform flags).step? h hc text next rest hstep

/-- The same flags hold at all steps when no parenthesis that is come to changes them. -/
theorem State.Uniform.of_mem_trace {flags : Flags} {s : State} (h : s.Uniform flags)
    {text : List Char} (hkeeps : ∀ t : State, t.flags = flags → ∀ after, '(' :: after <:+ text →
      KeepsFlags (t, '(' :: after)) {x : State × List Char} (hx : x ∈ trace s text) :
    x.1.Uniform flags := by
  fun_induction trace s text with
  | case1 => cases hx
  | case2 =>
    rw [List.mem_singleton.1 hx]
    exact h
  | case3 s text c rest hskip next after hstep hshort ih =>
    have hplace : c :: rest <:+ text := hskip ▸ skip_suffix s.flags text
    rcases List.mem_cons.1 hx with rfl | hx
    · exact h
    · refine ih (h.step? (fun hc => ?_) hstep) (fun t ht behind hbehind => ?_) hx
      · subst hc
        exact hkeeps s h.flags_eq rest hplace
      · exact hkeeps t ht behind
          (hbehind.trans ((leaves_step? s c rest next after hstep).trans (suffix_of_skip hskip)))
  | case4 =>
    rw [List.mem_singleton.1 hx]
    exact h

end Lapse.Regex.Reader
