import Lapse.FileTree.Basic

/-!
# Absolute paths

The components of a path that is put together from parts. Paths with the same components have
absolute forms with the same components.
-/
namespace Lapse

namespace Text

variable {α : Type} [DecidableEq α]

theorem splitAll_ne_nil (mark : α) (xs : List α) : splitAll mark xs ≠ [] := by
  cases xs with
  | nil => simp [splitAll]
  | cons a xs =>
    rw [splitAll]
    split
    · simp
    · split <;> simp

theorem splitAll_cons_of_ne {mark a : α} (h : a ≠ mark) (xs : List α) :
    ∃ part parts, splitAll mark xs = part :: parts ∧
      splitAll mark (a :: xs) = (a :: part) :: parts := by
  cases e : splitAll mark xs with
  | nil => exact absurd e (splitAll_ne_nil mark xs)
  | cons part parts => exact ⟨part, parts, rfl, by rw [splitAll, if_neg h, e]⟩

/-- A mark separates the parts before it from those after it. -/
theorem splitAll_append_cons (mark : α) (xs ys : List α) :
    splitAll mark (xs ++ mark :: ys) = splitAll mark xs ++ splitAll mark ys := by
  induction xs with
  | nil => simp [splitAll]
  | cons a xs ih =>
    by_cases h : a = mark
    · rw [List.cons_append, splitAll, if_pos h, splitAll, if_pos h, ih]
      rfl
    · obtain ⟨part, parts, e₁, e₂⟩ := splitAll_cons_of_ne h xs
      rw [List.cons_append, splitAll, if_neg h, ih, e₁, e₂]
      rfl

theorem splitAll_of_not_mem {mark : α} {xs : List α} (h : mark ∉ xs) : splitAll mark xs = [xs] := by
  induction xs with
  | nil => rfl
  | cons a xs ih =>
    rw [List.mem_cons, not_or] at h
    rw [splitAll, if_neg (Ne.symm h.1), ih h.2]

theorem not_mem_of_mem_splitAll {mark : α} {xs part : List α} (h : part ∈ splitAll mark xs) :
    mark ∉ part := by
  induction xs generalizing part with
  | nil =>
    rw [splitAll, List.mem_singleton] at h
    simp [h]
  | cons a xs ih =>
    by_cases ha : a = mark
    · rw [splitAll, if_pos ha, List.mem_cons] at h
      rcases h with rfl | h
      · simp
      · exact ih h
    · obtain ⟨first, parts, e₁, e₂⟩ := splitAll_cons_of_ne ha xs
      rw [e₂, List.mem_cons] at h
      rcases h with rfl | h
      · have hfirst : mark ∉ first := ih (e₁ ▸ List.mem_cons_self)
        simpa [Ne.symm ha] using hfirst
      · exact ih (e₁ ▸ List.mem_cons_of_mem _ h)

end Text

namespace Path

/-- The components of a path other than a root or a dot at its beginning. -/
def names (p : Path) : List Component :=
  (Text.splitAll slash p.bytes).filterMap Component.ofPart?

/-- The root or the dot that a path begins with. -/
def lead (p : Path) : List Component :=
  if p.isAbsolute then [.root]
  else if (Text.splitAll slash p.bytes).head? = some [dot] then [.current]
  else []

theorem components_eq (p : Path) : p.components = p.lead ++ p.names := rfl

theorem mem_lead {p : Path} {c : Component} (h : c ∈ p.lead) : c = .root ∨ c = .current := by
  rw [lead] at h
  split at h
  · exact .inl (List.mem_singleton.1 h)
  · split at h
    · exact .inr (List.mem_singleton.1 h)
    · cases h

theorem ofPart?_bytes {part : FileName} {c : Component} (h : Component.ofPart? part = some c) :
    c.bytes = part ∧ part ≠ [] ∧ c ≠ .root ∧ c ≠ .current := by
  rw [Component.ofPart?] at h
  split at h
  · cases h
  · next hpart =>
    rw [not_or] at hpart
    split at h
    · next hdots =>
      cases h
      exact ⟨hdots.symm, hpart.1, nofun, nofun⟩
    · cases h
      exact ⟨rfl, hpart.1, nofun, nofun⟩

/-- The bytes of a component are a part of a path that stands for it. -/
theorem mem_names {p : Path} {c : Component} (h : c ∈ p.names) :
    slash ∉ c.bytes ∧ c.bytes ≠ [] ∧ Component.ofPart? c.bytes = some c := by
  obtain ⟨part, hpart, e⟩ := List.mem_filterMap.1 h
  obtain ⟨hbytes, hne, -⟩ := ofPart?_bytes e
  rw [hbytes]
  exact ⟨Text.not_mem_of_mem_splitAll hpart, hne, e⟩

theorem ne_lead_of_mem_names {p : Path} {c : Component} (h : c ∈ p.names) :
    c ≠ .root ∧ c ≠ .current :=
  (ofPart?_bytes (mem_names h).2.2).2.2

/-- The names of a path can be read off its components. -/
theorem names_eq_filter (p : Path) :
    p.names = p.components.filter fun c => c ≠ .root ∧ c ≠ .current := by
  have hlead : p.lead.filter (fun c => c ≠ .root ∧ c ≠ .current) = [] := by
    refine List.filter_eq_nil_iff.2 fun c hc => ?_
    rcases mem_lead hc with rfl | rfl <;> simp
  have hnames : p.names.filter (fun c => c ≠ .root ∧ c ≠ .current) = p.names := by
    refine List.filter_eq_self.2 fun c hc => ?_
    simpa using ne_lead_of_mem_names hc
  rw [components_eq, List.filter_append, hlead, hnames, List.nil_append]

theorem isAbsolute_iff_root_mem (p : Path) : p.isAbsolute ↔ .root ∈ p.components := by
  rw [components_eq, List.mem_append, or_iff_left fun h => (ne_lead_of_mem_names h).1 rfl, lead]
  cases p.isAbsolute <;> simp

/-- Only the bytes of a relative path are put behind those of another. -/
theorem join_bytes {p : Path} (hp : p.bytes ≠ []) {bytes : FileName}
    (h : bytes.head? ≠ some slash) :
    ∃ front, (p.join ⟨bytes⟩).bytes = front ++ slash :: bytes ∧
      (p.bytes = front ++ [slash] ∨ p.bytes = front) := by
  have hrel : ¬ (Path.mk bytes).isAbsolute := by simpa [isAbsolute] using h
  rw [join, if_neg hrel]
  by_cases hlast : p.bytes.getLast? = some slash
  · obtain ⟨front, hfront⟩ := List.getLast?_eq_some_iff.1 hlast
    refine ⟨front, ?_, .inl hfront⟩
    rw [if_pos (.inr hlast)]
    simp [hfront]
  · refine ⟨p.bytes, ?_, .inr rfl⟩
    rw [if_neg (by simp [hp, hlast])]

theorem names_join {p : Path} (hp : p.bytes ≠ []) {bytes : FileName}
    (h : bytes.head? ≠ some slash) :
    (p.join ⟨bytes⟩).names = p.names ++ (Path.mk bytes).names := by
  obtain ⟨front, hjoin, hfront⟩ := join_bytes hp h
  rw [names, hjoin, Text.splitAll_append_cons, List.filterMap_append]
  refine congrArg (· ++ _) ?_
  rcases hfront with hfront | hfront
  · rw [names, hfront, Text.splitAll_append_cons, List.filterMap_append]
    simp [Text.splitAll, Component.ofPart?]
  · rw [names, hfront]

theorem isAbsolute_join {p : Path} (hp : p.isAbsolute) (q : Path) : (p.join q).isAbsolute := by
  by_cases hq : q.isAbsolute
  · rwa [join, if_pos hq]
  · rw [join, if_neg hq]
    rw [isAbsolute] at hp ⊢
    cases h : p.bytes with
    | nil => simp [h] at hp
    | cons b bytes =>
      split
      · simpa [h] using hp
      · simpa [h] using hp

/-- The components of an absolute path are the root and its names. -/
theorem components_of_isAbsolute {p : Path} (hp : p.isAbsolute) :
    p.components = .root :: p.names := by
  rw [components_eq, lead, if_pos hp]
  rfl

theorem bytes_ne_nil_of_isAbsolute {p : Path} (hp : p.isAbsolute) : p.bytes ≠ [] := by
  rintro h
  simp [isAbsolute, h] at hp

/-- Putting components behind an absolute path adds them to its names. -/
theorem names_foldl_join {p : Path} (hp : p.isAbsolute) {cs : List Component}
    (hcs : ∀ c ∈ cs, slash ∉ c.bytes ∧ c.bytes ≠ [] ∧ Component.ofPart? c.bytes = some c) :
    (cs.foldl (fun p c => p.join ⟨c.bytes⟩) p).isAbsolute ∧
      (cs.foldl (fun p c => p.join ⟨c.bytes⟩) p).names = p.names ++ cs := by
  induction cs generalizing p with
  | nil => exact ⟨hp, (List.append_nil _).symm⟩
  | cons c cs ih =>
    obtain ⟨hslash, hne, hpart⟩ := hcs c List.mem_cons_self
    have hhead : c.bytes.head? ≠ some slash := fun h => hslash (List.mem_of_head? h)
    have hone : (Path.mk c.bytes).names = [c] := by
      rw [names, Text.splitAll_of_not_mem hslash]
      simp [hpart]
    obtain ⟨habs, hnames⟩ := ih (isAbsolute_join hp ⟨c.bytes⟩)
      fun c hc => hcs c (List.mem_cons_of_mem _ hc)
    refine ⟨habs, ?_⟩
    rw [List.foldl_cons, hnames, names_join (bytes_ne_nil_of_isAbsolute hp) hhead, hone,
      List.append_assoc]
    rfl

/-- The components of the absolute form of a path. -/
theorem components_of_absolute? {base p full : Path} (hbase : base.isAbsolute)
    (h : absolute? base p = some full) :
    full.components = .root :: ((if p.isAbsolute then [] else base.names) ++ p.names) := by
  rw [absolute?] at h
  split at h
  · cases h
  · simp only [Option.some.injEq] at h
    generalize hstart : (if !p.isAbsolute then base else _ : Path) = start at h
    have habs : start.isAbsolute ∧ start.names = if p.isAbsolute then [] else base.names := by
      subst hstart
      cases p.isAbsolute with
      | false => exact ⟨hbase, rfl⟩
      | true =>
        rw [if_neg (by simp), if_pos rfl]
        split <;> exact ⟨rfl, rfl⟩
    have hparts : ∀ c ∈ p.names, slash ∉ c.bytes ∧ c.bytes ≠ [] ∧
        Component.ofPart? c.bytes = some c := fun c hc => mem_names hc
    obtain ⟨hfull, hnames⟩ := names_foldl_join habs.1 hparts
    rw [habs.2] at hnames
    subst h
    split
    · have hempty : ([] : FileName).head? ≠ some slash := by simp
      have hrest := names_join (bytes_ne_nil_of_isAbsolute hfull) hempty
      rw [hnames] at hrest
      exact (components_of_isAbsolute (isAbsolute_join hfull _)).trans
        (congrArg _ (hrest.trans (List.append_nil _)))
    · exact (components_of_isAbsolute hfull).trans (congrArg _ hnames)

/-- A part that is neither empty nor a dot stands for a component. -/
theorem ofPart?_ne_none {part : FileName} (hne : part ≠ []) (hdot : part ≠ [dot]) :
    Component.ofPart? part ≠ none := by
  rw [Component.ofPart?, if_neg (by simp [hne, hdot])]
  split <;> simp

theorem bytes_eq_nil_iff {p : Path} : p.bytes = [] ↔ p.components = [] := by
  constructor
  · intro h
    simp [components, isAbsolute, h, Text.splitAll, Component.ofPart?]
  · intro h
    cases hbytes : p.bytes with
    | nil => rfl
    | cons b bytes =>
      exfalso
      obtain ⟨hlead, hnames⟩ := List.append_eq_nil_iff.1 h
      have hrel : b ≠ slash := by
        rintro rfl
        simp [isAbsolute, hbytes] at hlead
      obtain ⟨part, parts, -, e⟩ := Text.splitAll_cons_of_ne hrel bytes
      have hdot : b :: part ≠ [dot] := by
        intro hdot
        simp [isAbsolute, hbytes, hrel, e, hdot] at hlead
      rw [hbytes, e] at hnames
      exact ofPart?_ne_none (List.cons_ne_nil _ _) hdot
        (List.filterMap_eq_nil_iff.1 hnames _ List.mem_cons_self)

/-- Every path but the empty one has an absolute form. -/
theorem absolute?_eq_none_iff {base p : Path} : absolute? base p = none ↔ p.components = [] := by
  rw [← bytes_eq_nil_iff, absolute?]
  split <;> simp_all

end Path

namespace FileTree

theorem isAbsolute_herePath (t : FileTree) : t.herePath.isAbsolute := by
  rw [herePath]
  suffices h : ∀ p : Path, p.isAbsolute → (t.here.foldl Path.joinName p).isAbsolute from h _ rfl
  induction t.here with
  | nil => exact fun p hp => hp
  | cons name names ih => exact fun p hp => ih _ (Path.isAbsolute_join hp _)

/-- Paths with the same components have absolute forms with the same components. -/
theorem same_absolute (t : FileTree) {p q : Path} (h : p.Same q) :
    ((t.absolute? p).getD p).Same ((t.absolute? q).getD q) := by
  by_cases hnil : p.components = []
  · have hp : t.absolute? p = none := Path.absolute?_eq_none_iff.2 hnil
    have hq : t.absolute? q = none := Path.absolute?_eq_none_iff.2 (h ▸ hnil)
    rw [hp, hq]
    exact h
  · obtain ⟨full, hp⟩ := Option.ne_none_iff_exists'.1 (mt Path.absolute?_eq_none_iff.1 hnil)
    obtain ⟨other, hq⟩ := Option.ne_none_iff_exists'.1
      (mt Path.absolute?_eq_none_iff.1 (h ▸ hnil))
    have habs : p.isAbsolute = q.isAbsolute := by
      rw [Bool.eq_iff_iff, Path.isAbsolute_iff_root_mem, Path.isAbsolute_iff_root_mem, h]
    have hnames : p.names = q.names := by
      rw [Path.names_eq_filter, Path.names_eq_filter, h]
    rw [absolute?, hp, absolute?, hq, Option.getD_some, Option.getD_some, Path.Same,
      Path.components_of_absolute? t.isAbsolute_herePath hp,
      Path.components_of_absolute? t.isAbsolute_herePath hq, habs, hnames]

end FileTree

end Lapse
