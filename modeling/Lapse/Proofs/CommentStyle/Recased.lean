import Lapse.CommentStyle
import Lapse.Proofs.Regex.Alike
import Lapse.Proofs.Regex.Local
import Lapse.Proofs.Regex.Trace

/-!
# Tags in other letters

Two texts of patterns that differ only in the case of ASCII letters of the tags. The group of the tags
may stand anywhere in the pattern, also in a class or behind a backslash; wherever the reader is when
it comes to the tags, it does alike things with both texts.
-/
namespace Lapse.CommentStyle

open Regex (CharSet escapeChar isMeta)
open Regex.Reader (State trace KeepsFlags Flags Primitive OpenClass SetOperation BracketStep Action
  Local rel_refl rel_imp rel_bind rel_map readPart? readEscape? readRange? skip partSet?
  partLiteral? negate? foldFor)

/-- Escaped words up to the parenthesis behind them, alike but for the case of letters. -/
inductive Inside : List Char → List Char → Prop
  | stop (rest : List Char) : Inside (')' :: rest) (')' :: rest)
  | bar {x y : List Char} (h : Inside x y) : Inside ('|' :: x) ('|' :: y)
  | char {c d : Char} {x y : List Char} (hcd : c.toLower = d.toLower) (h : Inside x y) :
    Inside (escapeChar c ++ x) (escapeChar d ++ y)

/-- What stands between the parenthesis of the tag's group and the tags. -/
def tagFront : List Char := "?P<tag>".toList

theorem tagFront_eq : tagFront = '?' :: 'P' :: '<' :: ("tag".toList ++ ['>']) := by decide

/-- Texts that are the same up to the group of the tags. -/
inductive Ahead : List Char → List Char → Prop
  | same (text : List Char) : Ahead text text
  | before (text : List Char) {x y : List Char} (h : Inside x y) :
    Ahead (text ++ '(' :: (tagFront ++ x)) (text ++ '(' :: (tagFront ++ y))

/-- Texts that are the same up to the group of the tags or begin in it. -/
inductive TextAlike : List Char → List Char → Prop
  | ahead {x y : List Char} (h : Ahead x y) : TextAlike x y
  | front {front x y : List Char} (hfront : front <:+ tagFront) (h : Inside x y) :
    TextAlike (front ++ x) (front ++ y)

theorem TextAlike.inside {x y : List Char} (h : Inside x y) : TextAlike x y :=
  @TextAlike.front [] x y List.nil_suffix h

/-- A letter is no character with a meaning of its own. -/
theorem isMeta_cases {c d : Char} (h : c.toLower = d.toLower) :
    (isMeta c ∧ c = d) ∨ (¬ isMeta c ∧ ¬ isMeta d) := by
  rcases Text.CaseFold.eq_or_eq_swapAscii h with rfl | ⟨hascii, rfl⟩
  · by_cases hd : isMeta d
    · exact .inl ⟨hd, rfl⟩
    · exact .inr ⟨hd, hd⟩
  · exact .inr (Text.forall_ascii (P := fun c => c.isAlpha →
      ¬ isMeta c ∧ ¬ isMeta (Text.CaseFold.swapAscii c)) (by decide +kernel) hascii.1 hascii.2)

theorem Inside.cases {x y : List Char} (h : Inside x y) :
    (∃ rest, x = ')' :: rest ∧ y = ')' :: rest) ∨
    (∃ x' y', x = '|' :: x' ∧ y = '|' :: y' ∧ Inside x' y') ∨
    (∃ c x' y', isMeta c ∧ x = '\\' :: c :: x' ∧ y = '\\' :: c :: y' ∧ Inside x' y') ∨
    ∃ c d x' y', (¬ isMeta c ∧ ¬ isMeta d) ∧ c.toLower = d.toLower ∧ x = c :: x' ∧ y = d :: y' ∧
      Inside x' y' := by
  cases h with
  | stop rest => exact .inl ⟨rest, rfl, rfl⟩
  | bar h => exact .inr (.inl ⟨_, _, rfl, rfl, h⟩)
  | @char c d x y hcd h =>
    rcases isMeta_cases hcd with ⟨hc, rfl⟩ | hne
    · exact .inr (.inr (.inl ⟨c, x, y, hc, by simp [escapeChar, hc], by simp [escapeChar, hc], h⟩))
    · exact .inr (.inr (.inr ⟨c, d, x, y, hne, hcd, by simp [escapeChar, hne.1],
        by simp [escapeChar, hne.2], h⟩))

theorem Inside.head? {x y : List Char} (h : Inside x y) {c : Char} (hc : c = '-' ∨ c = '?') :
    (x ≠ [] ∧ x.head? ≠ some c) ∧ y ≠ [] ∧ y.head? ≠ some c := by
  have hmeta : isMeta c := by rcases hc with rfl | rfl <;> rfl
  obtain ⟨rest, rfl, rfl⟩ | ⟨x, y, rfl, rfl, -⟩ | ⟨d, x, y, -, rfl, rfl, -⟩ |
    ⟨d, e, x, y, ⟨hd, he⟩, -, rfl, rfl, -⟩ := h.cases
  · rcases hc with rfl | rfl <;> simp
  · rcases hc with rfl | rfl <;> simp
  · rcases hc with rfl | rfl <;> simp
  · have hne {x : Char} (hx : ¬ isMeta x) : x ≠ c := by
      rintro rfl
      exact hx hmeta
    simp [hne hd, hne he]

theorem Ahead.cons {x y : List Char} (h : Ahead x y) (c : Char) : Ahead (c :: x) (c :: y) := by
  cases h with
  | same => exact .same _
  | before text h => exact .before (c :: text) h

/-- Both texts end, or they go on with the same character. -/
theorem Ahead.cases {x y : List Char} (h : Ahead x y) :
    (x = [] ∧ y = []) ∨ ∃ c x' y', x = c :: x' ∧ y = c :: y' ∧
      (Ahead x' y' ∨ c = '(' ∧ ∃ u v, Inside u v ∧ x' = tagFront ++ u ∧ y' = tagFront ++ v) := by
  cases h with
  | same =>
    cases x with
    | nil => exact .inl ⟨rfl, rfl⟩
    | cons c text => exact .inr ⟨c, text, text, rfl, rfl, .inl (.same text)⟩
  | @before text x y h =>
    cases text with
    | nil => exact .inr ⟨'(', _, _, rfl, rfl, .inr ⟨rfl, x, y, h, rfl, rfl⟩⟩
    | cons c text => exact .inr ⟨c, _, _, rfl, rfl, .inl (.before text h)⟩

theorem Ahead.head?_eq {x y : List Char} (h : Ahead x y) : x.head? = y.head? := by
  obtain ⟨rfl, rfl⟩ | ⟨c, x, y, rfl, rfl, -⟩ := h.cases
  · rfl
  · rfl

theorem Ahead.tail {x y : List Char} {c : Char} (hc : c ≠ '(') (h : Ahead (c :: x) (c :: y)) :
    Ahead x y := by
  obtain ⟨e, -⟩ | ⟨c, x, y, e, e', h | ⟨rfl, -⟩⟩ := h.cases
  · cases e
  · cases e
    cases e'
    exact h
  · exact absurd (List.cons.inj e).1 hc

/-- A hyphen is met in both texts or in none. -/
theorem TextAlike.hyphen_cases {x y : List Char} (h : TextAlike x y) :
    (x = [] ∧ y = []) ∨ (∃ u v, x = '-' :: u ∧ y = '-' :: v ∧ Ahead u v) ∨
      (x ≠ [] ∧ x.head? ≠ some '-') ∧ y ≠ [] ∧ y.head? ≠ some '-' := by
  cases h with
  | ahead h =>
    obtain ⟨rfl, rfl⟩ | ⟨c, x, y, rfl, rfl, hrest⟩ := h.cases
    · exact .inl ⟨rfl, rfl⟩
    · by_cases hc : c = '-'
      · subst hc
        exact .inr (.inl ⟨x, y, rfl, rfl, h.tail (by decide)⟩)
      · exact .inr (.inr (by simpa using hc))
  | @front front x y hfront h =>
    cases front with
    | nil => exact .inr (.inr (h.head? (.inl rfl)))
    | cons c front =>
      have hc : c ≠ '-' := by
        rintro rfl
        exact absurd (hfront.subset List.mem_cons_self) (by decide)
      exact .inr (.inr (by simpa using hc))

/-- Both readers fail, or both succeed with things that are related and leave texts that are alike. -/
def Answers {α β : Type} (R : α → β → Prop) (x : Option (α × List Char))
    (y : Option (β × List Char)) : Prop :=
  Option.Rel (fun p q => R p.1 q.1 ∧ TextAlike p.2 q.2) x y

theorem Answers.same {α : Type} {R : α → α → Prop} (h : ∀ a, R a a) (x : Option (α × List Char)) :
    Answers R x x :=
  rel_refl (fun p => ⟨h p.1, .ahead (.same p.2)⟩) x

theorem Answers.of_local {α : Type} {R : α → α → Prop} (hR : ∀ a, R a a)
    {f : List Char → Option (α × List Char)} (hf : Local f) {x y : List Char} (h : Inside x y) :
    Answers R (f (tagFront ++ x)) (f (tagFront ++ y)) := by
  obtain ⟨p, hp⟩ := hf
  rw [hp, hp]
  cases p with
  | none => exact .none
  | some p => exact .some ⟨hR p.1, .ahead (.before p.2 h)⟩

variable {flags : Flags} (hflags : flags.FoldCase)
include hflags

/-- In front of the tags a part of a class is the same. -/
theorem Ahead.readPart? {x y : List Char} (h : Ahead x y) :
    Answers Eq (Regex.Reader.readPart? flags x) (Regex.Reader.readPart? flags y) := by
  cases h with
  | same => exact .same (fun _ => rfl) _
  | before text h =>
    have hfront : TextAlike (tagFront ++ _) (tagFront ++ _) := .front (List.suffix_refl _) h
    cases text with
    | nil => exact .some ⟨rfl, hfront⟩
    | cons c text =>
      simp only [List.cons_append, Regex.Reader.readPart?]
      split
      · cases text with
        | nil => exact .some ⟨rfl, hfront⟩
        | cons d text =>
          exact .of_local (fun _ => rfl) (Regex.Reader.local_readEscape? hflags.ignoreBlank d text) h
      · exact .some ⟨rfl, .ahead (.before text h)⟩

/-- A part of a class is the same or a letter of a tag. -/
inductive PartAlike : Primitive × List Char → Primitive × List Char → Prop
  | same (p : Primitive) {x y : List Char} (h : TextAlike x y) : PartAlike (p, x) (p, y)
  | letter {c d : Char} (hcd : c.toLower = d.toLower) {x y : List Char} (h : Inside x y) :
    PartAlike (.literal c false, x) (.literal d false, y)

theorem TextAlike.readPart? {x y : List Char} (h : TextAlike x y) :
    Option.Rel PartAlike (Regex.Reader.readPart? flags x) (Regex.Reader.readPart? flags y) := by
  have hordinary {c : Char} (hc : c ≠ '\\') (text : List Char) :
      Regex.Reader.readPart? flags (c :: text) = some (.literal c false, text) := if_neg hc
  cases h with
  | ahead h =>
    refine rel_imp (h.readPart? hflags) ?_
    rintro ⟨p, x⟩ ⟨q, y⟩ ⟨rfl, h⟩
    exact .same p h
  | @front front x y hfront h =>
    cases front with
    | cons c front =>
      have hc : c ≠ '\\' := by
        rintro rfl
        exact absurd (hfront.subset List.mem_cons_self) (by decide)
      rw [List.cons_append, List.cons_append, hordinary hc, hordinary hc]
      exact .some (.same _ (.front ((List.suffix_cons c front).trans hfront) h))
    | nil =>
      obtain ⟨rest, rfl, rfl⟩ | ⟨x, y, rfl, rfl, hrest⟩ | ⟨c, x, y, hc, rfl, rfl, hrest⟩ |
        ⟨c, d, x, y, ⟨hc, hd⟩, hcd, rfl, rfl, hrest⟩ := h.cases
      · exact .some (.same _ (.ahead (.same rest)))
      · exact .some (.same _ (.inside hrest))
      · have hescape (text : List Char) : Regex.Reader.readPart? flags ('\\' :: c :: text) =
            some (.literal c false, text) := Regex.Reader.readEscape?_meta hc flags text
        rw [List.nil_append, List.nil_append, hescape, hescape]
        exact .some (.same _ (.inside hrest))
      · have hne {c : Char} (hc : ¬ isMeta c) : c ≠ '\\' := by
          rintro rfl
          exact hc rfl
        rw [List.nil_append, List.nil_append, hordinary (hne hc), hordinary (hne hd)]
        exact .some (.letter hcd hrest)

theorem TextAlike.readRange? {x y : List Char} (h : TextAlike x y) :
    Answers CharSet.FoldAlike (Regex.Reader.readRange? flags x) (Regex.Reader.readRange? flags y) := by
  have hset {p q : Primitive} (hpq : p.Alike q) {x y : List Char} (h : TextAlike x y) :
      Answers CharSet.FoldAlike ((partSet? flags p).bind fun s => some (s, x))
        ((partSet? flags q).bind fun s => some (s, y)) :=
    rel_bind (Regex.Reader.partSet?_alike hflags hpq) fun s t hst => .some ⟨hst, h⟩
  have hplain {first : Primitive} {x : List Char} (hx : x ≠ [] ∧ x.head? ≠ some '-') :
      Regex.Reader.rangeBehind? flags first x = (partSet? flags first).bind fun s => some (s, x) := by
    rw [Regex.Reader.rangeBehind?, Regex.Reader.skip_eq hflags.ignoreBlank]
    split
    · exact absurd rfl hx.1
    · exact absurd rfl hx.2
    · rfl
  rw [Regex.Reader.readRange?, Regex.Reader.readRange?]
  refine rel_bind (h.readPart? hflags) ?_
  rintro _ _ (⟨first, h⟩ | ⟨hcd, h⟩)
  · rcases h.hyphen_cases with ⟨rfl, rfl⟩ | ⟨x, y, rfl, rfl, hafter⟩ | ⟨hx, hy⟩
    · simp only [Regex.Reader.rangeBehind?, Regex.Reader.skip_eq hflags.ignoreBlank]
      exact .none
    · simp only [Regex.Reader.rangeBehind?, Regex.Reader.skip_eq hflags.ignoreBlank,
        Regex.Reader.peek?_eq_head? hflags.ignoreBlank, hafter.head?_eq]
      split
      · exact hset (.refl first) (.ahead (hafter.cons '-'))
      · refine rel_bind (hafter.readPart? hflags) ?_
        rintro ⟨last, x⟩ ⟨_, y⟩ ⟨rfl, hrest⟩
        refine rel_bind (rel_refl (R := Eq) (fun _ => rfl) (partLiteral? flags first)) ?_
        rintro low _ rfl
        refine rel_bind (rel_refl (R := Eq) (fun _ => rfl) (partLiteral? flags last)) ?_
        rintro high _ rfl
        split
        · exact .some ⟨.refl _, hrest⟩
        · exact .none
    · simp only [hplain hx, hplain hy]
      exact hset (.refl first) h
  · obtain ⟨hx, hy⟩ := h.head? (.inl rfl)
    simp only [hplain hx, hplain hy]
    exact hset (.letter hcd) (.inside h)

/-- Two steps inside a class that differ in how their sets are written and in the tags ahead. -/
inductive StepAlike : BracketStep → BracketStep → Prop
  | more {levels levels' : List OpenClass} (h : List.Forall₂ OpenClass.Alike levels levels')
    {x y : List Char} (hrest : TextAlike x y) : StepAlike (.more levels x) (.more levels' y)
  | closed {s t : CharSet} (h : s.Alike t) (height : Nat) {x y : List Char}
    (hrest : TextAlike x y) : StepAlike (.closed s height x) (.closed t height y)

omit hflags in
/-- A named class is the same ahead of the tags, since no name of a class has a parenthesis. -/
theorem Ahead.readNamed? {x y : List Char} (h : Ahead x y) :
    Option.Rel (fun p q => p.1 = q.1 ∧ p.2.1 = q.2.1 ∧ Ahead p.2.2 q.2.2)
      (Regex.Reader.readNamed? x) (Regex.Reader.readNamed? y) := by
  cases h with
  | same => exact rel_refl (fun p => ⟨rfl, rfl, .same _⟩) _
  | before text h =>
    have hfresh (rest : List Char) : Regex.Reader.IsFresh ('(' :: rest) := ⟨'(', by simp, rest, rfl⟩
    rw [Regex.Reader.readNamed?_append (hfresh _), Regex.Reader.readNamed?_append (hfresh _)]
    refine rel_map (rel_refl (R := Eq) (fun _ => rfl) (Regex.Reader.readNamed? text)) ?_
    rintro ⟨negated, s, rest⟩ _ rfl
    exact ⟨rfl, rfl, .before rest h⟩

theorem Ahead.readOpening? {x y : List Char} (h : Ahead x y) :
    Answers Eq (Regex.Reader.readOpening? flags x) (Regex.Reader.readOpening? flags y) := by
  cases h with
  | same => exact .same (fun _ => rfl) _
  | before text h =>
    exact .of_local (fun _ => rfl) (Regex.Reader.local_readOpening? hflags.ignoreBlank text) h

section Levels

variable {level level' : OpenClass} {outer outer' : List OpenClass} (hlevel : level.Alike level')
  (houter : List.Forall₂ OpenClass.Alike outer outer')
include hlevel houter

theorem rel_readRange? {x y : List Char} (h : TextAlike x y) :
    Option.Rel StepAlike
      ((Regex.Reader.readRange? flags x).map fun p => .more (level.add p.1 :: outer) p.2)
      ((Regex.Reader.readRange? flags y).map fun p => .more (level'.add p.1 :: outer') p.2) :=
  rel_map (h.readRange? hflags) fun _ _ hpq => .more (.cons (hlevel.add hpq.1) houter) hpq.2

theorem rel_operate (operation : SetOperation) {x y : List Char} (h : TextAlike x y) :
    Option.Rel StepAlike (some (.more (level.operate flags operation :: outer) x))
      (some (.more (level'.operate flags operation :: outer') y)) :=
  .some (.more (.cons (hlevel.operate hflags operation) houter) h)

theorem rel_nested {x y : List Char} (h : Ahead x y) :
    Option.Rel StepAlike
      (match Regex.Reader.readNamed? x with
        | some (negated, s, rest) => do
          let s ← negate? flags negated (foldFor flags s)
          return .more (level.add s :: outer) rest
        | none => (Regex.Reader.readOpening? flags x).map fun (inner, rest) =>
          .more (inner :: level :: outer) rest)
      (match Regex.Reader.readNamed? y with
        | some (negated, s, rest) => do
          let s ← negate? flags negated (foldFor flags s)
          return .more (level'.add s :: outer') rest
        | none => (Regex.Reader.readOpening? flags y).map fun (inner, rest) =>
          .more (inner :: level' :: outer') rest) := by
  have hnamed := h.readNamed?
  generalize Regex.Reader.readNamed? x = p at hnamed ⊢
  generalize Regex.Reader.readNamed? y = q at hnamed ⊢
  cases hnamed with
  | none =>
    refine rel_map (h.readOpening? hflags) ?_
    rintro ⟨inner, x⟩ ⟨_, y⟩ ⟨rfl, hrest⟩
    exact .more (.cons (.refl inner) (.cons hlevel houter)) hrest
  | @some p q hpq =>
    obtain ⟨negated, s, x⟩ := p
    obtain ⟨_, _, y⟩ := q
    obtain ⟨rfl, rfl, hrest⟩ := hpq
    refine rel_bind (rel_refl (R := Eq) (fun _ => rfl) _) ?_
    rintro s _ rfl
    exact .some (.more (.cons (hlevel.add (.refl s)) houter) (.ahead hrest))

theorem rel_close {x y : List Char} (h : TextAlike x y) :
    Option.Rel StepAlike
      (do
        let s ← level.close? flags
        match outer with
        | [] => return .closed s (level.depth + 1) x
        | parent :: more => return .more (parent.addClass s (level.depth + 1) :: more) x)
      (do
        let s ← level'.close? flags
        match outer' with
        | [] => return .closed s (level'.depth + 1) y
        | parent :: more => return .more (parent.addClass s (level'.depth + 1) :: more) y) := by
  refine rel_bind (hlevel.close? hflags) fun s t hst => ?_
  rw [hlevel.depth_eq]
  cases houter with
  | nil => exact .some (.closed hst _ h)
  | cons hparent hmore => exact .some (.more (.cons (hparent.addClass hst.foldAlike _) hmore) h)

end Levels

omit hflags in
theorem Ahead.drop {x y : List Char} (h : Ahead x y) {c : Char} (hc : c ≠ '(')
    (hhead : y.head? = some c) : Ahead (x.drop 1) (y.drop 1) := by
  obtain ⟨rfl, rfl⟩ | ⟨c, x, y, rfl, rfl, hrest | ⟨rfl, -⟩⟩ := h.cases
  · cases hhead
  · exact hrest
  · cases hhead
    exact absurd rfl hc

/-- Characters that open and close no class and begin no operator. -/
def StartsPart (c : Char) : Prop := c ∉ ['[', ']', '&', '-', '~']

instance : DecidablePred StartsPart := fun c => by
  unfold StartsPart
  infer_instance

theorem bracketStep?_of_startsPart {c : Char} (hc : StartsPart c) (level : OpenClass)
    (outer : List OpenClass) (text : List Char) :
    Regex.Reader.bracketStep? flags (level :: outer) (c :: text) =
      (Regex.Reader.readRange? flags (c :: text)).map fun p => .more (level.add p.1 :: outer) p.2 := by
  simp only [StartsPart, List.mem_cons, List.not_mem_nil, or_false, not_or] at hc
  simp only [Regex.Reader.bracketStep?, Regex.Reader.skip_eq hflags.ignoreBlank, hc, if_false,
    false_and]

omit hflags in
theorem exists_startsPart {front x y : List Char} (hfront : front <:+ tagFront) (h : Inside x y) :
    ∃ c x' d y', front ++ x = c :: x' ∧ front ++ y = d :: y' ∧ StartsPart c ∧ StartsPart d := by
  have hplain {c : Char} (hc : ¬ isMeta c) : StartsPart c := fun hmem => by
    have hall : ['[', ']', '&', '-', '~'].all isMeta = true := by decide
    exact hc (List.all_eq_true.1 hall c hmem)
  cases front with
  | cons c front =>
    have hall : tagFront.all (decide <| StartsPart ·) = true := by decide
    have hc := of_decide_eq_true (List.all_eq_true.1 hall c (hfront.subset List.mem_cons_self))
    exact ⟨c, _, c, _, rfl, rfl, hc, hc⟩
  | nil =>
    obtain ⟨rest, rfl, rfl⟩ | ⟨x, y, rfl, rfl, -⟩ | ⟨c, x, y, -, rfl, rfl, -⟩ |
      ⟨c, d, x, y, ⟨hc, hd⟩, -, rfl, rfl, -⟩ := h.cases
    · exact ⟨_, _, _, _, rfl, rfl, by decide, by decide⟩
    · exact ⟨_, _, _, _, rfl, rfl, by decide, by decide⟩
    · exact ⟨_, _, _, _, rfl, rfl, by decide, by decide⟩
    · exact ⟨_, _, _, _, rfl, rfl, hplain hc, hplain hd⟩

theorem TextAlike.bracketStep? {levels levels' : List OpenClass}
    (hlevels : List.Forall₂ OpenClass.Alike levels levels') {x y : List Char} (h : TextAlike x y) :
    Option.Rel StepAlike (Regex.Reader.bracketStep? flags levels x)
      (Regex.Reader.bracketStep? flags levels' y) := by
  cases hlevels with
  | nil => exact .none
  | @cons level level' outer outer' hlevel houter =>
    cases h with
    | front hfront h =>
      obtain ⟨c, x', d, y', hx, hy, hc, hd⟩ := exists_startsPart hfront h
      have hall := TextAlike.front hfront h
      rw [hx, hy] at hall ⊢
      rw [bracketStep?_of_startsPart hflags hc, bracketStep?_of_startsPart hflags hd]
      exact rel_readRange? hflags hlevel houter hall
    | ahead h =>
      obtain ⟨rfl, rfl⟩ | ⟨c, x, y, rfl, rfl, hrest | ⟨rfl, -⟩⟩ := h.cases
      · simp only [Regex.Reader.bracketStep?, Regex.Reader.skip_eq hflags.ignoreBlank]
        exact .none
      · simp only [Regex.Reader.bracketStep?, Regex.Reader.skip_eq hflags.ignoreBlank,
          hrest.head?_eq]
        have hoperate {c : Char} (hc : c ≠ '(') (operation : SetOperation)
            (hhead : y.head? = some c) :=
          rel_operate hflags hlevel houter operation (.ahead (hrest.drop hc hhead))
        split
        · exact rel_nested hflags hlevel houter hrest
        split
        · exact rel_close hflags hlevel houter (.ahead hrest)
        split
        · next hop => exact hoperate (by decide) .inter hop.2
        split
        · next hop => exact hoperate (by decide) .diff hop.2
        split
        · next hop => exact hoperate (by decide) .symmDiff hop.2
        exact rel_readRange? hflags hlevel houter (.ahead h)
      · rw [bracketStep?_of_startsPart hflags (by decide), bracketStep?_of_startsPart hflags (by decide)]
        exact rel_readRange? hflags hlevel houter (.ahead h)

theorem TextAlike.readLevels? {levels levels' : List OpenClass}
    (hlevels : List.Forall₂ OpenClass.Alike levels levels') {x y : List Char} (h : TextAlike x y) :
    Option.Rel (fun p q => p.1.Alike q.1 ∧ p.2.1 = q.2.1 ∧ TextAlike p.2.2 q.2.2)
      (Regex.Reader.readLevels? flags levels x) (Regex.Reader.readLevels? flags levels' y) := by
  rw [Regex.Reader.readLevels?_eq flags levels' y]
  fun_induction Regex.Reader.readLevels? flags levels x generalizing levels' y with
  | case1 levels x hstep =>
    have hsteps := h.bracketStep? hflags hlevels
    rw [hstep] at hsteps
    generalize Regex.Reader.bracketStep? flags levels' y = step at hsteps
    cases hsteps
    exact .none
  | case2 levels x s height rest hstep =>
    have hsteps := h.bracketStep? hflags hlevels
    rw [hstep] at hsteps
    generalize Regex.Reader.bracketStep? flags levels' y = step at hsteps
    cases hsteps with
    | some hsteps =>
      cases hsteps with
      | closed hst _ hrest => exact .some ⟨hst, rfl, hrest⟩
  | case3 levels x more rest hstep hshort ih =>
    have hsteps := h.bracketStep? hflags hlevels
    rw [hstep] at hsteps
    generalize Regex.Reader.bracketStep? flags levels' y = step at hsteps
    cases hsteps with
    | some hsteps =>
      cases hsteps with
      | more hmore hrest =>
        have hlevels := ih hmore hrest
        rwa [← Regex.Reader.readLevels?_eq] at hlevels
  | case4 levels x more rest hstep hlong =>
    exact absurd (Regex.Reader.length_lt_of_bracketStep? hstep) hlong

theorem Ahead.classAction? {x y : List Char} (h : Ahead x y) :
    Answers Action.Alike (Regex.Reader.classAction? flags x) (Regex.Reader.classAction? flags y) := by
  have hbracket : Option.Rel (fun p q => p.1.Alike q.1 ∧ p.2.1 = q.2.1 ∧ TextAlike p.2.2 q.2.2)
      (Regex.Reader.readBracket? flags x) (Regex.Reader.readBracket? flags y) := by
    refine rel_bind (h.readOpening? hflags) ?_
    rintro ⟨level, x⟩ ⟨_, y⟩ ⟨rfl, hrest⟩
    exact hrest.readLevels? hflags (.cons (.refl level) .nil)
  refine rel_map hbracket ?_
  rintro ⟨s, height, x⟩ ⟨t, _, y⟩ ⟨hst, rfl, hrest⟩
  exact ⟨.push ⟨.set hst, rfl, rfl⟩, hrest⟩

omit hflags in
/-- The question mark of the group makes what stands before it optional. -/
theorem action?_mark {front : List Char} (h : '?' :: front <:+ tagFront) (x : List Char) :
    Regex.Reader.action? flags ('?' :: (front ++ x)) =
      some (.repeatLast 0 (some 1) true, front ++ x) := by
  rw [tagFront_eq, List.suffix_cons_iff] at h
  rcases h with h | h
  · obtain rfl := (List.cons.inj h).2
    rfl
  · exact absurd (h.subset List.mem_cons_self) (by decide)

theorem action?_tagGroup (x : List Char) :
    Regex.Reader.action? flags ('(' :: (tagFront ++ x)) = some (.capture (some "tag"), x) := by
  have hname : Regex.Reader.readName? ("tag".toList ++ '>' :: x) = some ("tag", x) :=
    Regex.Reader.readName?_append (by decide +kernel) x
  rw [tagFront_eq, List.cons_append, List.cons_append, List.cons_append, List.append_assoc,
    List.singleton_append]
  simp only [Regex.Reader.action?, if_true, Regex.Reader.groupAction?,
    Regex.Reader.skip_eq hflags.ignoreBlank, Regex.Reader.markedAction?, Regex.Reader.namedAction?,
    hname, Option.map_some]

/-- Whatever the reader does next, it does alike things with texts that are alike. -/
theorem TextAlike.action? {x y : List Char} (h : TextAlike x y) :
    Answers Action.Alike (Regex.Reader.action? flags x) (Regex.Reader.action? flags y) := by
  cases h with
  | ahead h =>
    cases h with
    | same => exact .same .refl _
    | @before text x y h =>
      cases text with
      | nil =>
        rw [List.nil_append, List.nil_append, action?_tagGroup hflags, action?_tagGroup hflags]
        exact .some ⟨.refl _, .inside h⟩
      | cons c text =>
        by_cases hclass : c = '['
        · subst hclass
          exact (Ahead.before text h).classAction? hflags
        by_cases hescape : c = '\\' ∧ text = []
        · obtain ⟨rfl, rfl⟩ := hescape
          have hmeta (text : List Char) : Regex.Reader.action? flags ('\\' :: '(' :: text) = _ :=
            Regex.Reader.action?_meta rfl flags text
          simp only [List.cons_append, List.nil_append, hmeta]
          exact .some ⟨.refl _, .front (List.suffix_refl _) h⟩
        · exact .of_local .refl
            (Regex.Reader.local_action? hflags.ignoreBlank hclass fun hc ht => hescape ⟨hc, ht⟩) h
  | @front front x y hfront h =>
    cases front with
    | cons c front =>
      have hrest : TextAlike (front ++ x) (front ++ y) :=
        .front ((List.suffix_cons c front).trans hfront) h
      by_cases hc : c = '?'
      · subst hc
        rw [List.cons_append, List.cons_append, action?_mark hfront, action?_mark hfront]
        exact .some ⟨.refl _, hrest⟩
      · have hall : tagFront.all (fun c => c = '?' || !isMeta c) = true := by decide
        have hmeta : ¬ isMeta c := by
          simpa [hc] using List.all_eq_true.1 hall c (hfront.subset List.mem_cons_self)
        rw [List.cons_append, List.cons_append, Regex.Reader.action?_ordinary hmeta,
          Regex.Reader.action?_ordinary hmeta]
        exact .some ⟨.refl _, hrest⟩
    | nil =>
      obtain ⟨rest, rfl, rfl⟩ | ⟨x, y, rfl, rfl, hrest⟩ | ⟨c, x, y, hc, rfl, rfl, hrest⟩ |
        ⟨c, d, x, y, ⟨hc, hd⟩, hcd, rfl, rfl, hrest⟩ := h.cases
      · exact .same .refl _
      · exact .some ⟨.refl .split, .inside hrest⟩
      · rw [List.nil_append, List.nil_append, Regex.Reader.action?_meta hc,
          Regex.Reader.action?_meta hc]
        exact .some ⟨.refl _, .inside hrest⟩
      · rw [List.nil_append, List.nil_append, Regex.Reader.action?_ordinary hc,
          Regex.Reader.action?_ordinary hd]
        exact .some ⟨.push (Regex.Reader.literal_alike hflags hcd), .inside hrest⟩

theorem TextAlike.step? {s t : State} (hs : s.flags = flags) (hst : s.Alike t) {x y : List Char}
    (h : TextAlike x y) :
    Option.Rel (fun p q => p.1.Alike q.1 ∧ TextAlike p.2 q.2) (Regex.Reader.step? s x)
      (Regex.Reader.step? t y) := by
  rw [Regex.Reader.step?_eq, Regex.Reader.step?_eq, ← hst.flags, hs]
  refine rel_bind (h.action? hflags) ?_
  rintro ⟨action, x⟩ ⟨action', y⟩ ⟨hactions, hrest⟩
  exact rel_map (hactions.run? hst) fun _ _ hnext => ⟨hnext, hrest⟩

omit hflags in
theorem TextAlike.eq_nil_iff {x y : List Char} (h : TextAlike x y) : x = [] ↔ y = [] := by
  cases h with
  | ahead h =>
    obtain ⟨rfl, rfl⟩ | ⟨c, x, y, rfl, rfl, -⟩ := h.cases
    · rfl
    · simp
  | front hfront h =>
    obtain ⟨c, x', d, y', hx, hy, -⟩ := exists_startsPart hfront h
    simp [hx, hy]

/-- The reader takes alike steps through texts that are alike, while no group changes the flags. -/
theorem TextAlike.read? {s t : State} (hs : s.Uniform flags) (hst : s.Alike t) {x y : List Char}
    (h : TextAlike x y)
    (hkeeps : ∀ p ∈ trace s x, ∀ after, p.2 = '(' :: after → KeepsFlags p) :
    Option.Rel State.Alike (Regex.Reader.read? s x) (Regex.Reader.read? t y) := by
  have hskip {s : State} (hs : s.flags = flags) (text : List Char) : skip s.flags text = text :=
    Regex.Reader.skip_eq (hs ▸ hflags.ignoreBlank) text
  have hread {s : State} (hs : s.flags = flags) {text : List Char} (htext : text ≠ []) :
      Regex.Reader.read? s text =
        (Regex.Reader.step? s text).bind fun p => Regex.Reader.read? p.1 p.2 := by
    obtain ⟨c, rest, rfl⟩ := List.exists_cons_of_ne_nil htext
    rw [Regex.Reader.read?_eq, hskip hs]
  fun_induction trace s x generalizing t y with
  | case1 s x hnil =>
    rw [hskip hs.flags_eq] at hnil
    rw [hnil, h.eq_nil_iff.1 hnil, Regex.Reader.read?_nil, Regex.Reader.read?_nil]
    exact .some hst
  | case2 s x c rest hcons hstep =>
    rw [hskip hs.flags_eq] at hcons
    subst hcons
    have hsteps := h.step? hflags hs.flags_eq hst
    rw [hread hs.flags_eq (List.cons_ne_nil c rest),
      hread (hst.flags ▸ hs.flags_eq) (mt h.eq_nil_iff.2 (List.cons_ne_nil c rest))]
    rw [hstep] at hsteps ⊢
    generalize Regex.Reader.step? t y = step at hsteps
    cases hsteps
    exact .none
  | case3 s x c rest hcons next after hstep hshort ih =>
    rw [hskip hs.flags_eq] at hcons
    subst hcons
    have hsteps := h.step? hflags hs.flags_eq hst
    rw [hread hs.flags_eq (List.cons_ne_nil c rest),
      hread (hst.flags ▸ hs.flags_eq) (mt h.eq_nil_iff.2 (List.cons_ne_nil c rest))]
    rw [hstep] at hsteps ⊢
    generalize Regex.Reader.step? t y = step at hsteps
    obtain ⟨hhere, hlater⟩ := List.forall_mem_cons.1 hkeeps
    have hnext := hs.step? (fun hc => hhere rest (hc ▸ rfl)) hstep
    cases hsteps with
    | some hrest => exact ih hnext hrest.1 hrest.2 hlater
  | case4 s x c rest hcons next after hstep hlong =>
    exact absurd (Nat.lt_of_le_of_lt (Regex.Reader.leaves_step? s c rest next after hstep).length_le
      (Regex.Reader.length_lt_of_skip hcons)) hlong

end Lapse.CommentStyle
