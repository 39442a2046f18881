import Mathlib.Data.List.Forall2
import Lapse.Proofs.Regex.Reading

/-!
# Reading regardless of case

Whatever can be read while case is ignored can be read in the same way while it is regarded. Only
the sets differ.
-/
namespace Lapse.Regex.Reader

/-- The flags `g` are `f`, but may ignore case where `f` regards it. -/
def Flags.Le (f g : Flags) : Prop :=
  ∃ ignoreCase, g = { f with ignoreCase } ∧ (f.ignoreCase = true → ignoreCase = true)

variable {f g : Flags}

namespace Flags.Le

theorem set (h : f.Le g) (c : Char) (value : Bool) : (f.set c value).Le (g.set c value) := by
  obtain ⟨ignoreCase, rfl, hcase⟩ := h
  unfold Flags.set
  split
  · exact ⟨value, rfl, id⟩
  repeat' split
  all_goals exact ⟨ignoreCase, rfl, hcase⟩

theorem apply (h : f.Le g) (signs : List FlagSign) (value : Bool) :
    (f.apply signs value).Le (g.apply signs value) := by
  induction signs generalizing f g value with
  | nil => exact h
  | cons sign signs ih =>
    cases sign with
    | off => exact ih h false
    | flag c => exact ih (h.set c value) value

theorem unicode_eq (h : f.Le g) : g.unicode = f.unicode := by
  obtain ⟨ignoreCase, rfl, -⟩ := h
  rfl

theorem skip_eq (h : f.Le g) (text : List Char) : skip g text = skip f text := by
  obtain ⟨ignoreCase, rfl, -⟩ := h
  rfl

theorem takeParts_eq (h : f.Le g) (wanted : Char → Bool) (inComment : Bool) (text : List Char) :
    takeParts g wanted inComment text = takeParts f wanted inComment text := by
  obtain ⟨ignoreCase, rfl, -⟩ := h
  induction text generalizing inComment with
  | nil => cases inComment <;> rfl
  | cons c text ih =>
    cases inComment with
    | true => exact ih _
    | false => simp only [takeParts, ih]

end Flags.Le

theorem exists_of_negate? (h : f.Le g) {negated : Bool} {s t t' : CharSet}
    (hneg : negate? g negated t = some t') : ∃ s', negate? f negated s = some s' := by
  rw [negate?, h.unicode_eq] at hneg
  rw [negate?]
  split at hneg
  · next hnegated =>
    rw [if_pos hnegated]
    split at hneg
    · next hunicode => exact ⟨_, if_pos hunicode⟩
    · cases hneg
  · next hnegated => exact ⟨s, if_neg hnegated⟩

/-- Whatever `y` reads, `x` reads up to the same place, with a result related by `R`. -/
def Follows {α β : Type} (R : α → β → Prop) (x : Option (α × List Char))
    (y : Option (β × List Char)) : Prop :=
  ∀ b rest, y = some (b, rest) → ∃ a, x = some (a, rest) ∧ R a b

section Follows

variable {α β γ δ : Type} {R : α → β → Prop} {S : γ → δ → Prop}

theorem Follows.none (x : Option (α × List Char)) : Follows R x none := fun _ _ h => by cases h

theorem Follows.some {a : α} {b : β} (rest : List Char) (h : R a b) :
    Follows R (some (a, rest)) (some (b, rest)) := fun _ _ e => by
  cases e
  exact ⟨a, rfl, h⟩

theorem Follows.refl {R : α → α → Prop} (h : ∀ a, R a a) (x : Option (α × List Char)) :
    Follows R x x := fun b _ e => ⟨b, e, h b⟩

theorem Follows.ite {c : Prop} [Decidable c] {x x' : Option (α × List Char)}
    {y y' : Option (β × List Char)} (hpos : c → Follows R x y) (hneg : ¬ c → Follows R x' y') :
    Follows R (if c then x else x') (if c then y else y') := by
  split
  · next h => exact hpos h
  · next h => exact hneg h

theorem Follows.bind {x : Option (α × List Char)} {y : Option (β × List Char)}
    {f : α × List Char → Option (γ × List Char)} {g : β × List Char → Option (δ × List Char)}
    (h : Follows R x y) (hfg : ∀ a b rest, R a b → Follows S (f (a, rest)) (g (b, rest))) :
    Follows S (x.bind f) (y.bind g) := by
  intro d rest e
  obtain ⟨⟨b, behind⟩, hy, e⟩ := Option.bind_eq_some_iff.1 e
  obtain ⟨a, hx, hab⟩ := h b behind hy
  rw [hx]
  exact hfg a b behind hab d rest e

/-- The same for a first result without a text. -/
theorem Follows.plainBind {x : Option α} {y : Option β} {f : α → Option (γ × List Char)}
    {g : β → Option (δ × List Char)} (h : ∀ b, y = Option.some b → ∃ a, x = Option.some a ∧ R a b)
    (hfg : ∀ a b, R a b → Follows S (f a) (g b)) : Follows S (x.bind f) (y.bind g) := by
  intro d rest e
  obtain ⟨b, hy, e⟩ := Option.bind_eq_some_iff.1 e
  obtain ⟨a, hx, hab⟩ := h b hy
  rw [hx]
  exact hfg a b hab d rest e

theorem Follows.map {x : Option α} {y : Option β} {f : α → γ} {g : β → δ} (rest : List Char)
    (h : ∀ b, y = Option.some b → ∃ a, x = Option.some a ∧ R a b)
    (hfg : ∀ a b, R a b → S (f a) (g b)) :
    Follows S (x.map fun a => (f a, rest)) (y.map fun b => (g b, rest)) := by
  intro d behind e
  obtain ⟨b, hy, e⟩ := Option.map_eq_some_iff.1 e
  cases e
  obtain ⟨a, hx, hab⟩ := h b hy
  exact ⟨f a, by rw [hx]; rfl, hfg a b hab⟩

end Follows

/-- The same, but for a set any set. -/
inductive Primitive.Like : Primitive → Primitive → Prop
  | refl (p : Primitive) : Like p p
  | set (s t : CharSet) : Like (.set s) (.set t)

theorem readHexDigits?_eq (h : f.Le g) (count value : Nat) (text : List Char) :
    readHexDigits? g count value text = readHexDigits? f count value text := by
  induction count generalizing value text with
  | zero => rfl
  | succ count ih =>
    cases text with
    | nil => rfl
    | cons c text => simp only [readHexDigits?, ih, h.skip_eq]

theorem readCodePoint?_eq (h : f.Le g) (count : Nat) (text : List Char) :
    readCodePoint? g count text = readCodePoint? f count text := by
  simp only [readCodePoint?, h.skip_eq, h.takeParts_eq, readHexDigits?_eq h]

theorem propertyName?_eq (h : f.Le g) (text : List Char) :
    propertyName? g text = propertyName? f text := by
  simp only [propertyName?, h.skip_eq, h.takeParts_eq]

theorem follows_readProperty? (h : f.Le g) (negated : Bool) (text : List Char) :
    Follows Primitive.Like (readProperty? f negated text) (readProperty? g negated text) := by
  rw [readProperty?, readProperty?, propertyName?_eq h]
  refine .plainBind (R := Eq) (fun x hx => ⟨x, hx, rfl⟩) ?_
  rintro ⟨name, rest⟩ _ rfl
  simp only [propertyClass?, h.unicode_eq]
  refine .plainBind (R := Eq) (fun s hs => ⟨s, hs, rfl⟩) ?_
  rintro s _ rfl
  refine .ite (fun _ => ?_) fun _ => .none _
  exact .plainBind (R := fun _ _ => True) (fun t ht => (exists_of_negate? h ht).imp fun _ hs =>
    ⟨hs, trivial⟩) fun s t _ => .some _ (.set s t)

theorem letterSet_eq (h : f.Le g) (c : Char) : letterSet g c = letterSet f c := by
  simp only [letterSet, h.unicode_eq]

theorem negate?_eq (h : f.Le g) (negated : Bool) (s : CharSet) :
    negate? g negated s = negate? f negated s := by
  simp only [negate?, h.unicode_eq]

theorem readBoundary?_eq (h : f.Le g) (text : List Char) :
    readBoundary? g text = readBoundary? f text := by
  simp only [readBoundary?, wordLook?, h.skip_eq, h.takeParts_eq, h.unicode_eq]

theorem follows_readEscape? (h : f.Le g) (text : List Char) :
    Follows Primitive.Like (readEscape? f text) (readEscape? g text) := by
  cases text with
  | nil => exact .none _
  | cons c text =>
    have hsame (x : Option (Primitive × List Char)) : Follows Primitive.Like x x := .refl .refl x
    rw [readEscape?, readEscape?]
    simp only [readCodePoint?_eq h, letterSet_eq h, negate?_eq h, readBoundary?_eq h, h.unicode_eq]
    iterate 3 refine .ite (fun _ => hsame _) fun _ => ?_
    iterate 2 refine .ite (fun _ => follows_readProperty? h _ text) fun _ => ?_
    exact hsame _

theorem follows_readPart? (h : f.Le g) (text : List Char) :
    Follows Primitive.Like (readPart? f text) (readPart? g text) := by
  cases text with
  | nil => exact .none _
  | cons c text =>
    rw [readPart?, readPart?]
    exact .ite (fun _ => follows_readEscape? h text) fun _ => .some _ (.refl _)

theorem setLiteral?_eq (h : f.Le g) (c : Char) : setLiteral? g c = setLiteral? f c := by
  rw [setLiteral?, setLiteral?, h.unicode_eq]

theorem exists_of_partSet? (h : f.Le g) {p q : Primitive} (hpq : p.Like q) {t : CharSet}
    (ht : partSet? g q = some t) : ∃ s, partSet? f p = some s := by
  cases hpq with
  | refl => cases p <;> simp only [partSet?, setLiteral?_eq h] at ht ⊢ <;> exact ⟨t, ht⟩
  | set s t => exact ⟨s, rfl⟩

theorem partLiteral?_eq (h : f.Le g) {p q : Primitive} (hpq : p.Like q) :
    partLiteral? g q = partLiteral? f p := by
  cases hpq with
  | refl => cases p <;> simp only [partLiteral?, setLiteral?_eq h]
  | set => rfl

theorem peek?_eq (h : f.Le g) (text : List Char) : peek? g text = peek? f text := by
  obtain ⟨ignoreCase, rfl, -⟩ := h
  rfl

theorem follows_rangeBehind? (h : f.Le g) {p q : Primitive} (hpq : p.Like q) (rest : List Char) :
    Follows (fun _ _ => True) (rangeBehind? f p rest) (rangeBehind? g q rest) := by
  have hset (rest : List Char) :
      Follows (fun _ _ => True) ((partSet? f p).bind fun s => some (s, rest))
        ((partSet? g q).bind fun s => some (s, rest)) :=
    .plainBind (R := fun _ _ => True) (fun t ht => (exists_of_partSet? h hpq ht).imp fun _ hs =>
      ⟨hs, trivial⟩) fun s t hst => .some _ hst
  simp only [rangeBehind?, h.skip_eq, peek?_eq h]
  split
  · exact .none _
  · refine .ite (fun _ => hset _) fun _ => ?_
    refine .bind (follows_readPart? h _) fun p' q' rest' hpq' => ?_
    simp only [partLiteral?_eq h hpq, partLiteral?_eq h hpq']
    exact .refl (fun _ => trivial) _
  · exact hset _

theorem follows_readRange? (h : f.Le g) (text : List Char) :
    Follows (fun _ _ => True) (readRange? f text) (readRange? g text) :=
  .bind (follows_readPart? h text) fun _ _ rest hpq => follows_rangeBehind? h hpq rest

/-- The same class but for its sets. -/
structure OpenClass.Like (a b : OpenClass) : Prop where
  negated : a.negated = b.negated
  operated : a.pending.isSome = b.pending.isSome
  leftHeight : a.leftHeight = b.leftHeight
  parts : a.parts = b.parts
  height : a.height = b.height

namespace OpenClass.Like

theorem refl (a : OpenClass) : a.Like a := ⟨rfl, rfl, rfl, rfl, rfl⟩

variable {a b : OpenClass}

theorem add (h : a.Like b) (s t : CharSet) : (a.add s).Like (b.add t) :=
  ⟨h.negated, h.operated, h.leftHeight, congrArg (· + 1) h.parts, h.height⟩

theorem addClass (h : a.Like b) (s t : CharSet) (height : Nat) :
    (a.addClass s height).Like (b.addClass t height) :=
  ⟨h.negated, h.operated, h.leftHeight, congrArg (· + 1) h.parts, congrArg (max · height) h.height⟩

theorem depth_eq (h : a.Like b) : a.depth = b.depth := by
  have hpending := h.operated
  rw [depth, depth, h.parts, h.height, h.leftHeight]
  cases ha : a.pending <;> cases hb : b.pending <;> simp_all

theorem operate (h : a.Like b) (operation : SetOperation) :
    (a.operate f operation).Like (b.operate g operation) :=
  ⟨h.negated, rfl, h.depth_eq, rfl, rfl⟩

theorem exists_of_close? (hfg : f.Le g) (h : a.Like b) {t : CharSet} (ht : b.close? g = some t) :
    ∃ s, a.close? f = some s := by
  rw [close?, ← h.negated] at ht
  exact exists_of_negate? hfg ht

end OpenClass.Like

theorem readOpening?_eq_of_le (h : f.Le g) (text : List Char) :
    readOpening? g text = readOpening? f text := by
  have hcircumflex (text : List Char) : circumflex g text = circumflex f text := by
    unfold circumflex
    simp only [h.skip_eq]
  simp only [readOpening?, openedClass?, hcircumflex, h.skip_eq, h.takeParts_eq]

/-- The same part of a class but for its sets. -/
inductive BracketStep.Like : BracketStep → BracketStep → Prop
  | more {levels levels' : List OpenClass} (h : List.Forall₂ OpenClass.Like levels levels')
    (rest : List Char) : Like (.more levels rest) (.more levels' rest)
  | closed (s t : CharSet) (height : Nat) (rest : List Char) :
    Like (.closed s height rest) (.closed t height rest)

/-- Where the second reader takes a step, the first one takes the same step but for its sets. -/
def StepFollows (x y : Option BracketStep) : Prop :=
  ∀ step', y = some step' → ∃ step, x = some step ∧ step.Like step'

theorem BracketStep.Like.follows {step step' : BracketStep} (h : step.Like step') :
    StepFollows (some step) (some step') := by
  rintro _ ⟨rfl⟩
  exact ⟨step, rfl, h⟩

theorem StepFollows.ite {c : Prop} [Decidable c] {x x' y y' : Option BracketStep}
    (hpos : c → StepFollows x y) (hneg : ¬ c → StepFollows x' y') :
    StepFollows (if c then x else x') (if c then y else y') := by
  split
  · next hc => exact hpos hc
  · next hc => exact hneg hc

theorem StepFollows.bind {α β : Type} {x : Option α} {y : Option β} {k : α → Option BracketStep}
    {l : β → Option BracketStep} (h : ∀ b, y = some b → ∃ a, x = some a ∧ StepFollows (k a) (l b)) :
    StepFollows (x.bind k) (y.bind l) := by
  intro step' e
  obtain ⟨b, hy, e⟩ := Option.bind_eq_some_iff.1 e
  obtain ⟨a, hx, hsteps⟩ := h b hy
  rw [hx]
  exact hsteps step' e

theorem Follows.stepFollows {α β : Type} {R : α → β → Prop} {x : Option (α × List Char)}
    {y : Option (β × List Char)} (h : Follows R x y) {k : α → List OpenClass}
    {l : β → List OpenClass} (hlevels : ∀ a b, R a b → List.Forall₂ OpenClass.Like (k a) (l b)) :
    StepFollows (x.map fun p => .more (k p.1) p.2) (y.map fun p => .more (l p.1) p.2) := by
  intro step' e
  obtain ⟨⟨b, rest⟩, hy, rfl⟩ := Option.map_eq_some_iff.1 e
  obtain ⟨a, hx, hab⟩ := h b rest hy
  exact ⟨_, by rw [hx]; rfl, .more (hlevels a b hab) rest⟩

theorem stepFollows_bracketStep? (h : f.Le g) {levels levels' : List OpenClass}
    (hlevels : List.Forall₂ OpenClass.Like levels levels') (text : List Char) :
    StepFollows (bracketStep? f levels text) (bracketStep? g levels' text) := by
  cases hlevels with
  | nil =>
    rw [bracketStep?, bracketStep?]
    exact fun _ e => by cases e
  | @cons level level' outer outer' hlevel houter =>
    cases hskip : skip f text with
    | nil =>
      simp only [bracketStep?, h.skip_eq, hskip]
      exact fun _ e => by cases e
    | cons c rest =>
      simp only [bracketStep?, h.skip_eq, hskip]
      have hadd (s t : CharSet) (rest : List Char) : BracketStep.Like
          (.more (level.add s :: outer) rest) (.more (level'.add t :: outer') rest) :=
        .more (.cons (hlevel.add s t) houter) rest
      have hoperate (operation : SetOperation) (rest : List Char) : BracketStep.Like
          (.more (level.operate f operation :: outer) rest)
          (.more (level'.operate g operation :: outer') rest) :=
        .more (.cons (hlevel.operate operation) houter) rest
      refine .ite (fun _ => ?_) fun _ => .ite (fun _ => ?_) fun _ =>
        .ite (fun _ => (hoperate _ _).follows) fun _ =>
        .ite (fun _ => (hoperate _ _).follows) fun _ =>
        .ite (fun _ => (hoperate _ _).follows) fun _ => ?_
      · cases readNamed? rest with
        | none =>
          have hsame : Follows Eq (readOpening? f rest) (readOpening? g rest) := by
            rw [readOpening?_eq_of_le h]
            exact .refl (fun _ => rfl) _
          have hopened : ∀ inner inner' : OpenClass, inner = inner' → List.Forall₂ OpenClass.Like
              (inner :: level :: outer) (inner' :: level' :: outer') := by
            rintro inner _ rfl
            exact .cons (.refl inner) (.cons hlevel houter)
          exact hsame.stepFollows hopened
        | some x =>
          refine .bind fun t ht => ?_
          obtain ⟨s, hs⟩ := exists_of_negate? (s := foldFor f x.2.1) h ht
          exact ⟨s, hs, (hadd s t x.2.2).follows⟩
      · refine .bind fun t ht => ?_
        obtain ⟨s, hs⟩ := hlevel.exists_of_close? h ht
        refine ⟨s, hs, ?_⟩
        rw [hlevel.depth_eq]
        cases houter with
        | nil => exact (BracketStep.Like.closed s t _ _).follows
        | cons hparent hmore =>
          exact (BracketStep.Like.more (.cons (hparent.addClass s t _) hmore) _).follows
      · exact (follows_readRange? h (c :: rest)).stepFollows fun s t _ =>
          .cons (hlevel.add s t) houter

theorem exists_of_readLevels? (h : f.Le g) {levels levels' : List OpenClass}
    (hlevels : List.Forall₂ OpenClass.Like levels levels') {text : List Char} {t : CharSet}
    {height : Nat} {rest : List Char}
    (hread : readLevels? g levels' text = some (t, height, rest)) :
    ∃ s, readLevels? f levels text = some (s, height, rest) := by
  fun_induction readLevels? g levels' text generalizing levels with
  | case1 => cases hread
  | case2 levels' text t height rest hstep =>
    cases hread
    obtain ⟨next, hnext, hlike⟩ := stepFollows_bracketStep? h hlevels _ _ hstep
    cases hlike with
    | closed s =>
      rw [readLevels?, hnext]
      exact ⟨s, rfl⟩
  | case3 levels' text more' after hstep hshort ih =>
    obtain ⟨next, hnext, hlike⟩ := stepFollows_bracketStep? h hlevels _ _ hstep
    cases hlike with
    | more hmore =>
      rw [readLevels?, hnext]
      simp only
      rw [if_pos hshort]
      exact ih hmore hread
  | case4 => cases hread

theorem exists_of_readBracket? (h : f.Le g) {text : List Char} {t : CharSet} {height : Nat}
    {rest : List Char} (hread : readBracket? g text = some (t, height, rest)) :
    ∃ s, readBracket? f text = some (s, height, rest) := by
  rw [readBracket?] at hread ⊢
  obtain ⟨⟨level, after⟩, hopen, hread⟩ := Option.bind_eq_some_iff.1 hread
  rw [readOpening?_eq_of_le h] at hopen
  rw [hopen]
  exact exists_of_readLevels? h (.cons (.refl level) .nil) hread

end Lapse.Regex.Reader
