import Lapse.Proofs.Regex.Reading

/-!
# The reader moves on

Whatever the reader makes of a part of a pattern, it goes on with what is left of the text behind
the first character of that part. So the guard in its recursion never stops it, and gaps in front of
a part are all one.
-/
namespace Lapse.Regex.Reader

/-- What is left is the end of the text. -/
def Leaves {α : Type} (text : List Char) (x : Option (α × List Char)) : Prop :=
  ∀ a rest, x = some (a, rest) → rest <:+ text

section Leaves

variable {α β : Type} {text : List Char}

theorem Leaves.none : Leaves text (none : Option (α × List Char)) := fun _ _ h => by cases h

theorem Leaves.some (a : α) {rest : List Char} (h : rest <:+ text) :
    Leaves text (some (a, rest)) := fun _ _ e => by
  cases e
  exact h

theorem Leaves.ite {c : Prop} [Decidable c] {x y : Option (α × List Char)}
    (hpos : c → Leaves text x) (hneg : ¬ c → Leaves text y) :
    Leaves text (if c then x else y) := by
  split
  · next h => exact hpos h
  · next h => exact hneg h

theorem Leaves.map {x : Option α} {f : α → β} {rest : List Char} (h : rest <:+ text) :
    Leaves text (x.map fun a => (f a, rest)) := by
  cases x with
  | none => exact .none
  | some a => exact .some _ h

theorem Leaves.bind {x : Option α} {f : α → Option (β × List Char)}
    (h : ∀ a, x = Option.some a → Leaves text (f a)) : Leaves text (x.bind f) := by
  intro b rest e
  obtain ⟨a, hx, e⟩ := Option.bind_eq_some_iff.1 e
  exact h a hx b rest e

theorem Leaves.mono {part : List Char} {x : Option (α × List Char)} (h : Leaves part x)
    (hpart : part <:+ text) : Leaves text x := fun a rest e => (h a rest e).trans hpart

end Leaves

variable (flags : Flags)

theorem dropGap_suffix (inComment : Bool) (text : List Char) :
    dropGap inComment text <:+ text := by
  induction text generalizing inComment with
  | nil => cases inComment <;> exact List.suffix_refl _
  | cons c text ih =>
    have hrest := List.suffix_cons c text
    cases inComment with
    | true => exact (ih _).trans hrest
    | false =>
      rw [dropGap]
      split
      · exact (ih _).trans hrest
      · split
        · exact (ih _).trans hrest
        · exact List.suffix_refl _

theorem skip_suffix (text : List Char) : skip flags text <:+ text := by
  rw [skip]
  split
  · exact dropGap_suffix false text
  · exact List.suffix_refl _

theorem takeParts_suffix (wanted : Char → Bool) (inComment : Bool) (text : List Char) :
    (takeParts flags wanted inComment text).2 <:+ text := by
  induction text generalizing inComment with
  | nil => cases inComment <;> exact List.suffix_refl _
  | cons c text ih =>
    have hrest := List.suffix_cons c text
    cases inComment with
    | true => exact (ih _).trans hrest
    | false =>
      rw [takeParts]
      split
      · exact (ih _).trans hrest
      · split
        · exact (ih _).trans hrest
        · split
          · exact (ih false).trans hrest
          · exact List.suffix_refl _

theorem suffix_of_skip {flags : Flags} {text rest : List Char} {c : Char}
    (h : skip flags text = c :: rest) : rest <:+ text :=
  (List.suffix_cons c rest).trans (h ▸ skip_suffix flags text)

theorem length_lt_of_skip {flags : Flags} {text rest : List Char} {c : Char}
    (h : skip flags text = c :: rest) : rest.length < text.length := by
  have hle := (skip_suffix flags text).length_le
  rw [h] at hle
  exact hle

theorem suffix_of_takeParts {flags : Flags} {wanted : Char → Bool} {inComment : Bool}
    {text taken rest : List Char} {c : Char}
    (h : takeParts flags wanted inComment text = (taken, c :: rest)) : rest <:+ text := by
  have hsuffix := takeParts_suffix flags wanted inComment text
  rw [h] at hsuffix
  exact (List.suffix_cons c rest).trans hsuffix

theorem leaves_readHexDigits? (count value : Nat) (text : List Char) :
    Leaves text (readHexDigits? flags count value text) := by
  induction count generalizing value text with
  | zero => exact .some _ (List.suffix_refl _)
  | succ count ih =>
    cases text with
    | nil => exact .none
    | cons c text =>
      have hrest := List.suffix_cons c text
      cases count with
      | zero =>
        simp only [readHexDigits?]
        exact .ite (fun _ => .some _ hrest) fun _ => .none
      | succ count =>
        simp only [readHexDigits?] at ih ⊢
        refine .ite (fun _ => (ih _ _).mono ?_) fun _ => .none
        exact (skip_suffix flags text).trans hrest

theorem leaves_readCodePoint? (count : Nat) (text : List Char) :
    Leaves text (readCodePoint? flags count text) := by
  rw [readCodePoint?]
  split
  · next rest hskip =>
    split
    · next d digits after htake =>
      exact .map ((suffix_of_takeParts htake).trans (suffix_of_skip hskip))
    · exact .none
  · refine .bind fun ⟨value, rest⟩ hdigits => .bind fun c _ => .some _ ?_
    exact (leaves_readHexDigits? flags count 0 _ _ _ hdigits).trans (skip_suffix flags text)

theorem leaves_readProperty? (negated : Bool) (text : List Char) :
    Leaves text (readProperty? flags negated text) := by
  rw [readProperty?]
  have hname : Leaves text (propertyName? flags text) := by
    rw [propertyName?]
    split
    · exact .none
    · next rest hskip =>
      split
      · next name c after htake =>
        exact .some _ ((suffix_of_takeParts htake).trans (suffix_of_skip hskip))
      · exact .none
    · next c rest _ hskip =>
      exact .ite (fun _ => .none) fun _ => .some _ (suffix_of_skip hskip)
  refine .bind fun ⟨name, rest⟩ hread => ?_
  refine .bind fun s _ => .ite (fun _ => .bind fun t _ => ?_) fun _ => .none
  exact .some _ (hname _ _ hread)

theorem leaves_readBoundary? (text : List Char) :
    Leaves text (readBoundary? flags text) := by
  unfold readBoundary?
  split
  · next rest =>
    split
    · exact .none
    · refine .ite (fun _ => ?_) fun _ => .some _ (List.suffix_refl _)
      split
      · next name after htake =>
        exact .map ((suffix_of_takeParts htake).trans (List.suffix_cons _ _))
      · exact .none
  · exact .some _ (List.suffix_refl _)

theorem leaves_readEscape? (text : List Char) : Leaves text (readEscape? flags text) := by
  cases text with
  | nil => exact .none
  | cons c text =>
    have hrest := List.suffix_cons c text
    rw [readEscape?]
    iterate 3 refine .ite (fun _ => (leaves_readCodePoint? flags _ text).mono hrest) fun _ => ?_
    iterate 2 refine .ite (fun _ => (leaves_readProperty? flags _ text).mono hrest) fun _ => ?_
    refine .ite (fun _ => .some _ hrest) fun _ => ?_
    refine .ite (fun _ => .map hrest) fun _ => ?_
    iterate 8 refine .ite (fun _ => .some _ hrest) fun _ => ?_
    refine .ite (fun _ => (leaves_readBoundary? flags text).mono hrest) fun _ => ?_
    iterate 3 refine .ite (fun _ => .some _ hrest) fun _ => ?_
    exact .ite (fun _ => .some _ hrest) fun _ => .none

theorem leaves_openedClass? (negated : Bool) (text : List Char) :
    Leaves text (openedClass? flags negated text) := by
  have htake := takeParts_suffix flags (· = '-') false text
  rw [openedClass?]
  generalize takeParts flags (· = '-') false text = taken at htake ⊢
  obtain ⟨hyphens, after⟩ := taken
  dsimp only at htake ⊢
  split
  · exact .none
  · exact .some _ htake
  · next rest =>
    split
    · exact .none
    · exact .some _ ((skip_suffix flags rest).trans ((List.suffix_cons _ _).trans htake))
  · exact .some _ htake

theorem circumflex_suffix (text : List Char) : (circumflex flags text).2 <:+ text := by
  unfold circumflex
  split
  · next rest => exact (skip_suffix flags rest).trans (List.suffix_cons _ _)
  · exact List.suffix_refl _

theorem leaves_readOpening? (text : List Char) : Leaves text (readOpening? flags text) :=
  (leaves_openedClass? flags _ _).mono ((circumflex_suffix flags _).trans (skip_suffix flags text))

theorem suffix_of_readClassName? {text rest : List Char} {negated negated' : Bool} {s : CharSet}
    (h : readClassName? negated' text = some (negated, s, rest)) : rest <:+ text := by
  rw [readClassName?] at h
  split at h
  · next after hdrop =>
    obtain ⟨set, -, e⟩ := Option.map_eq_some_iff.1 h
    cases e
    exact ((List.suffix_cons _ _).trans (List.suffix_cons _ _)).trans
      (hdrop ▸ List.drop_suffix _ _)
  · cases h

theorem suffix_of_readNamed? {text rest : List Char} {negated : Bool} {s : CharSet}
    (h : readNamed? text = some (negated, s, rest)) : rest <:+ text := by
  unfold readNamed? at h
  split at h
  · exact (suffix_of_readClassName? h).trans ((List.suffix_cons _ _).trans (List.suffix_cons _ _))
  · exact (suffix_of_readClassName? h).trans (List.suffix_cons _ _)
  · cases h

theorem leaves_readPart? (text : List Char) : Leaves text (readPart? flags text) := by
  cases text with
  | nil => exact .none
  | cons c text =>
    have hrest := List.suffix_cons c text
    rw [readPart?]
    exact .ite (fun _ => (leaves_readEscape? flags text).mono hrest) fun _ => .some _ hrest

theorem leaves_rangeBehind? (first : Primitive) (rest : List Char) :
    Leaves rest (rangeBehind? flags first rest) := by
  have hskip := skip_suffix flags rest
  rw [rangeBehind?]
  split
  · exact .none
  · next after e =>
    have hafter : '-' :: after <:+ rest := e ▸ hskip
    refine .ite (fun _ => .bind fun s _ => .some _ hafter) fun _ => ?_
    refine .bind fun ⟨last, rest⟩ hlast => .bind fun low _ => .bind fun high _ => ?_
    refine .ite (fun _ => .some _ ?_) fun _ => .none
    exact (leaves_readPart? flags _ _ _ hlast).trans
      ((skip_suffix flags after).trans ((List.suffix_cons _ _).trans hafter))
  · exact .bind fun s _ => .some _ hskip

/-- A range takes its first part and may take more. -/
theorem leaves_readRange? {text : List Char} {first : Primitive} {rest : List Char}
    (hfirst : readPart? flags text = some (first, rest)) : Leaves rest (readRange? flags text) := by
  rw [readRange?, hfirst]
  exact leaves_rangeBehind? flags first rest

/-- The text from where the class is read on. -/
def BracketStep.rest : BracketStep → List Char
  | more _ rest | closed _ _ rest => rest

/-- A step in a class takes the first character of the text and may take more. -/
theorem suffix_after_of_bracketStep? {flags : Flags} {levels : List OpenClass} {text after : List Char}
    {c : Char} (hskip : skip flags text = c :: after) {step : BracketStep}
    (h : bracketStep? flags levels text = some step) : step.rest <:+ after := by
  cases levels with
  | nil =>
    rw [bracketStep?] at h
    cases h
  | cons level outer =>
    have hdrop : after.drop 1 <:+ after := List.drop_suffix _ _
    simp only [bracketStep?, hskip] at h
    split at h
    · split at h
      · next negated s rest hnamed =>
        obtain ⟨t, -, h⟩ := Option.bind_eq_some_iff.1 h
        cases h
        exact suffix_of_readNamed? hnamed
      · obtain ⟨⟨inner, rest⟩, hopen, h⟩ := Option.map_eq_some_iff.1 h
        cases h
        exact leaves_readOpening? flags after _ _ hopen
    · split at h
      · obtain ⟨t, -, h⟩ := Option.bind_eq_some_iff.1 h
        cases outer with
        | nil =>
          cases h
          exact List.suffix_refl _
        | cons parent more =>
          cases h
          exact List.suffix_refl _
      · iterate 3
          split at h
          · cases h
            exact hdrop
        obtain ⟨⟨s, rest⟩, hrange, h⟩ := Option.map_eq_some_iff.1 h
        cases h
        cases hpart : readPart? flags (c :: after) with
        | none =>
          rw [readRange?, hpart] at hrange
          cases hrange
        | some x =>
          obtain ⟨first, others⟩ := x
          refine (leaves_readRange? flags hpart _ _ hrange).trans ?_
          rw [readPart?] at hpart
          split at hpart
          · exact leaves_readEscape? flags after _ _ hpart
          · cases hpart
            exact List.suffix_refl _

theorem length_lt_of_bracketStep? {flags : Flags} {levels : List OpenClass} {text : List Char}
    {step : BracketStep} (h : bracketStep? flags levels text = some step) :
    step.rest.length < text.length := by
  cases hskip : skip flags text with
  | nil =>
    cases levels <;> simp only [bracketStep?, hskip] at h <;> cases h
  | cons c after =>
    exact Nat.lt_of_le_of_lt (suffix_after_of_bracketStep? hskip h).length_le
      (length_lt_of_skip hskip)

/-- The reader of classes goes from step to step. -/
theorem readLevels?_eq (levels : List OpenClass) (text : List Char) :
    readLevels? flags levels text = (bracketStep? flags levels text).bind fun
      | .closed s height rest => some (s, height, rest)
      | .more levels rest => readLevels? flags levels rest := by
  rw [readLevels?]
  cases hstep : bracketStep? flags levels text with
  | none => rfl
  | some step =>
    cases step with
    | closed => rfl
    | more levels' rest => exact if_pos (length_lt_of_bracketStep? hstep)

theorem suffix_of_bracketStep? {flags : Flags} {levels : List OpenClass} {text : List Char}
    {step : BracketStep} (h : bracketStep? flags levels text = some step) :
    step.rest <:+ text := by
  cases hskip : skip flags text with
  | nil =>
    cases levels <;> simp only [bracketStep?, hskip] at h <;> cases h
  | cons c after => exact (suffix_after_of_bracketStep? hskip h).trans (suffix_of_skip hskip)

theorem suffix_of_readLevels? {flags : Flags} {levels : List OpenClass} {text : List Char}
    {s : CharSet} {height : Nat} {rest : List Char}
    (h : readLevels? flags levels text = some (s, height, rest)) : rest <:+ text := by
  fun_induction readLevels? flags levels text with
  | case1 => cases h
  | case2 levels text s height rest hstep =>
    cases h
    exact suffix_of_bracketStep? hstep
  | case3 levels text more after hstep hshort ih =>
    exact (ih h).trans (suffix_of_bracketStep? hstep)
  | case4 => cases h

theorem suffix_of_readBracket? {flags : Flags} {text : List Char} {s : CharSet} {height : Nat}
    {rest : List Char} (h : readBracket? flags text = some (s, height, rest)) : rest <:+ text := by
  obtain ⟨⟨level, after⟩, hopen, h⟩ := Option.bind_eq_some_iff.1 h
  exact (suffix_of_readLevels? h).trans (leaves_readOpening? flags text _ _ hopen)

theorem leaves_readName? (text : List Char) : Leaves text (readName? text) := by
  rw [readName?]
  split
  · next first others c rest _ hdrop =>
    refine .ite (fun _ => .some _ ?_) fun _ => .none
    exact (List.suffix_cons c rest).trans (hdrop ▸ List.drop_suffix _ _)
  · exact .none

theorem leaves_readNamedGroup? (s : State) (text : List Char) :
    Leaves text (readNamedGroup? s text) := by
  refine .bind fun ⟨name, rest⟩ hname => ?_
  dsimp only
  exact .ite (fun _ => .none) fun _ => .some _ (leaves_readName? text _ _ hname)

theorem suffix_of_readSigns? {text : List Char} {signs : List FlagSign} {stop : Char}
    {rest : List Char} (h : readSigns? text = some (signs, stop, rest)) : rest <:+ text := by
  induction text generalizing signs with
  | nil => cases h
  | cons c text ih =>
    have hrest := List.suffix_cons c text
    rw [readSigns?] at h
    split at h
    · cases h
      exact hrest
    · split at h
      · obtain ⟨⟨others, x, after⟩, hothers, e⟩ := Option.map_eq_some_iff.1 h
        cases e
        exact (ih hothers).trans hrest
      · split at h
        · obtain ⟨⟨others, x, after⟩, hothers, e⟩ := Option.map_eq_some_iff.1 h
          cases e
          exact (ih hothers).trans hrest
        · cases h

theorem leaves_readFlagGroup? (s : State) (text : List Char) :
    Leaves text (readFlagGroup? s text) := by
  refine .bind fun ⟨signs, stop, rest⟩ hsigns => ?_
  have hrest := suffix_of_readSigns? hsigns
  refine .ite (fun _ => .none) fun _ => .ite (fun _ => .some _ hrest) fun _ => ?_
  exact .ite (fun _ => .none) fun _ => .some _ hrest

theorem leaves_readMarked? (s : State) (text : List Char) :
    Leaves text (readMarked? s text) := by
  unfold readMarked?
  split
  · next rest =>
    exact (leaves_readNamedGroup? s rest).mono
      ((List.suffix_cons _ _).trans (List.suffix_cons _ _))
  · exact .none
  · exact .none
  · next rest _ _ => exact (leaves_readNamedGroup? s rest).mono (List.suffix_cons _ _)
  · exact leaves_readFlagGroup? s _

theorem leaves_readGroup? (s : State) (text : List Char) :
    Leaves text (readGroup? s text) := by
  have hsuffix := skip_suffix s.flags text
  cases hskip : skip s.flags text with
  | nil =>
    rw [readGroup?_of_nil hskip]
    exact .some _ List.nil_suffix
  | cons c rest =>
    by_cases hc : c = '?'
    · subst hc
      rw [readGroup?_of_mark hskip]
      exact (leaves_readMarked? s rest).mono (suffix_of_skip hskip)
    · rw [readGroup?_of_ne hskip hc, ← hskip]
      exact .some _ hsuffix

theorem readGreed_suffix (text : List Char) : (readGreed text).2 <:+ text := by
  unfold readGreed
  split
  · exact List.suffix_cons _ _
  · exact List.suffix_refl _

theorem leaves_readBound? (text : List Char) : Leaves text (readBound? flags text) := by
  have hblank := List.dropWhile_suffix (l := text) Text.isBlank
  have htake := takeParts_suffix flags Char.isDigit false (text.dropWhile Text.isBlank)
  rw [readBound?]
  generalize takeParts flags Char.isDigit false (text.dropWhile Text.isBlank) = taken at htake ⊢
  obtain ⟨digits, after⟩ := taken
  dsimp only at htake ⊢
  refine .ite (fun _ => .none) fun _ => .some _ ?_
  exact (List.dropWhile_suffix _).trans (htake.trans hblank)

theorem suffix_of_readMost? {flags : Flags} {text : List Char} {first least : Nat}
    {most : Option Nat} {rest : List Char}
    (h : readMost? flags first text = some (least, most, rest)) : rest <:+ text := by
  have hskip := skip_suffix flags text
  rw [readMost?] at h
  split at h
  · next e =>
    cases h
    exact (List.suffix_cons _ _).trans (e ▸ hskip)
  · obtain ⟨⟨last, others⟩, hlast, h⟩ := Option.bind_eq_some_iff.1 h
    have hothers := (leaves_readBound? flags _ _ _ hlast).trans hskip
    dsimp only at h
    split at h
    · split at h
      · cases h
        exact (List.suffix_cons _ _).trans hothers
      · cases h
    · cases h

theorem suffix_of_readBounds? {flags : Flags} {text : List Char} {least : Nat}
    {most : Option Nat} {rest : List Char}
    (h : readBounds? flags text = some (least, most, rest)) : rest <:+ text := by
  obtain ⟨⟨first, after⟩, hfirst, h⟩ := Option.bind_eq_some_iff.1 h
  have hafter := (leaves_readBound? flags _ _ _ hfirst).trans (skip_suffix flags text)
  dsimp only at h
  unfold boundsBehind? at h
  split at h
  · cases h
    exact (List.suffix_cons _ _).trans hafter
  · exact (suffix_of_readMost? h).trans ((List.suffix_cons _ _).trans hafter)
  · cases h

theorem leaves_readCounted? (s : State) (text : List Char) :
    Leaves text (readCounted? s text) := by
  refine .bind fun ⟨least, most, rest⟩ hbounds => ?_
  dsimp only
  refine .bind fun last _ => .some _ ?_
  exact (readGreed_suffix _).trans
    ((skip_suffix s.flags rest).trans (suffix_of_readBounds? hbounds))

/-- A step takes the first character of the text and may take more. -/
theorem leaves_step? (s : State) (c : Char) (text : List Char) :
    Leaves text (step? s (c :: text)) := by
  have hrest := List.suffix_refl text
  have hgreed := readGreed_suffix text
  rw [step?]
  refine .ite (fun _ => leaves_readGroup? s text) fun _ => ?_
  refine .ite (fun _ => .map hrest) fun _ => ?_
  refine .ite (fun _ => .some _ hrest) fun _ => ?_
  refine .ite (fun _ => ?_) fun _ => ?_
  · intro next rest h
    obtain ⟨⟨chars, height, after⟩, hbracket, e⟩ := Option.map_eq_some_iff.1 h
    cases e
    exact suffix_of_readBracket? hbracket
  iterate 3 refine .ite (fun _ => .map hgreed) fun _ => ?_
  refine .ite (fun _ => leaves_readCounted? s text) fun _ => ?_
  refine .ite (fun _ => ?_) fun _ => ?_
  · exact .bind fun x hx => .bind fun regex _ => .some _ (leaves_readEscape? s.flags text _ _ hx)
  refine .ite (fun _ => .map hrest) fun _ => ?_
  iterate 2 refine .ite (fun _ => .some _ hrest) fun _ => ?_
  exact .map hrest

/-- The reader goes from step to step. -/
theorem read?_eq (s : State) (text : List Char) :
    read? s text = match skip s.flags text with
      | [] => some s
      | c :: rest => (step? s (c :: rest)).bind fun x => read? x.1 x.2 := by
  rw [read?]
  cases hskip : skip s.flags text with
  | nil => rfl
  | cons c rest =>
    dsimp only
    cases hstep : step? s (c :: rest) with
    | none => rfl
    | some x =>
      have hshort := Nat.lt_of_le_of_lt (leaves_step? s c rest x.1 x.2 hstep).length_le
        (length_lt_of_skip hskip)
      exact if_pos hshort

theorem dropGap_dropGap (inComment : Bool) (text : List Char) :
    dropGap false (dropGap inComment text) = dropGap inComment text := by
  induction text generalizing inComment with
  | nil => cases inComment <;> rfl
  | cons c text ih =>
    cases inComment with
    | true => exact ih _
    | false =>
      rw [dropGap]
      split
      · exact ih _
      · next hblank =>
        split
        · exact ih _
        · next hsign => rw [dropGap, if_neg hblank, if_neg hsign]

theorem skip_skip (text : List Char) : skip flags (skip flags text) = skip flags text := by
  by_cases hblank : flags.ignoreBlank
  · rw [skip, skip, if_pos hblank, if_pos hblank, dropGap_dropGap]
  · rw [skip, if_neg hblank]

/-- Gaps in front of a text do not matter. -/
theorem read?_skip (s : State) (text : List Char) :
    read? s (skip s.flags text) = read? s text := by
  rw [read?_eq, read?_eq s text, skip_skip]

end Lapse.Regex.Reader
