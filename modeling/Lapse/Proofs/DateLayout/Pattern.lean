import Lapse.Proofs.CommentStyle.ByHand
import Lapse.Proofs.CommentStyle.Frame
import Lapse.Proofs.Regex.Progress
import Lapse.Proofs.Text.CaseFold

/-!
# What the pattern of a layout matches

The pattern of a layout that is accepted, matched against a whole text, leaves a digit where the
layout has a digit or a field letter, and elsewhere the layout's own character. Ignoring case makes
no difference, since no character that may separate fields is a letter.
-/
namespace Lapse.DateLayout

open CommentStyle (frameFlags frameLevel)
open Regex (CharSet Cursor Captures firstOf takes)
open Regex.Reader (State Level Item Flags read? foldFor literal namedClass)

/-- Any digit stands for a digit or a field letter, other characters stand for themselves. -/
def StandsFor (l c : Char) : Prop :=
  if l.isDigit ∨ l = 'Y' ∨ l = 'M' ∨ l = 'D' then c.isDigit = true else c = l

theorem shapeOf_eq (l : Char) :
    shapeOf l = if l.isDigit ∨ l = 'Y' ∨ l = 'M' ∨ l = 'D' then none else some l := by
  simp [shapeOf, isFieldLetter]

theorem hasShape_iff {layoutText text : List Char} :
    hasShape layoutText text ↔ List.Forall₂ StandsFor layoutText text := by
  induction layoutText generalizing text with
  | nil => cases text <;> simp [hasShape]
  | cons l layoutText ih =>
    cases text with
    | nil => simp [hasShape]
    | cons c text =>
      rw [hasShape, Bool.and_eq_true, ih, List.forall₂_cons, StandsFor, shapeOf_eq]
      refine and_congr_left fun _ => ?_
      by_cases hl : l.isDigit ∨ l = 'Y' ∨ l = 'M' ∨ l = 'D'
      · rw [if_pos hl, if_pos hl]
      · rw [if_neg hl, if_neg hl, decide_eq_true_iff]

theorem isAlphanumeric_of_isAlphabetic {c : Char} (h : Text.isAlphabetic c) :
    Text.isAlphanumeric c := by
  rw [Text.isAlphabetic] at h
  rw [Text.isAlphanumeric]
  split at h
  · next hsmall => simp [hsmall, Char.isAlphanum, h]
  · next hlarge => simp [hlarge, h]

theorem not_isAlphabetic_of_isDigit {c : Char} (h : c.isDigit) : ¬ Text.isAlphabetic c := by
  have hsmall : c.val < 128 := by
    simp only [Char.isDigit, Bool.and_eq_true, decide_eq_true_eq] at h
    exact UInt32.lt_of_le_of_lt h.2 (by decide)
  exact Text.forall_ascii (P := fun c => c.isDigit → ¬ Text.isAlphabetic c) (by decide +kernel)
    hsmall h

/-- Ignoring case adds nothing to a set without letters. -/
theorem mem_foldFor {s : CharSet} (h : ∀ c, s.mem c → ¬ Text.isAlphabetic c) (caseSensitive : Bool)
    (c : Char) : (foldFor (frameFlags caseSensitive) s).mem c = s.mem c := by
  cases caseSensitive with
  | true => simp [foldFor, frameFlags]
  | false =>
    have hfold : foldFor (frameFlags false) s = .fold s := by simp [foldFor, frameFlags]
    rw [hfold, CharSet.mem, Bool.eq_iff_iff, List.any_eq_true]
    constructor
    · rintro ⟨x, hx, hs⟩
      rcases Text.CaseFold.eq_or_isAlphabetic_of_mem_classOf hx with rfl | halpha
      · exact hs
      · exact absurd halpha (h x hs)
    · exact fun hs => ⟨c, Text.CaseFold.mem_classOf_self c, hs⟩

/-- What may stand in one place of a text. -/
def placeSet (flags : Flags) : Option Char → CharSet
  | none => foldFor flags (.union .empty (foldFor flags .asciiDigit))
  | some c => foldFor flags (.singleton c)

theorem regex_shapeItem (flags : Flags) (place : Option Char) :
    (shapeItem flags place).regex = .set (placeSet flags place) := by
  cases place <;> rfl

theorem mem_placeSet_none (caseSensitive : Bool) (c : Char) :
    (placeSet (frameFlags caseSensitive) none).mem c = c.isDigit := by
  have hdigit (x : Char) : CharSet.asciiDigit.mem x = x.isDigit := by
    rw [← ByHand.mem_anyDigit]
    rfl
  have hletter (x : Char) (hx : CharSet.asciiDigit.mem x) : ¬ Text.isAlphabetic x :=
    not_isAlphabetic_of_isDigit (hdigit x ▸ hx)
  have hinner (x : Char) : (CharSet.union .empty
      (foldFor (frameFlags caseSensitive) .asciiDigit)).mem x = CharSet.asciiDigit.mem x :=
    mem_foldFor hletter caseSensitive x
  rw [placeSet, mem_foldFor fun x hx => hletter x (hinner x ▸ hx), hinner, hdigit]

theorem mem_placeSet {l : Char} (h : ¬ isUnsupported l) (caseSensitive : Bool) (c : Char) :
    (placeSet (frameFlags caseSensitive) (shapeOf l)).mem c ↔ StandsFor l c := by
  rw [shapeOf_eq, StandsFor]
  split
  · rw [mem_placeSet_none]
  · next hl =>
    have hletter : ¬ Text.isAlphabetic l := by
      intro halpha
      refine h ?_
      have := isAlphanumeric_of_isAlphabetic halpha
      simp only [not_or] at hl
      simp [isUnsupported, isFieldLetter, this, hl]
    have hsingleton (x : Char) (hx : (CharSet.singleton l).mem x) : ¬ Text.isAlphabetic x := by
      rw [CharSet.mem_singleton, beq_iff_eq] at hx
      exact hx ▸ hletter
    rw [placeSet, mem_foldFor hsingleton, CharSet.mem_singleton, beq_iff_eq]

/-- What may stand in the places of the texts of a layout. -/
def places (caseSensitive : Bool) (layoutText : List Char) : List CharSet :=
  (layoutText.map shapeOf).map (placeSet (frameFlags caseSensitive))

theorem length_places (caseSensitive : Bool) (layoutText : List Char) :
    (places caseSensitive layoutText).length = layoutText.length := by
  simp [places]

theorem takes_places {layoutText : List Char} (h : ∀ c ∈ layoutText, ¬ isUnsupported c)
    (caseSensitive : Bool) (text : List Char) :
    takes (places caseSensitive layoutText) text =
      hasShape layoutText (text.take layoutText.length) := by
  induction layoutText generalizing text with
  | nil => rfl
  | cons l layoutText ih =>
    obtain ⟨hl, hothers⟩ := List.forall_mem_cons.1 h
    cases text with
    | nil => rfl
    | cons c text =>
      rw [Bool.eq_iff_iff, List.length_cons, List.take_succ_cons, hasShape_iff, List.forall₂_cons,
        ← hasShape_iff, ← ih hothers, ← mem_placeSet hl caseSensitive]
      simp [places, takes]

/-- A pattern between the marks for the beginning and the end of the text, the flag for case in
front of it. -/
def wholePattern (caseSensitive : Bool) (pattern : List Char) : List Char :=
  (if caseSensitive then [] else "(?i)".toList) ++ '^' :: (pattern ++ ['$'])

/-- The flag for case is an empty pattern. -/
def wholeRegex (caseSensitive : Bool) (sets : List CharSet) : Regex :=
  .sequence ((if caseSensitive then [] else [Regex.empty]) ++
    .look .start :: (sets.map .set ++ [.look .stop]))

theorem groups_wholeRegex (caseSensitive : Bool) (sets : List CharSet) :
    (wholeRegex caseSensitive sets).groups = [] := by
  rw [wholeRegex, Regex.Reader.groups_sequence]
  cases caseSensitive <;> simp [Regex.groups]

theorem isPlain_wholeRegex (caseSensitive : Bool) (sets : List CharSet) :
    (wholeRegex caseSensitive sets).isPlain := by
  have hsets : ∀ r ∈ sets.map Regex.set, r.isPlain := by simp [Regex.isPlain]
  refine ByHand.isPlain_sequence fun r hr => ?_
  simp only [List.mem_append, List.mem_cons, List.not_mem_nil, or_false] at hr
  rcases hr with hr | rfl | hr | rfl
  · cases caseSensitive
    · rw [List.mem_singleton.1 hr]
      rfl
    · cases hr
  · rfl
  · exact hsets r hr
  · rfl

theorem firstOf_wholeRegex {α : Type} (caseSensitive : Bool) (sets : List CharSet) (p : Cursor)
    (k : Cursor → Captures → Option α) (caps : Captures) :
    firstOf ((wholeRegex caseSensitive sets).ways p) k caps =
      if p.previous.isNone && takes sets p.after && (p.after.drop sets.length).isEmpty then
        k (p.advance sets.length) caps
      else none := by
  have hbare : firstOf ((wholeRegex true sets).ways p) k caps =
      if p.previous.isNone && takes sets p.after && (p.after.drop sets.length).isEmpty then
        k (p.advance sets.length) caps
      else none := by
    have hstop : Regex.sequence [Regex.look .stop] = .look .stop := rfl
    have hend (q : Cursor) : Regex.Look.holds .stop q = q.after.isEmpty := by
      cases h : q.after <;> simp [Regex.Look.holds, h]
    rw [wholeRegex, if_pos rfl, List.nil_append, Regex.firstOf_sequence_cons, Regex.firstOf_look,
      Regex.firstOf_sets_append, hstop, Regex.firstOf_look, hend, Cursor.after_advance]
    simp only [Regex.Look.holds, Bool.and_eq_true]
    grind
  cases caseSensitive with
  | true => exact hbare
  | false =>
    rw [← hbare]
    exact (Regex.firstOf_sequence_cons _ _ p k caps).trans (Regex.firstOf_here p _ caps)

theorem isSome_matchAt?_wholeRegex (caseSensitive : Bool) (sets : List CharSet) (p : Cursor) :
    ((wholeRegex caseSensitive sets).matchAt? p).isSome =
      (p.previous.isNone && takes sets p.after && (p.after.drop sets.length).isEmpty) := by
  rw [Regex.matchAt?_eq_firstOf (isPlain_wholeRegex caseSensitive sets), firstOf_wholeRegex]
  split
  · next h => rw [h, Option.isSome_some]
  · next h => rw [Option.isSome_none, Bool.eq_false_of_not_eq_true h]

/-- Behind a character no match begins. -/
theorem searchFrom_wholeRegex_eq_none (caseSensitive : Bool) (sets : List CharSet)
    (position : Nat) (previous : Char) (text : List Char) :
    (wholeRegex caseSensitive sets).searchFrom position (some previous) text = none := by
  have hnone (position : Nat) (previous : Char) (text : List Char) :
      (wholeRegex caseSensitive sets).matchAt? ⟨position, some previous, text⟩ = none := by
    refine Option.not_isSome_iff_eq_none.1 ?_
    rw [isSome_matchAt?_wholeRegex]
    exact Bool.false_ne_true
  induction text generalizing position previous with
  | nil => exact hnone position previous []
  | cons c text ih => rw [Regex.searchFrom_cons, hnone, ih, Option.none_or]

theorem isMatch_wholeRegex (caseSensitive : Bool) (sets : List CharSet) (text : List Char) :
    (wholeRegex caseSensitive sets).isMatch text =
      (takes sets text && (text.drop sets.length).isEmpty) := by
  have hstart : (wholeRegex caseSensitive sets).search? text =
      (wholeRegex caseSensitive sets).matchAt? (.atStart text) := by
    cases text with
    | nil => rfl
    | cons c text =>
      rw [Regex.search?, Regex.searchFrom_cons, searchFrom_wholeRegex_eq_none, Option.or_none]
      rfl
  rw [Regex.isMatch, hstart, isSome_matchAt?_wholeRegex]
  rfl

theorem read?_caseFlag (caseSensitive : Bool) (text : List Char) :
    read? .start ((if caseSensitive then [] else "(?i)".toList) ++ text) =
      read? ⟨frameFlags caseSensitive, 0, [], frameLevel caseSensitive, []⟩ text := by
  cases caseSensitive with
  | true => rfl
  | false =>
    have hcase : "(?i)".toList = ['(', '?', 'i', ')'] := by simp
    rw [if_neg Bool.false_ne_true, hcase]
    exact CommentStyle.read?_ignoreCase text

/-- What is read in front of the mark for the beginning. -/
def caseItems (caseSensitive : Bool) : List Item :=
  if caseSensitive then [] else [⟨.empty, 0, false⟩]

/-- What is read of the whole pattern. -/
def wholeItems (caseSensitive : Bool) (layoutText : List Char) : List Item :=
  caseItems caseSensitive ++ ⟨.look .start, 0, true⟩ ::
    ((layoutText.map shapeOf).map (shapeItem (frameFlags caseSensitive)) ++
      [⟨.look .stop, 0, true⟩])

theorem read?_start {s : State} (h : s.flags.multiLine = false) (text : List Char) :
    read? s ('^' :: text) = read? (s.push ⟨.look .start, 0, true⟩) text := by
  have hstep : Regex.Reader.step? s ('^' :: text) = some (s.push ⟨.look .start, 0, true⟩, text) := by
    simp [Regex.Reader.step?, Regex.Reader.lineStartLook, h]
  exact Regex.Reader.read?_of_step (.inr (by decide)) hstep (Nat.le_refl _)

theorem read?_stop {s : State} (h : s.flags.multiLine = false) (text : List Char) :
    read? s ('$' :: text) = read? (s.push ⟨.look .stop, 0, true⟩) text := by
  have hstep : Regex.Reader.step? s ('$' :: text) = some (s.push ⟨.look .stop, 0, true⟩, text) := by
    simp [Regex.Reader.step?, Regex.Reader.lineStopLook, h]
  exact Regex.Reader.read?_of_step (.inr (by decide)) hstep (Nat.le_refl _)

theorem read?_wholePattern {layoutText : List Char} {layout : DateLayout}
    (h : layout.pieces.flatMap pieceShape = layoutText.map shapeOf) (caseSensitive : Bool) :
    read? .start (wholePattern caseSensitive layout.pattern) =
      some ⟨frameFlags caseSensitive, 0, [], Level.new.pushAll (wholeItems caseSensitive layoutText),
        []⟩ := by
  rw [wholePattern, read?_caseFlag, read?_start rfl, read?_pattern rfl, read?_stop rfl,
    Regex.Reader.read?_nil, h]
  cases caseSensitive <;>
    simp [State.pushAll, Level.pushAll, State.push, Level.push, wholeItems, caseItems, frameLevel,
      Level.new]

theorem regex_wholeItems (caseSensitive : Bool) (layoutText : List Char) :
    (Level.new.pushAll (wholeItems caseSensitive layoutText)).close.regex =
      wholeRegex caseSensitive (places caseSensitive layoutText) := by
  have hshape (xs : List (Option Char)) :
      (xs.map (shapeItem (frameFlags caseSensitive))).map (·.regex) =
        (xs.map (placeSet (frameFlags caseSensitive))).map .set := by
    simp [regex_shapeItem]
  rw [Level.regex_close_pushAll, wholeRegex, places, wholeItems, List.map_append, List.map_cons,
    List.map_append, hshape]
  cases caseSensitive <;> rfl

theorem height_wholeItems_le (caseSensitive : Bool) (layoutText : List Char) :
    (Level.new.pushAll (wholeItems caseSensitive layoutText)).close.height ≤ 2 := by
  have hshape (place : Option Char) : (shapeItem (frameFlags caseSensitive) place).height ≤ 1 := by
    cases place <;> simp [shapeItem, literal, namedClass]
  refine Level.height_close_pushAll_le fun item hitem => ?_
  simp only [wholeItems, List.mem_append, List.mem_cons, List.mem_map, List.not_mem_nil,
    or_false] at hitem
  rcases hitem with hitem | rfl | ⟨place, -, rfl⟩ | rfl
  · cases caseSensitive
    · rw [List.mem_singleton.1 hitem]
      exact Nat.zero_le _
    · cases hitem
  · exact Nat.zero_le _
  · exact hshape place
  · exact Nat.zero_le _

/-- The whole pattern of a layout is read, and it matches the texts of the layout's shape. -/
theorem ofAnySize?_wholePattern {layoutText : List Char} {layout : DateLayout}
    (h : ofText layoutText = .ok layout) (caseSensitive : Bool) :
    Regex.ofAnySize? (wholePattern caseSensitive layout.pattern) =
      some (wholeRegex caseSensitive (places caseSensitive layoutText)) := by
  rw [Regex.ofAnySize?, read?_wholePattern (pieces_of_ofText h), Option.bind_some,
    Regex.Reader.State.finish?_eq_some_iff, regex_wholeItems]
  exact ⟨rfl, (height_wholeItems_le _ _).trans (by decide), rfl⟩

theorem isMatch_wholePattern {layoutText : List Char} {layout : DateLayout}
    (h : ofText layoutText = .ok layout) (caseSensitive : Bool) (text : List Char) :
    (wholeRegex caseSensitive (places caseSensitive layoutText)).isMatch text =
      hasShape layoutText text := by
  rw [isMatch_wholeRegex, takes_places (ofText_eq_ok_iff.1 h).1, length_places]
  by_cases hle : text.length ≤ layoutText.length
  · rw [List.take_of_length_le hle, List.drop_of_length_le hle, List.isEmpty_nil, Bool.and_true]
  · have hshape : hasShape layoutText text = false :=
      Bool.eq_false_of_not_eq_true fun hshape => hle (length_of_hasShape hshape).le
    have hrest : (text.drop layoutText.length).isEmpty = false := by
      simp only [List.isEmpty_eq_false_iff, ne_eq, List.drop_eq_nil_iff]
      exact hle
    rw [hshape, hrest, Bool.and_false]

/-- Reading the text adds only items without groups, whatever stands around it. -/
def AddsNoGroup (text : List Char) : Prop :=
  ∀ (s : State) (rest : List Char), ∃ items : List Item,
    (∀ item ∈ items, item.regex.groups = []) ∧ read? s (text ++ rest) = read? (s.pushAll items) rest

theorem AddsNoGroup.nil : AddsNoGroup [] := fun _ _ => ⟨[], List.forall_mem_nil _, rfl⟩

theorem AddsNoGroup.append {first second : List Char} (hfirst : AddsNoGroup first)
    (hsecond : AddsNoGroup second) : AddsNoGroup (first ++ second) := by
  intro s rest
  obtain ⟨items, hitems, hread⟩ := hfirst s (second ++ rest)
  obtain ⟨others, hothers, hread'⟩ := hsecond (s.pushAll items) rest
  refine ⟨items ++ others, List.forall_mem_append.2 ⟨hitems, hothers⟩, ?_⟩
  rw [List.append_assoc, hread, hread', State.pushAll_append]

theorem addsNoGroup_flatten {texts : List (List Char)} (h : ∀ text ∈ texts, AddsNoGroup text) :
    AddsNoGroup texts.flatten := by
  induction texts with
  | nil => exact .nil
  | cons text texts ih =>
    obtain ⟨hfirst, hothers⟩ := List.forall_mem_cons.1 h
    exact hfirst.append (ih hothers)

theorem addsNoGroup_digitPattern : AddsNoGroup digitPattern := fun s rest =>
  ⟨[shapeItem s.flags none], by simp [shapeItem, namedClass, Regex.groups],
    read?_digitPattern s rest⟩

/-- A blank may be skipped, any other character is an item. -/
theorem addsNoGroup_escapeChar (c : Char) : AddsNoGroup (Regex.escapeChar c) := by
  intro s rest
  have hitems : ∀ item ∈ [literal s.flags c], item.regex.groups = [] := by
    simp [literal, Regex.groups]
  by_cases hmeta : Regex.isMeta c
  · refine ⟨_, hitems, ?_⟩
    rw [Regex.escapeChar, if_pos hmeta]
    exact Regex.Reader.read?_of_step (.inr (by decide)) (Regex.Reader.step?_meta hmeta s rest)
      (Nat.le_succ _)
  rw [Regex.escapeChar, if_neg hmeta, List.singleton_append]
  by_cases hskipped : s.flags.ignoreBlank = true ∧ Text.isBlank c = true
  · have hskip : Regex.Reader.skip s.flags (c :: rest) = Regex.Reader.skip s.flags rest := by
      simp [Regex.Reader.skip, Regex.Reader.dropGap, hskipped]
    refine ⟨[], List.forall_mem_nil _, ?_⟩
    rw [← Regex.Reader.read?_skip, hskip, Regex.Reader.read?_skip]
    rfl
  · have hsolid : Regex.Reader.IsSolid s.flags c := by
      have hsign : c ≠ '#' := by
        rintro rfl
        exact hmeta rfl
      by_cases hblank : s.flags.ignoreBlank = true
      · exact .inr ⟨Bool.eq_false_of_not_eq_true fun h => hskipped ⟨hblank, h⟩, hsign⟩
      · exact .inl (Bool.eq_false_of_not_eq_true hblank)
    exact ⟨_, hitems, Regex.Reader.read?_of_step hsolid (Regex.Reader.step?_ordinary hmeta s rest)
      (Nat.le_refl _)⟩

theorem addsNoGroup_pattern (layout : DateLayout) : AddsNoGroup layout.pattern := by
  refine addsNoGroup_flatten fun text htext => ?_
  obtain ⟨piece, -, rfl⟩ := List.mem_map.1 htext
  cases piece with
  | field kind width =>
    refine addsNoGroup_flatten fun text htext => ?_
    exact List.eq_of_mem_replicate htext ▸ addsNoGroup_digitPattern
  | literal c =>
    rw [piecePattern]
    split
    · exact addsNoGroup_digitPattern
    · exact addsNoGroup_escapeChar c

/-- The pattern of an accepted layout matches a whole text exactly when it has a digit in the places
of digits and field letters and the layout's characters elsewhere, whether case is kept or ignored.
No layout's pattern has a group, alone or within another pattern. -/
theorem pattern_matches_shape [Regex.SizeLimit] {layoutText : List Char} {layout : DateLayout}
    (h : ofText layoutText = .ok layout) :
    (∀ caseSensitive, ∃ regex,
      Regex.ofAnySize? (wholePattern caseSensitive layout.pattern) = some regex ∧
      (Regex.SizeLimit.admits regex = true →
        Regex.ofText? (wholePattern caseSensitive layout.pattern) = some regex) ∧
      regex.groups = [] ∧
      ∀ text, regex.isMatch text ↔ List.Forall₂ StandsFor layoutText text) ∧
    AddsNoGroup layout.pattern := by
  refine ⟨fun caseSensitive => ?_, addsNoGroup_pattern layout⟩
  have hread := ofAnySize?_wholePattern h caseSensitive
  refine ⟨_, hread, fun hsize => ?_, groups_wholeRegex _ _, fun text => ?_⟩
  · exact Regex.ofText?_eq_some_iff.2 ⟨hread, hsize⟩
  · rw [isMatch_wholePattern h, hasShape_iff]

/-- A layout whose separators are characters of the pattern language. -/
def signLayout : DateLayout :=
  ⟨[.field .year 4, .literal '.', .field .month 2, .literal '|', .field .day 1]⟩

theorem pattern_matches_shape_of_signLayout :
    ofText "YYYY.MM|2".toList = .ok signLayout ∧
      ∃ regex, Regex.ofAnySize? (wholePattern false signLayout.pattern) = some regex ∧
      regex.isMatch "2030.01|7".toList ∧ ¬ regex.isMatch "2030".toList := by
  have hlayout : ofText "YYYY.MM|2".toList = .ok signLayout := by cbv
  obtain ⟨regex, hread, -, -, hmatch⟩ := (pattern_matches_shape hlayout).1 false
  refine ⟨hlayout, regex, hread, (hmatch _).2 (hasShape_iff.1 (by decide +kernel)), fun h => ?_⟩
  exact absurd (hasShape_iff.2 ((hmatch _).1 h)) (by decide +kernel)

end Lapse.DateLayout
