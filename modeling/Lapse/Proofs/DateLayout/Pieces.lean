import Lapse.Proofs.DateLayout.Cut
import Lapse.Proofs.DateLayout.Pattern
import Lapse.Proofs.DateLayout.RoundTrip

/-!
# Dates in pieces

A text is read as a date by splitting it into parts, one for each piece of the layout: a field is
as many digits as it is wide, a literal is itself. The occurrences of a field must have the same
number, and the numbers must name a day. The pattern of the layout is laxer than that in three ways,
which are the reasons why a text that it matches is no date.
-/
namespace Lapse.DateLayout

open Calendar (Date IsDay decimalValue)
open Regex.Reader (State read?)

/-- A part of a text that is written for a piece. -/
def IsWritten : LayoutPiece → (part : List Char) → Prop
  | .field _ width, part => part.length = width ∧ ∀ c ∈ part, c.isDigit
  | .literal c, part => part = [c]

/-- The same, but for a literal digit any digit. -/
def IsShaped : LayoutPiece → (part : List Char) → Prop
  | .field _ width, part => part.length = width ∧ ∀ c ∈ part, c.isDigit
  | .literal c, part => ∃ x, part = [x] ∧ if c.isDigit then x.isDigit = true else x = c

/-- The numbers that the parts give a field, from left to right. -/
def numbersOf (kind : DateField) (pieces : List LayoutPiece) (parts : List (List Char)) :
    List Nat :=
  (pieces.zip parts).filterMap fun (piece, part) =>
    match piece with
    | .field k _ => if k = kind then some (decimalValue part) else none
    | .literal _ => none

/-- No field is given two different numbers. -/
def Agree (pieces : List LayoutPiece) (parts : List (List Char)) : Prop :=
  ∀ kind, ∀ m ∈ numbersOf kind pieces parts, ∀ n ∈ numbersOf kind pieces parts, m = n

/-- The year of four digits if there is one, else the one of two digits, else zero. -/
def yearOf (pieces : List LayoutPiece) (parts : List (List Char)) : Nat :=
  match numbersOf .year pieces parts, numbersOf .shortYear pieces parts with
  | year :: _, _ => year
  | [], short :: _ => if short < 69 then 2000 + short else 1900 + short
  | [], [] => 0

def monthOf (pieces : List LayoutPiece) (parts : List (List Char)) : Nat :=
  (numbersOf .month pieces parts).headD 1

def dayOf (pieces : List LayoutPiece) (parts : List (List Char)) : Nat :=
  (numbersOf .day pieces parts).headD 1

@[simp] theorem numbersOf_field (kind k : DateField) (width : Nat) (pieces : List LayoutPiece)
    (part : List Char) (parts : List (List Char)) :
    numbersOf kind (.field k width :: pieces) (part :: parts) =
      if k = kind then decimalValue part :: numbersOf kind pieces parts
      else numbersOf kind pieces parts := by
  by_cases h : k = kind <;> simp [numbersOf, h]

/-- What a field holds before and after it is given numbers. -/
structure Fills (before : Option Nat) (numbers : List Nat) (after : Option Nat) : Prop where
  first : after = before.or numbers.head?
  same : ∀ n ∈ numbers, after = some n

theorem fills_nil {before after : Option Nat} : Fills before [] after ↔ after = before :=
  ⟨fun h => by simpa using h.first, fun h => ⟨by simpa using h, by simp⟩⟩

theorem fills_cons {before after : Option Nat} {value : Nat} {numbers : List Nat} :
    Fills before (value :: numbers) after ↔
      (before = none ∨ before = some value) ∧ Fills (some value) numbers after := by
  constructor
  · rintro ⟨hfirst, hsame⟩
    obtain ⟨hvalue, hsame⟩ := List.forall_mem_cons.1 hsame
    refine ⟨?_, hvalue, hsame⟩
    cases before with
    | none => exact .inl rfl
    | some present => exact .inr (hfirst.symm.trans hvalue)
  · rintro ⟨hbefore, hfirst, hsame⟩
    refine ⟨?_, List.forall_mem_cons.2 ⟨hfirst, hsame⟩⟩
    rcases hbefore with rfl | rfl <;> exact hfirst

/-- Giving one more number to a field is giving the others to the fields with this one put in. -/
theorem forall_fills_field {fields final : Fields} {kind : DateField} {value : Nat}
    {numbers : DateField → List Nat} :
    (∀ k, Fills (fields.get k) (if kind = k then value :: numbers k else numbers k)
      (final.get k)) ↔
      (fields.get kind = none ∨ fields.get kind = some value) ∧
        ∀ k, Fills ((fields.set kind value).get k) (numbers k) (final.get k) := by
  constructor
  · intro h
    have hkind := h kind
    rw [if_pos rfl, fills_cons] at hkind
    refine ⟨hkind.1, fun k => ?_⟩
    rw [Fields.get_set]
    by_cases hk : k = kind
    · rw [if_pos hk, hk]
      exact hkind.2
    · rw [if_neg hk]
      simpa [Ne.symm hk] using h k
  · rintro ⟨hbefore, h⟩ k
    have hrest := h k
    rw [Fields.get_set] at hrest
    by_cases hk : k = kind
    · subst hk
      rw [if_pos rfl] at hrest ⊢
      exact fills_cons.2 ⟨hbefore, hrest⟩
    · rw [if_neg hk] at hrest
      rwa [if_neg (Ne.symm hk)]

theorem readFields?_iff_parts {pieces : List LayoutPiece} {fields final : Fields}
    {text : List Char} :
    readFields? pieces fields text = some final ↔
      ∃ parts : List (List Char), parts.flatten = text ∧ List.Forall₂ IsWritten pieces parts ∧
        ∀ kind, Fills (fields.get kind) (numbersOf kind pieces parts) (final.get kind) := by
  induction pieces generalizing fields text with
  | nil =>
    simp only [List.forall₂_nil_left_iff]
    constructor
    · intro h
      cases text with
      | nil =>
        cases h
        exact ⟨[], rfl, rfl, fun _ => fills_nil.2 rfl⟩
      | cons c text => cases h
    · rintro ⟨_, rfl, rfl, hfills⟩
      exact congrArg some (Fields.get_inj fun kind => (fills_nil.1 (hfills kind)).symm)
  | cons piece pieces ih =>
    simp only [List.forall₂_cons_left_iff]
    cases piece with
    | literal c =>
      constructor
      · intro h
        cases text with
        | nil => cases h
        | cons x text =>
          rw [readFields?, Option.ite_none_right_eq_some] at h
          obtain ⟨rfl, h⟩ := h
          obtain ⟨parts, rfl, hparts, hfills⟩ := ih.1 h
          exact ⟨[x] :: parts, rfl, ⟨[x], parts, rfl, hparts, rfl⟩, hfills⟩
      · rintro ⟨_, rfl, ⟨part, parts, hpart, hparts, rfl⟩, hfills⟩
        obtain rfl : part = [c] := hpart
        exact (if_pos rfl).trans (ih.2 ⟨parts, rfl, hparts, hfills⟩)
    | field kind width =>
      constructor
      · intro h
        rw [readFields?] at h
        split at h
        case h_2 => cases h
        next value rest hread =>
        obtain ⟨part, hlength, hdigits, rfl, rfl⟩ := exists_of_readDigits? hread
        split at h
        case h_2 => cases h
        next mid hagree =>
        obtain ⟨hbefore, rfl⟩ := Fields.agree?_eq_some_iff.1 hagree
        obtain ⟨parts, rfl, hparts, hfills⟩ := ih.1 h
        refine ⟨part :: parts, rfl, ⟨part, parts, ⟨hlength, hdigits⟩, hparts, rfl⟩, ?_⟩
        simp only [numbersOf_field, Calendar.decimalValue_eq_ofDigitChars]
        exact forall_fills_field.2 ⟨hbefore, hfills⟩
      · rintro ⟨_, rfl, ⟨part, parts, ⟨rfl, hdigits⟩, hparts, rfl⟩, hfills⟩
        simp only [numbersOf_field, Calendar.decimalValue_eq_ofDigitChars] at hfills
        obtain ⟨hbefore, hfills⟩ := forall_fills_field.1 hfills
        rw [readFields?, List.flatten_cons, readDigits?_append hdigits]
        simp only [Fields.agree?_eq_some_iff.2 ⟨hbefore, rfl⟩]
        exact ih.2 ⟨parts, rfl, hparts, hfills⟩

/-- The fields that parts give. -/
def fieldsOf (pieces : List LayoutPiece) (parts : List (List Char)) : Fields where
  year := (numbersOf .year pieces parts).head?
  shortYear := (numbersOf .shortYear pieces parts).head?
  month := (numbersOf .month pieces parts).head?
  day := (numbersOf .day pieces parts).head?

theorem get_fieldsOf (pieces : List LayoutPiece) (parts : List (List Char)) (kind : DateField) :
    (fieldsOf pieces parts).get kind = (numbersOf kind pieces parts).head? := by
  cases kind <;> rfl

theorem get_empty (kind : DateField) : ({} : Fields).get kind = none := by
  cases kind <;> rfl

theorem forall_fills_empty_iff {pieces : List LayoutPiece} {parts : List (List Char)}
    {final : Fields} :
    (∀ kind, Fills (({} : Fields).get kind) (numbersOf kind pieces parts) (final.get kind)) ↔
      Agree pieces parts ∧ final = fieldsOf pieces parts := by
  constructor
  · intro h
    refine ⟨fun kind m hm n hn => ?_, Fields.get_inj fun kind => ?_⟩
    · exact Option.some.inj (((h kind).same m hm).symm.trans ((h kind).same n hn))
    · rw [(h kind).first, get_empty, Option.none_or, get_fieldsOf]
  · rintro ⟨hagree, rfl⟩ kind
    rw [get_empty, get_fieldsOf]
    refine ⟨rfl, fun n hn => ?_⟩
    obtain ⟨first, hfirst⟩ := Option.isSome_iff_exists.1 (List.isSome_head?.2 (List.ne_nil_of_mem hn))
    rw [hfirst, hagree kind first (List.mem_of_mem_head? hfirst) n hn]

theorem fullYear_fieldsOf (pieces : List LayoutPiece) (parts : List (List Char)) :
    (fieldsOf pieces parts).fullYear = yearOf pieces parts := by
  rw [Fields.fullYear, fieldsOf, yearOf]
  cases numbersOf .year pieces parts with
  | cons year _ => rfl
  | nil =>
    cases numbersOf .shortYear pieces parts with
    | nil => rfl
    | cons short _ =>
      simp only [List.head?_nil, List.head?_cons]
      split <;> split <;> omega

theorem date?_fieldsOf (pieces : List LayoutPiece) (parts : List (List Char)) :
    (fieldsOf pieces parts).date? =
      Date.of? (yearOf pieces parts) (monthOf pieces parts) (dayOf pieces parts) := by
  rw [Fields.date?, fullYear_fieldsOf, monthOf, dayOf, List.headD_eq_head?_getD,
    List.headD_eq_head?_getD]
  rfl

theorem readDate?_eq_some_iff_parts {layout : DateLayout} {text : List Char} {d : Date} :
    layout.readDate? text = some d ↔
      ∃ parts : List (List Char), parts.flatten = text ∧
        List.Forall₂ IsWritten layout.pieces parts ∧ Agree layout.pieces parts ∧
        Date.of? (yearOf layout.pieces parts) (monthOf layout.pieces parts)
          (dayOf layout.pieces parts) = some d := by
  simp only [readDate?, Option.bind_eq_some_iff, readFields?_iff_parts, forall_fills_empty_iff,
    ← date?_fieldsOf]
  constructor
  · rintro ⟨_, ⟨parts, htext, hparts, hagree, rfl⟩, hdate⟩
    exact ⟨parts, htext, hparts, hagree, hdate⟩
  · rintro ⟨parts, htext, hparts, hagree, hdate⟩
    exact ⟨_, ⟨parts, htext, hparts, hagree, rfl⟩, hdate⟩

theorem forall₂_append_left_iff {α β : Type} {R : α → β → Prop} {xs ys : List α} {text : List β} :
    List.Forall₂ R (xs ++ ys) text ↔
      ∃ front back, front ++ back = text ∧ List.Forall₂ R xs front ∧ List.Forall₂ R ys back := by
  constructor
  · intro h
    refine ⟨text.take xs.length, text.drop xs.length, List.take_append_drop _ _, ?_, ?_⟩
    · simpa using List.forall₂_take xs.length h
    · simpa using List.forall₂_drop xs.length h
  · rintro ⟨front, back, rfl, hfront, hback⟩
    exact List.rel_append hfront hback

/-- What agrees with lists put together are texts put together that agree with one list each. -/
theorem forall₂_flatMap_left_iff {α β γ : Type} {R : α → β → Prop} {f : γ → List α} {xs : List γ}
    {text : List β} :
    List.Forall₂ R (xs.flatMap f) text ↔
      ∃ parts : List (List β), parts.flatten = text ∧
        List.Forall₂ (fun x part => List.Forall₂ R (f x) part) xs parts := by
  induction xs generalizing text with
  | nil => simp [eq_comm]
  | cons x xs ih =>
    simp only [List.flatMap_cons, forall₂_append_left_iff, ih, List.forall₂_cons_left_iff]
    constructor
    · rintro ⟨front, _, rfl, hfront, parts, rfl, hparts⟩
      exact ⟨front :: parts, rfl, front, parts, hfront, hparts, rfl⟩
    · rintro ⟨_, rfl, front, parts, hfront, hparts, rfl⟩
      exact ⟨front, parts.flatten, rfl, hfront, parts, rfl, hparts⟩

/-- What may stand in a place of a shape. -/
def MayStand : (place : Option Char) → Char → Prop
  | none, c => c.isDigit
  | some l, c => c = l

theorem forall₂_mayStand_iff {layoutText text : List Char} :
    List.Forall₂ MayStand (layoutText.map shapeOf) text ↔ hasShape layoutText text := by
  rw [hasShape_iff, List.forall₂_map_left_iff]
  have hstand (l c : Char) : MayStand (shapeOf l) c ↔ StandsFor l c := by
    rw [shapeOf_eq, StandsFor]
    split <;> rfl
  simp only [hstand]

theorem forall₂_mayStand_piece_iff {piece : LayoutPiece} {part : List Char} :
    List.Forall₂ MayStand (pieceShape piece) part ↔ IsShaped piece part := by
  cases piece with
  | field kind width =>
    rw [pieceShape, IsShaped]
    induction width generalizing part with
    | zero => cases part <;> simp
    | succ width ih =>
      cases part with
      | nil => simp
      | cons c part =>
        rw [List.replicate_succ, List.forall₂_cons, ih]
        simp [MayStand]
        grind
  | literal c =>
    simp only [pieceShape, IsShaped, List.forall₂_cons_left_iff, List.forall₂_nil_left_iff]
    split <;> simp [MayStand, and_comm]

theorem hasShape_iff_parts {layoutText : List Char} {layout : DateLayout}
    (h : ofText layoutText = .ok layout) {text : List Char} :
    hasShape layoutText text ↔
      ∃ parts : List (List Char), parts.flatten = text ∧
        List.Forall₂ IsShaped layout.pieces parts := by
  rw [← forall₂_mayStand_iff, ← pieces_of_ofText h, forall₂_flatMap_left_iff]
  simp only [forall₂_mayStand_piece_iff]

theorem IsWritten.isShaped {piece : LayoutPiece} {part : List Char} (h : IsWritten piece part) :
    IsShaped piece part := by
  cases piece with
  | field kind width => exact h
  | literal c =>
    refine ⟨c, h, ?_⟩
    split
    · next hdigit => exact hdigit
    · rfl

theorem IsShaped.length_eq {piece : LayoutPiece} {part : List Char} (h : IsShaped piece part) :
    part.length = (pieceShape piece).length := by
  cases piece with
  | field kind width => simpa [pieceShape] using h.1
  | literal c =>
    obtain ⟨x, rfl, -⟩ := h
    rfl

/-- A text has one way to be split. -/
theorem eq_of_flatten_eq {pieces : List LayoutPiece} {parts others : List (List Char)}
    (hparts : List.Forall₂ IsShaped pieces parts) (hothers : List.Forall₂ IsShaped pieces others)
    (h : parts.flatten = others.flatten) : parts = others := by
  induction hparts generalizing others with
  | nil =>
    cases hothers
    rfl
  | cons hpart hparts ih =>
    cases hothers with
    | cons hother hothers =>
      obtain ⟨rfl, hrest⟩ := List.append_inj h (hpart.length_eq.trans hother.length_eq.symm)
      rw [ih hothers hrest]

/-- A literal digit has another digit in its place. -/
def Differ (pieces : List LayoutPiece) (parts : List (List Char)) : Prop :=
  ∃ c x, (.literal c, [x]) ∈ pieces.zip parts ∧ c.isDigit ∧ x ≠ c

theorem forall₂_isWritten_iff {pieces : List LayoutPiece} {parts : List (List Char)}
    (h : List.Forall₂ IsShaped pieces parts) :
    List.Forall₂ IsWritten pieces parts ↔ ¬ Differ pieces parts := by
  constructor
  · rintro hwritten ⟨c, x, hmem, -, hne⟩
    have hpart : IsWritten (.literal c) [x] := List.forall₂_zip hwritten hmem
    exact hne (List.singleton_inj.1 hpart)
  · intro hsame
    induction h with
    | nil => exact .nil
    | @cons piece part pieces parts hpart hparts ih =>
      refine .cons ?_ (ih fun ⟨c, x, hmem, hdiffer⟩ =>
        hsame ⟨c, x, List.mem_cons_of_mem _ hmem, hdiffer⟩)
      cases piece with
      | field kind width => exact hpart
      | literal c =>
        obtain ⟨x, rfl, hx⟩ := hpart
        by_cases hdigit : c.isDigit
        · have heq : x = c := by
            by_contra hne
            exact hsame ⟨c, x, List.mem_cons_self, hdigit, hne⟩
          rw [heq]
          rfl
        · rw [if_neg hdigit] at hx
          rw [hx]
          rfl

theorem date_of?_eq_some_iff {year : Int} {month day : Nat} {d : Date} :
    Date.of? year month day = some d ↔ d.year = year ∧ d.month = month ∧ d.day = day := by
  obtain ⟨dYear, dMonth, dDay, hday⟩ := d
  rw [Date.of?]
  constructor
  · intro h
    split at h
    · cases h
      exact ⟨rfl, rfl, rfl⟩
    · cases h
  · rintro ⟨rfl, rfl, rfl⟩
    rw [dif_pos hday]

theorem isSome_date_of?_iff {year : Int} {month day : Nat} :
    (Date.of? year month day).isSome ↔ IsDay year month day := by
  rw [Date.of?]
  split <;> simp_all

theorem readDate?_eq_none_iff {layout : DateLayout} {parts : List (List Char)}
    (h : List.Forall₂ IsShaped layout.pieces parts) :
    layout.readDate? parts.flatten = none ↔
      Differ layout.pieces parts ∨ ¬ Agree layout.pieces parts ∨
        ¬ IsDay (yearOf layout.pieces parts) (monthOf layout.pieces parts)
          (dayOf layout.pieces parts) := by
  have hsome : (layout.readDate? parts.flatten).isSome ↔
      List.Forall₂ IsWritten layout.pieces parts ∧ Agree layout.pieces parts ∧
        IsDay (yearOf layout.pieces parts) (monthOf layout.pieces parts)
          (dayOf layout.pieces parts) := by
    simp only [Option.isSome_iff_exists, readDate?_eq_some_iff_parts, ← isSome_date_of?_iff]
    constructor
    · rintro ⟨d, others, htext, hothers, hagree, hdate⟩
      obtain rfl := eq_of_flatten_eq (hothers.imp fun _ _ => IsWritten.isShaped) h htext
      exact ⟨hothers, hagree, d, hdate⟩
    · rintro ⟨hwritten, hagree, d, hdate⟩
      exact ⟨d, parts, rfl, hwritten, hagree, hdate⟩
  rw [← Option.not_isSome_iff_eq_none, hsome, forall₂_isWritten_iff h]
  tauto

/-- The reader of a layout that is accepted, by the pieces that the layout is cut into: it reads a
date where the text splits into one part for each piece, the parts agree on the fields, and the
numbers name a day. What the layout's pattern matches splits in the same way but for literal digits,
so it is no date only for one of these, a field with two numbers, or a day that there is not. -/
theorem readDate?_of_pieces {layoutText : List Char} {layout : DateLayout}
    (h : ofText layoutText = .ok layout) :
    (∀ pieces, CutsInto layoutText pieces ↔ pieces = layout.pieces) ∧
    (∀ text d, layout.readDate? text = some d ↔
      ∃ parts : List (List Char), parts.flatten = text ∧
        List.Forall₂ IsWritten layout.pieces parts ∧ Agree layout.pieces parts ∧
        d.year = yearOf layout.pieces parts ∧ d.month = monthOf layout.pieces parts ∧
        d.day = dayOf layout.pieces parts) ∧
    ∀ caseSensitive, ∃ regex,
      Regex.ofAnySize? (wholePattern caseSensitive layout.pattern) = some regex ∧
      (∀ text, regex.isMatch text ↔ ∃ parts : List (List Char), parts.flatten = text ∧
        List.Forall₂ IsShaped layout.pieces parts) ∧
      ∀ parts : List (List Char), List.Forall₂ IsShaped layout.pieces parts →
        (layout.readDate? parts.flatten = none ↔
          Differ layout.pieces parts ∨ ¬ Agree layout.pieces parts ∨
            ¬ IsDay (yearOf layout.pieces parts) (monthOf layout.pieces parts)
              (dayOf layout.pieces parts)) := by
  refine ⟨fun pieces => ?_, fun text d => ?_, fun caseSensitive => ?_⟩
  · rw [← cut_eq_ok_iff, (ofText_eq_ok_iff.1 h).2, Except.ok.injEq, eq_comm]
  · simp only [readDate?_eq_some_iff_parts, date_of?_eq_some_iff]
  · refine ⟨_, ofAnySize?_wholePattern h caseSensitive, fun text => ?_, fun parts hparts => ?_⟩
    · rw [isMatch_wholePattern h, hasShape_iff_parts h]
    · exact readDate?_eq_none_iff hparts

/-- A layout with the month twice and digits that stand for themselves. -/
def twofoldLayout : DateLayout :=
  ⟨[.field .month 1, .literal '/', .field .day 2, .literal '/', .field .shortYear 2, .literal ' ',
    .field .month 2, .literal '-', .literal '7']⟩

theorem readDate?_of_pieces_of_twofoldLayout :
    ofText "1/02/06 MM-7".toList = .ok twofoldLayout ∧
      twofoldLayout.readDate? "3/31/99 03-7".toList = some ⟨1999, 3, 31, by decide⟩ ∧
      twofoldLayout.readDate? "3/31/99 04-7".toList = none ∧
      twofoldLayout.readDate? "3/31/99 03-8".toList = none := by
  have hlayout : ofText "1/02/06 MM-7".toList = .ok twofoldLayout := by cbv
  obtain ⟨-, hread, hpattern⟩ := readDate?_of_pieces hlayout
  obtain ⟨regex, -, -, hnone⟩ := hpattern true
  have hshaped (m x : Char) (hm : m.isDigit) (hx : x.isDigit) : List.Forall₂ IsShaped
      twofoldLayout.pieces [['3'], ['/'], ['3', '1'], ['/'], ['9', '9'], [' '], ['0', m], ['-'],
        [x]] := by
    simp [twofoldLayout, IsShaped, hm, hx]
  have hmonths := (hnone _ (hshaped '4' '7' rfl rfl)).2 (.inr (.inl fun hagree =>
    absurd (hagree .month 3 (by decide) 4 (by decide)) (by decide)))
  have hdigit := (hnone _ (hshaped '3' '8' rfl rfl)).2
    (.inl ⟨'7', '8', by decide, rfl, by decide⟩)
  refine ⟨hlayout, (hread _ _).2 ⟨[['3'], ['/'], ['3', '1'], ['/'], ['9', '9'], [' '], ['0', '3'],
    ['-'], ['7']], ?_, ?_, ?_, ?_⟩, ?_, ?_⟩
  · simp
  · simp [twofoldLayout, IsWritten]
  · rintro (_ | _ | _ | _) <;> decide
  · decide
  · simpa using hmonths
  · simpa using hdigit

end Lapse.DateLayout
