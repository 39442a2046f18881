import Mathlib.Data.List.TakeWhile
import Lapse.DateLayout
import Lapse.Proofs.Regex.Reading

/-!
# Shapes of dates

A layout that is accepted is cut into pieces without loss: character by character, the pieces stand
for any digit where the layout has a digit or a field letter, and elsewhere for the character
itself.
-/
namespace Lapse.DateLayout

open Regex (CharSet)
open Regex.Reader (State Item Flags read? literal namedClass)

/-- What may stand in the place of a character of a layout: any digit for `none`. -/
def shapeOf (c : Char) : Option Char := if c.isDigit || isFieldLetter c then none else some c

/-- Whether a text has the shape of a layout. -/
def hasShape : (layout text : List Char) → Bool
  | [], [] => true
  | l :: layout, c :: text =>
    (match shapeOf l with
      | none => c.isDigit
      | some l => c = l) && hasShape layout text
  | _, _ => false

theorem length_of_hasShape {layout text : List Char} (h : hasShape layout text) :
    text.length = layout.length := by
  induction layout generalizing text with
  | nil =>
    cases text with
    | nil => rfl
    | cons c text => cases h
  | cons l layout ih =>
    cases text with
    | nil => cases h
    | cons c text =>
      rw [hasShape, Bool.and_eq_true] at h
      rw [List.length_cons, List.length_cons, ih h.2]

def pieceShape : LayoutPiece → List (Option Char)
  | .field _ width => List.replicate width none
  | .literal c => [if c.isDigit then none else some c]

theorem shapeOf_of_isDigit {c : Char} (h : c.isDigit) : shapeOf c = none := by
  simp [shapeOf, h]

theorem map_shapeOf_eq_replicate {word : List Char}
    (h : ∀ c ∈ word, shapeOf c = none) : word.map shapeOf = List.replicate word.length none := by
  rw [List.eq_replicate_iff]
  exact ⟨List.length_map _, by simpa using h⟩

theorem isDigit_of_mem_tokens {token : List Char} {kind : DateField} (h : (token, kind) ∈ tokens) :
    token ≠ [] ∧ ∀ c ∈ token, c.isDigit := by
  have hall : ∀ entry ∈ tokens, entry.1 ≠ [] ∧ entry.1.all Char.isDigit := by decide
  obtain ⟨hne, hdigits⟩ := hall (token, kind) h
  exact ⟨hne, List.all_eq_true.1 hdigits⟩

theorem eq_ok_of_map {ε α β : Type} {x : Except ε α} {f : α → β} {b : β} (h : x.map f = .ok b) :
    ∃ a, x = .ok a ∧ f a = b := by
  cases x with
  | error e => cases h
  | ok a =>
    cases h
    exact ⟨a, rfl, rfl⟩

/-- A layout that begins with a field as wide as `word`. -/
theorem map_shapeOf_of_prefix {c : Char} {word rest : List Char} (hword : word <+: c :: rest)
    (hne : word ≠ []) (h : ∀ c ∈ word, shapeOf c = none) :
    (c :: rest).map shapeOf =
      List.replicate word.length none ++ (rest.drop (word.length - 1)).map shapeOf := by
  obtain ⟨n, hn⟩ := Nat.exists_eq_succ_of_ne_zero (mt List.length_eq_zero_iff.1 hne)
  conv => lhs; rw [← List.prefix_iff_eq_append.1 hword]
  rw [List.map_append, map_shapeOf_eq_replicate h, hn]
  rfl

theorem flatMap_pieceShape {text : List Char} {pieces : List LayoutPiece}
    (h : cut text = .ok pieces) : pieces.flatMap pieceShape = text.map shapeOf := by
  fun_induction cut text generalizing pieces with
  | case1 =>
    cases h
    rfl
  | case2 c rest hdigit token kind hfind ih =>
    obtain ⟨others, hcut, rfl⟩ := eq_ok_of_map h
    obtain ⟨hne, hall⟩ := isDigit_of_mem_tokens (List.mem_of_find?_eq_some hfind)
    have hword : token <+: c :: rest := by simpa using List.find?_some hfind
    rw [List.flatMap_cons, ih hcut, map_shapeOf_of_prefix hword hne fun c hc =>
      shapeOf_of_isDigit (hall c hc)]
    rfl
  | case3 c rest hdigit hfind ih =>
    obtain ⟨others, hcut, rfl⟩ := eq_ok_of_map h
    rw [List.flatMap_cons, ih hcut, pieceShape, if_pos hdigit, List.map_cons,
      shapeOf_of_isDigit hdigit]
    rfl
  | case4 c rest hdigit hletter _ kind hrun =>
    rename_i ih
    obtain ⟨others, hcut, rfl⟩ := eq_ok_of_map h
    have hword : c :: rest.takeWhile (· = c) <+: c :: rest :=
      (List.prefix_cons_inj c).2 (List.takeWhile_prefix _)
    have hall : ∀ x ∈ c :: rest.takeWhile (· = c), shapeOf x = none := by
      intro x hx
      have hx : x = c := (List.mem_cons.1 hx).elim id fun hx => by
        simpa using List.mem_takeWhile_imp hx
      simp [shapeOf, hx, hletter]
    rw [List.flatMap_cons, ih hcut, map_shapeOf_of_prefix hword (List.cons_ne_nil _ _) hall]
    rfl
  | case5 => cases h
  | case6 c rest hdigit hletter ih =>
    obtain ⟨others, hcut, rfl⟩ := eq_ok_of_map h
    rw [List.flatMap_cons, ih hcut, pieceShape, if_neg hdigit, List.map_cons, shapeOf, if_neg]
    · rfl
    · simp [hdigit, hletter]

/-- The item of what may stand in one place. -/
def shapeItem (flags : Flags) : Option Char → Item
  | none => namedClass flags .asciiDigit
  | some c => literal flags c

theorem read?_digitPattern (s : State) (text : List Char) :
    read? s (digitPattern ++ text) = read? (s.push (shapeItem s.flags none)) text :=
  @Regex.Reader.read?_namedClass "digit" _ (by decide) (by decide) rfl s text

theorem read?_piecePattern {s : State} (h : s.flags.ignoreBlank = false) (piece : LayoutPiece)
    (text : List Char) :
    read? s (piecePattern piece ++ text) =
      read? (s.pushAll ((pieceShape piece).map (shapeItem s.flags))) text := by
  cases piece with
  | field kind width =>
    rw [piecePattern, pieceShape]
    induction width generalizing s with
    | zero => rfl
    | succ width ih =>
      rw [List.replicate_succ, List.flatten_cons, List.append_assoc, read?_digitPattern,
        ih (s := s.push _) h, List.replicate_succ, List.map_cons, State.pushAll_cons]
      rfl
  | literal c =>
    rw [piecePattern, pieceShape]
    split
    · exact read?_digitPattern s text
    · exact Regex.Reader.read?_escapeChar h c text

theorem read?_pattern {s : State} (h : s.flags.ignoreBlank = false) (layout : DateLayout)
    (text : List Char) :
    read? s (layout.pattern ++ text) =
      read? (s.pushAll ((layout.pieces.flatMap pieceShape).map (shapeItem s.flags))) text := by
  rw [pattern]
  induction layout.pieces generalizing s with
  | nil => rfl
  | cons piece pieces ih =>
    rw [List.flatMap_cons, List.append_assoc, read?_piecePattern h, ih (s := s.pushAll _) h,
      List.flatMap_cons, List.map_append, State.pushAll_append]
    rfl

theorem ofText_eq_ok_iff {text : List Char} {layout : DateLayout} :
    ofText text = .ok layout ↔
      (∀ c ∈ text, ¬ isUnsupported c) ∧ cut text = .ok layout.pieces := by
  rw [ofText]
  cases hfind : text.find? isUnsupported with
  | some c =>
    refine iff_of_false (by simp) fun h => ?_
    exact h.1 c (List.mem_of_find?_eq_some hfind) (List.find?_some hfind)
  | none =>
    rw [and_iff_right (List.find?_eq_none.1 hfind)]
    cases cut text with
    | error c => simp [Except.map]
    | ok pieces =>
      cases layout
      simp [Except.map]

theorem pieces_of_ofText {text : List Char} {layout : DateLayout} (h : ofText text = .ok layout) :
    layout.pieces.flatMap pieceShape = text.map shapeOf :=
  flatMap_pieceShape (ofText_eq_ok_iff.1 h).2

end Lapse.DateLayout
