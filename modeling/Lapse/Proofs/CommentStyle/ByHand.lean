import Mathlib
import Lapse.Proofs.CommentStyle.DefaultPattern
import Lapse.Proofs.Matcher
import Lapse.Proofs.Regex.FirstWay
import Lapse.Regex.Size

/-!
# Reading notes by hand

A reader for the notes of the default template that is written without patterns: it tries start
places, openers, runs of blanks and tags one after the other and takes the first combination that
fits. The compiled matcher finds exactly its notes.
-/
namespace Lapse.ByHand

open Regex (CharSet Cursor Capture Captures firstOf takes downFrom runLength)
open CommentStyle (defaultRegex noteRegex bracketRegex shapeRegex wordsRegex blankSet lineSet
  shapeSet)

/-- The parts of a note, as written. -/
structure Parts where
  opener : List Char
  tag : List Char
  /-- Empty without a date. -/
  date : List Char
  content : List Char
  deriving DecidableEq, Repr

/-- The text behind `word`, when the text begins with it. -/
def behind? (word text : List Char) : Option (List Char) :=
  if word.isPrefixOf text then some (text.drop word.length) else none

/-- A date of the layout's shape with a closing bracket behind it, and the text after that. -/
def closedDate? (layoutText text : List Char) : Option (List Char × List Char) :=
  if DateLayout.hasShape layoutText (text.take layoutText.length) then
    (behind? [']'] (text.drop layoutText.length)).map fun rest =>
      (text.take layoutText.length, rest)
  else none

/-- The date in brackets that the text begins with, and the text after it. Empty brackets are taken
without a date; where there are no brackets nothing is taken. -/
def bracketedDate (layoutText text : List Char) : List Char × List Char :=
  let taken := (behind? ['['] text).bind fun inner =>
    (closedDate? layoutText inner).or ((behind? [']'] inner).map fun rest => ([], rest))
  taken.getD ([], text)

/-- The parts of a note whose opener and tag are known, from the text behind the tag. -/
def partsBehind (layoutText opener tag text : List Char) : Parts :=
  let (date, rest) := bracketedDate layoutText text
  ⟨opener, tag, date, rest.dropWhile Text.isAsciiBlank⟩

/-- How many ASCII blanks a text begins with. -/
def blankCount (text : List Char) : Nat := (text.takeWhile Text.isAsciiBlank).length

/-- The first fit at the beginning of a text: openers in their order, for each the runs of blanks
from the longest to none, for each the tags in their order. -/
def partsAt (openers tags : List (List Char)) (layoutText text : List Char) : Option Parts :=
  openers.findSome? fun opener =>
    (behind? opener text).bind fun rest =>
      (downFrom (blankCount rest)).findSome? fun blanks =>
        tags.findSome? fun tag =>
          (behind? tag (rest.drop blanks)).map (partsBehind layoutText opener tag)

/-- The first fit in a line, the leftmost start first. -/
def parts? (openers tags : List (List Char)) (layoutText : List Char) : List Char → Option Parts
  | [] => partsAt openers tags layoutText []
  | c :: text =>
    (partsAt openers tags layoutText (c :: text)).or (parts? openers tags layoutText text)

/-- The note of these parts, unless they hold a date that is none. -/
def note? (layout : DateLayout) (number : Nat) (line : List Char) (parts : Parts) : Option Note :=
  let note (expiry : Option Calendar.Date) : Note :=
    { opener := String.ofList parts.opener
      tag := String.ofList parts.tag
      content := String.ofList parts.content
      expiry
      line := number
      source := String.ofList (Text.trim line) }
  match parts.date with
  | [] => some (note none)
  | date => (layout.readDate? date).map fun expiry => note (some expiry)

def readNote? (openers tags : List String) (layoutText : String) (layout : DateLayout)
    (number : Nat) (line : List Char) : Option Note :=
  (parts? (openers.map String.toList) (tags.map String.toList) layoutText.toList line).bind
    (note? layout number line)

theorem takes_singletons (word text : List Char) :
    takes (word.map .singleton) text = word.isPrefixOf text := by
  induction word generalizing text with
  | nil => cases text <;> rfl
  | cons c word ih =>
    cases text with
    | nil => rfl
    | cons x text =>
      rw [List.map_cons, takes, ih, CharSet.mem_singleton, List.isPrefixOf, BEq.comm]

theorem mem_anyDigit (c : Char) : (shapeSet none).mem c = c.isDigit := by
  rw [Bool.eq_iff_iff]
  simp [shapeSet, CharSet.mem, CharSet.asciiDigit, Char.isDigit, Char.le_def]

theorem takes_shape (layoutText text : List Char) :
    takes ((layoutText.map DateLayout.shapeOf).map shapeSet) text =
      DateLayout.hasShape layoutText (text.take layoutText.length) := by
  induction layoutText generalizing text with
  | nil => rfl
  | cons l layoutText ih =>
    cases text with
    | nil => rfl
    | cons c text =>
      rw [List.map_cons, List.map_cons, takes, ih, List.length_cons, List.take_succ_cons,
        DateLayout.hasShape]
      congr 1
      cases DateLayout.shapeOf l with
      | none => exact mem_anyDigit c
      | some l =>
        rw [shapeSet, CharSet.mem_singleton]
        rfl

theorem mem_blankSet : blankSet.mem = Text.isAsciiBlank := by
  funext c
  rw [Bool.eq_iff_iff]
  simp [blankSet, CharSet.asciiBlank, CharSet.mem, Text.isAsciiBlank]

theorem runLength_blankSet (text : List Char) : runLength blankSet text = blankCount text := by
  rw [runLength, mem_blankSet, blankCount]

theorem firstOf_wordsRegex {α : Type} (words : List String) (p : Cursor)
    (k : Cursor → Captures → Option α) (caps : Captures) :
    firstOf ((wordsRegex words).ways p) k caps =
      (words.map String.toList).findSome? fun word =>
        if word.isPrefixOf p.after then k (p.advance word.length) caps else none := by
  rw [wordsRegex, Regex.firstOf_choice, List.findSome?_map]
  congr 1
  funext word
  have hsets : Regex.Reader.wordRegex {} word =
      Regex.sequence ((word.map CharSet.singleton).map .set) := by
    rw [Regex.Reader.wordRegex, List.map_map]
    rfl
  rw [Function.comp_apply, hsets, Regex.firstOf_sets, takes_singletons, List.length_map]

/-- The captures of a match from `start` whose note ends at `p`, the end of the line. -/
def finish (start p : Cursor) (caps : Captures) : Option Captures :=
  if p.after = [] then some ((0, start.captureTo p) :: (1, start.captureTo p) :: caps) else none

theorem firstOf_defaultRegex (openers tags : List String) (layoutText : List Char) (p : Cursor) :
    firstOf ((defaultRegex openers tags layoutText).ways p)
      (fun q caps => some ((0, p.captureTo q) :: caps)) [] =
      firstOf ((noteRegex openers tags layoutText).ways p) (finish p) [] := by
  rw [defaultRegex, Regex.firstOf_sequence_cons, Regex.firstOf_group]
  congr 1
  funext q caps
  have hlast : Regex.sequence [Regex.look .stop] = Regex.look .stop := rfl
  rw [hlast, Regex.firstOf_look, finish]
  cases h : q.after <;> simp [Regex.Look.holds, h]

/-- What a match has captured of a note. -/
def Captured (caps : Captures) (index : Nat) (text : List Char) : Prop :=
  (Matcher.captured caps index).text = text

/-- The captures of the opener, the tag and the date are the same. -/
def SameFront (caps others : Captures) : Prop :=
  ∀ index, index = 2 ∨ index = 3 ∨ index = 4 → caps.lookup index = others.lookup index

/-- Blanks are dropped and the rest of the line is the content. -/
theorem exists_firstOf_ending {p : Cursor} {caps : Captures} (hline : '\n' ∉ p.after)
    (hnew : caps.lookup 5 = none) (start : Cursor) :
    ∃ found, firstOf ((Regex.sequence [.repeated (.set blankSet) 0 none true,
        .repeated (.group 5 (some "content") (.repeated (.set lineSet) 1 none true)) 0 (some 1)
          true]).ways p) (finish start) caps = some found ∧
      Captured found 5 (p.after.dropWhile Text.isAsciiBlank) ∧ SameFront found caps := by
  have hafter : (p.advance (blankCount p.after)).after = p.after.dropWhile Text.isAsciiBlank := by
    have hsplit : p.after.takeWhile Text.isAsciiBlank ++ p.after.dropWhile Text.isAsciiBlank =
        p.after := List.takeWhile_append_dropWhile
    rw [Cursor.after_advance, blankCount]
    conv => lhs; arg 2; rw [← hsplit]
    rw [List.drop_left]
  generalize hq : p.advance (blankCount p.after) = q at hafter
  rw [← hafter]
  have hall : ∀ c ∈ q.after, lineSet.mem c := by
    intro c hc
    rw [hafter] at hc
    have hmem : c ∈ p.after := List.dropWhile_subset _ hc
    have hne : c ≠ '\n' := fun e => hline (e ▸ hmem)
    simpa [lineSet, CharSet.mem] using hne
  have hcontent : ∃ found, firstOf ((Regex.repeated
      (.group 5 (some "content") (.repeated (.set lineSet) 1 none true)) 0 (some 1) true).ways q)
      (finish start) caps = some found ∧ Captured found 5 q.after ∧ SameFront found caps := by
    rw [Regex.firstOf_optional, Regex.firstOf_group]
    by_cases hempty : q.after = []
    · rw [Regex.firstOf_some_run_of_nil _ hempty, Option.none_or, finish, if_pos hempty]
      refine ⟨_, rfl, ?_, ?_⟩
      · simp [Captured, Matcher.captured, List.lookup, hnew, hempty]
      · rintro index (rfl | rfl | rfl) <;> rfl
    · have hend : (q.advance q.after.length).after = [] := by simp
      rw [Regex.firstOf_some_run hempty hall (if_pos hend), Option.some_or]
      refine ⟨_, rfl, ?_, ?_⟩
      · simp [Captured, Matcher.captured, List.lookup, Regex.Cursor.text_captureTo_advance]
      · rintro index (rfl | rfl | rfl) <;> rfl
  obtain ⟨found, hfound, hrest⟩ := hcontent
  refine ⟨found, ?_, hrest⟩
  rw [Regex.firstOf_sequence_cons]
  refine Regex.firstOf_run_of_isSome ?_
  rw [runLength_blankSet, hq]
  exact hfound

theorem not_mem_after_advance {c : Char} {p : Cursor} (h : c ∉ p.after) (n : Nat) :
    c ∉ (p.advance n).after := by
  rw [Cursor.after_advance]
  exact fun hmem => h (List.mem_of_mem_drop hmem)

/-- One character that stands for itself. -/
theorem firstOf_character {α : Type} (c : Char) (p : Cursor) (k : Cursor → Captures → Option α)
    (caps : Captures) :
    firstOf ((Regex.set (.singleton c)).ways p) k caps =
      if [c].isPrefixOf p.after then k (p.advance 1) caps else none := by
  have hsets := Regex.firstOf_sets [.singleton c] p k caps
  have htakes : takes [.singleton c] p.after = [c].isPrefixOf p.after :=
    takes_singletons [c] p.after
  rwa [htakes] at hsets

theorem firstOf_bracketRegex {α : Type} (layoutText : List Char) (p : Cursor)
    (k : Cursor → Captures → Option α) (caps : Captures) :
    firstOf ((bracketRegex layoutText).ways p) k caps =
      if ['['].isPrefixOf p.after then
        (if DateLayout.hasShape layoutText ((p.advance 1).after.take layoutText.length) then
          if [']'].isPrefixOf ((p.advance 1).advance layoutText.length).after then
            k (((p.advance 1).advance layoutText.length).advance 1)
              ((4, (p.advance 1).captureTo ((p.advance 1).advance layoutText.length)) :: caps)
          else none
        else none).or
          (if [']'].isPrefixOf (p.advance 1).after then
            k ((p.advance 1).advance 1) ((4, (p.advance 1).captureTo (p.advance 1)) :: caps)
          else none)
      else none := by
  have hlast : Regex.sequence [Regex.set (.singleton ']')] = Regex.set (.singleton ']') := rfl
  rw [bracketRegex, Regex.firstOf_sequence_cons, firstOf_character]
  congr 1
  rw [Regex.firstOf_sequence_cons, Regex.firstOf_group, Regex.firstOf_optional, shapeRegex,
    Regex.firstOf_sets, takes_shape, hlast, firstOf_character, firstOf_character]
  simp only [List.length_map]

theorem bracketedDate_of_date {layoutText text : List Char} (hopen : ['['].isPrefixOf text)
    (hshape : DateLayout.hasShape layoutText ((text.drop 1).take layoutText.length))
    (hclose : [']'].isPrefixOf ((text.drop 1).drop layoutText.length)) :
    bracketedDate layoutText text = ((text.drop 1).take layoutText.length,
      ((text.drop 1).drop layoutText.length).drop 1) := by
  rw [bracketedDate, behind?, if_pos hopen, Option.bind_some, List.length_singleton, closedDate?,
    if_pos hshape, behind?, if_pos hclose]
  rfl

theorem bracketedDate_of_no_date {layoutText text : List Char} (hopen : ['['].isPrefixOf text)
    (h : ¬ (DateLayout.hasShape layoutText ((text.drop 1).take layoutText.length) ∧
      [']'].isPrefixOf ((text.drop 1).drop layoutText.length))) :
    bracketedDate layoutText text =
      if [']'].isPrefixOf (text.drop 1) then ([], (text.drop 1).drop 1) else ([], text) := by
  have hnone : closedDate? layoutText (text.drop 1) = none := by
    rw [closedDate?]
    split
    · next hshape => rw [behind?, if_neg fun hclose => h ⟨hshape, hclose⟩, Option.map_none]
    · rfl
  rw [bracketedDate, behind?, if_pos hopen, Option.bind_some, List.length_singleton, hnone,
    Option.none_or, behind?]
  split <;> rfl

theorem bracketedDate_of_not_open {layoutText text : List Char}
    (hopen : ¬ ['['].isPrefixOf text) : bracketedDate layoutText text = ([], text) := by
  rw [bracketedDate, behind?, if_neg hopen]
  rfl

theorem bracketedDate_suffix (layoutText text : List Char) :
    (bracketedDate layoutText text).2 <:+ text := by
  have hdrop (n : Nat) (text : List Char) : text.drop n <:+ text := List.drop_suffix n text
  by_cases hopen : ['['].isPrefixOf text
  case neg => exact bracketedDate_of_not_open hopen ▸ List.suffix_refl text
  by_cases hdate : DateLayout.hasShape layoutText ((text.drop 1).take layoutText.length) ∧
      [']'].isPrefixOf ((text.drop 1).drop layoutText.length)
  · rw [bracketedDate_of_date hopen hdate.1 hdate.2]
    exact (hdrop _ _).trans ((hdrop _ _).trans (hdrop _ _))
  · rw [bracketedDate_of_no_date hopen hdate]
    split
    · exact (hdrop _ _).trans (hdrop _ _)
    · exact List.suffix_refl text

/-- What follows the tag: the date in brackets if there is one, and then what follows it. -/
theorem exists_firstOf_bracket {α : Type} {k : Cursor → Captures → Option α} {caps : Captures}
    (hk : ∀ q first, '\n' ∉ q.after → ∃ a, k q ((4, first) :: caps) = some a)
    (layoutText : List Char) {p : Cursor} (hline : '\n' ∉ p.after)
    (hnew : caps.lookup 4 = none) :
    ∃ q others, firstOf ((Regex.repeated (bracketRegex layoutText) 0 (some 1) true).ways p) k caps =
        k q others ∧
      q.after = (bracketedDate layoutText p.after).2 ∧
      Captured others 4 (bracketedDate layoutText p.after).1 ∧
      ∀ index, index ≠ 4 → others.lookup index = caps.lookup index := by
  have hlookup (first : Capture) (index : Nat) (h : index ≠ 4) :
      List.lookup index ((4, first) :: caps) = caps.lookup index := by
    rw [List.lookup, beq_false_of_ne h]
  have hor {q : Cursor} (hq : '\n' ∉ q.after) (first : Capture) (x : Option α) :
      (k q ((4, first) :: caps)).or x = k q ((4, first) :: caps) := by
    obtain ⟨a, ha⟩ := hk q first hq
    rw [ha, Option.some_or]
  have hempty : Captured caps 4 [] := by simp [Captured, Matcher.captured, hnew]
  have hinner : (p.advance 1).after = p.after.drop 1 := Cursor.after_advance p 1
  rw [Regex.firstOf_optional, firstOf_bracketRegex]
  by_cases hopen : ['['].isPrefixOf p.after
  case neg =>
    rw [if_neg hopen, bracketedDate_of_not_open hopen, Option.none_or]
    exact ⟨p, caps, rfl, rfl, hempty, fun _ _ => rfl⟩
  generalize hq : (p.advance 1).advance layoutText.length = q
  have hclosing : q.after = (p.advance 1).after.drop layoutText.length := by
    rw [← hq, Cursor.after_advance]
  rw [if_pos hopen, hclosing, hinner]
  by_cases hdate : DateLayout.hasShape layoutText ((p.after.drop 1).take layoutText.length) ∧
      [']'].isPrefixOf ((p.after.drop 1).drop layoutText.length)
  · refine ⟨q.advance 1, (4, (p.advance 1).captureTo q) :: caps, ?_, ?_, ?_, hlookup _⟩
    · have hend : '\n' ∉ (q.advance 1).after := hq ▸
        not_mem_after_advance (not_mem_after_advance (not_mem_after_advance hline 1) _) 1
      simp only [if_pos hdate.1, if_pos hdate.2, hor hend]
    · rw [bracketedDate_of_date hopen hdate.1 hdate.2, Cursor.after_advance, hclosing, hinner]
    · have hlength : layoutText.length ≤ (p.advance 1).after.length := by
        have htaken := DateLayout.length_of_hasShape hdate.1
        rw [hinner]
        rw [List.length_take] at htaken
        omega
      rw [bracketedDate_of_date hopen hdate.1 hdate.2, ← hq, ← hinner,
        ← Cursor.text_captureTo_advance hlength]
      rfl
  · have hnone (x : Option α) : (if DateLayout.hasShape layoutText
        ((p.after.drop 1).take layoutText.length) then
          if [']'].isPrefixOf ((p.after.drop 1).drop layoutText.length) then x else none
        else none) = none := by
      split
      · next hshape => exact if_neg fun hclose => hdate ⟨hshape, hclose⟩
      · rfl
    simp only [hnone, Option.none_or]
    rw [bracketedDate_of_no_date hopen hdate]
    split
    · refine ⟨(p.advance 1).advance 1, (4, (p.advance 1).captureTo (p.advance 1)) :: caps,
        hor (not_mem_after_advance (not_mem_after_advance hline 1) 1) _ _, ?_, ?_, hlookup _⟩
      · rw [Cursor.after_advance, hinner]
      · simp [Captured, Matcher.captured, Cursor.captureTo]
    · exact ⟨p, caps, Option.none_or, rfl, hempty, fun _ _ => rfl⟩

/-- The captures of a match are those of these parts. -/
structure Agrees (caps : Captures) (parts : Parts) : Prop where
  opener : Captured caps 2 parts.opener
  tag : Captured caps 3 parts.tag
  date : Captured caps 4 parts.date
  content : Captured caps 5 parts.content

theorem captured_of_lookup_eq {caps others : Captures} {index : Nat} {text : List Char}
    (h : caps.lookup index = others.lookup index) (hothers : Captured others index text) :
    Captured caps index text := by
  rw [Captured, Matcher.captured, h]
  exact hothers

/-- What follows opener and tag. -/
theorem exists_agrees {start p : Cursor} {first second : Capture} (hline : '\n' ∉ p.after)
    (layoutText : List Char) :
    ∃ found, firstOf ((Regex.sequence [.repeated (bracketRegex layoutText) 0 (some 1) true,
        .repeated (.set blankSet) 0 none true,
        .repeated (.group 5 (some "content") (.repeated (.set lineSet) 1 none true)) 0 (some 1)
          true]).ways p) (finish start) [(3, second), (2, first)] = some found ∧
      Agrees found (partsBehind layoutText first.text second.text p.after) := by
  rw [Regex.firstOf_sequence_cons]
  have hend (q : Cursor) (date : Capture) (hq : '\n' ∉ q.after) :=
    exists_firstOf_ending hq
      (show List.lookup 5 [(4, date), (3, second), (2, first)] = none from rfl) start
  obtain ⟨q, others, hfirst, hrest, hdate, hsame⟩ := exists_firstOf_bracket
    (fun q date hq => (hend q date hq).imp fun _ h => h.1) layoutText hline rfl
  have hq : '\n' ∉ q.after := by
    rw [hrest]
    exact fun h => hline ((bracketedDate_suffix _ _).subset h)
  obtain ⟨found, hfound, hcontent, hfront⟩ := exists_firstOf_ending hq (hsame 5 (by decide)) start
  refine ⟨found, hfirst.trans hfound, ?_, ?_, ?_, ?_⟩
  · exact captured_of_lookup_eq ((hfront 2 (.inl rfl)).trans (hsame 2 (by decide))) rfl
  · exact captured_of_lookup_eq ((hfront 3 (.inr (.inl rfl))).trans (hsame 3 (by decide))) rfl
  · exact captured_of_lookup_eq (hfront 4 (.inr (.inr rfl))) hdate
  · rw [hrest] at hcontent
    exact hcontent

/-- At one place the pattern finds what is found by hand. -/
theorem rel_noteRegex (openers tags : List String) (layoutText : List Char) {p : Cursor}
    (hline : '\n' ∉ p.after) :
    Option.Rel Agrees (firstOf ((noteRegex openers tags layoutText).ways p) (finish p) [])
      (partsAt (openers.map String.toList) (tags.map String.toList) layoutText p.after) := by
  have hcaptured {p : Cursor} {word : List Char} (h : word.isPrefixOf p.after) :
      (p.captureTo (p.advance word.length)).text = word := by
    have hprefix := List.isPrefixOf_iff_prefix.1 h
    rw [Cursor.text_captureTo_advance hprefix.length_le]
    exact (List.prefix_iff_eq_take.1 hprefix).symm
  rw [noteRegex, Regex.firstOf_sequence_cons, Regex.firstOf_group, firstOf_wordsRegex, partsAt]
  refine Regex.rel_findSome? fun opener _ => ?_
  rw [behind?]
  by_cases hopener : opener.isPrefixOf p.after
  case neg =>
    rw [if_neg hopener, if_neg hopener]
    exact .none
  rw [if_pos hopener, if_pos hopener, Option.bind_some, ← Cursor.after_advance,
    Regex.firstOf_sequence_cons, Regex.firstOf_run, runLength_blankSet]
  refine Regex.rel_findSome? fun blanks _ => ?_
  rw [Regex.firstOf_sequence_cons, Regex.firstOf_group, firstOf_wordsRegex, ← Cursor.after_advance]
  refine Regex.rel_findSome? fun tag _ => ?_
  generalize hq : (p.advance opener.length).advance blanks = q
  have hlineq : '\n' ∉ q.after := hq ▸ not_mem_after_advance (not_mem_after_advance hline _) _
  rw [behind?]
  by_cases htag : tag.isPrefixOf q.after
  case neg =>
    rw [if_neg htag, if_neg htag]
    exact .none
  obtain ⟨found, hfound, hagrees⟩ := @exists_agrees p (q.advance tag.length)
    (p.captureTo (p.advance opener.length)) (q.captureTo (q.advance tag.length))
    (not_mem_after_advance hlineq _) layoutText
  rw [hcaptured hopener, hcaptured htag, Cursor.after_advance] at hagrees
  rw [if_pos htag, if_pos htag, hfound]
  exact .some hagrees

/-- In a line the pattern finds what is found by hand. -/
theorem rel_search? {openers tags : List String} {layoutText : List Char}
    (hplain : (defaultRegex openers tags layoutText).isPlain) {line : List Char}
    (hline : '\n' ∉ line) :
    Option.Rel Agrees ((defaultRegex openers tags layoutText).search? line)
      (parts? (openers.map String.toList) (tags.map String.toList) layoutText line) := by
  have hplace {p : Cursor} (hp : '\n' ∉ p.after) :
      Option.Rel Agrees ((defaultRegex openers tags layoutText).matchAt? p)
        (partsAt (openers.map String.toList) (tags.map String.toList) layoutText p.after) := by
    rw [Regex.matchAt?_eq_firstOf hplain, firstOf_defaultRegex]
    exact rel_noteRegex openers tags layoutText hp
  rw [Regex.search?]
  generalize 0 = position
  generalize (none : Option Char) = previous
  induction line generalizing position previous with
  | nil => exact hplace (p := ⟨position, previous, []⟩) hline
  | cons c line ih =>
    rw [Regex.searchFrom_cons, parts?]
    exact Regex.rel_or (hplace (p := ⟨position, previous, c :: line⟩) hline)
      (ih (fun h => hline (List.mem_cons_of_mem _ h)) (position + 1) (some c))

theorem isPlain_sequence {rs : List Regex} (h : ∀ r ∈ rs, r.isPlain) :
    (Regex.sequence rs).isPlain := by
  induction rs with
  | nil => rfl
  | cons r rs ih =>
    have hfirst := h r List.mem_cons_self
    cases rs with
    | nil => exact hfirst
    | cons s rs =>
      have hrest := ih fun x hx => h x (List.mem_cons_of_mem _ hx)
      rw [Regex.sequence, Regex.isPlain, Bool.and_eq_true]
      · exact ⟨hfirst, hrest⟩
      · simp

theorem isPlain_choice {rs : List Regex} (h : ∀ r ∈ rs, r.isPlain) :
    (Regex.choice rs).isPlain := by
  induction rs with
  | nil => rfl
  | cons r rs ih =>
    have hfirst := h r List.mem_cons_self
    cases rs with
    | nil => exact hfirst
    | cons s rs =>
      have hrest := ih fun x hx => h x (List.mem_cons_of_mem _ hx)
      rw [Regex.choice, Regex.isPlain, Bool.and_eq_true]
      · exact ⟨hfirst, hrest⟩
      · simp

theorem isPlain_defaultRegex (openers tags : List String) (layoutText : List Char) :
    (defaultRegex openers tags layoutText).isPlain := by
  have hsets (sets : List CharSet) : (Regex.sequence (sets.map Regex.set)).isPlain :=
    isPlain_sequence (by simp [Regex.isPlain])
  have hwords (words : List String) : (wordsRegex words).isPlain := by
    refine isPlain_choice fun r hr => ?_
    obtain ⟨word, -, rfl⟩ := List.mem_map.1 hr
    exact isPlain_sequence (by simp [Regex.isPlain])
  have hshape : (shapeRegex layoutText).isPlain := hsets _
  have hbracket : (bracketRegex layoutText).isPlain :=
    isPlain_sequence (by simp [Regex.isPlain, hshape])
  have hnote : (noteRegex openers tags layoutText).isPlain :=
    isPlain_sequence (by simp [Regex.isPlain, hwords, hbracket, Regex.consumes, Regex.choices])
  exact isPlain_sequence (by simp [Regex.isPlain, hnote])

/-- A matcher whose search agrees with the parts of a note gives the note of these parts. -/
theorem matchLine?_of_rel {m : Matcher} (hroles : m.roles = ⟨1, 2, 3, 4, 5, true⟩)
    {line : List Char} {parts : Option Parts}
    (h : Option.Rel Agrees (m.regex.search? line) parts) (number : Nat) :
    m.matchLine? number line = parts.bind (note? m.layout number line) := by
  generalize hsearch : m.regex.search? line = found at h
  rw [Matcher.matchLine?]
  cases h with
  | none =>
    rw [Matcher.readLine_of_search?_eq_none number hsearch]
    rfl
  | @some caps parts hagrees =>
    have hnote (expiry : Option Calendar.Date) : m.noteOf number line caps expiry =
        { opener := String.ofList parts.opener
          tag := String.ofList parts.tag
          content := String.ofList parts.content
          expiry
          line := number
          source := String.ofList (Text.trim line) } := by
      rw [Matcher.noteOf, hroles, hagrees.opener, hagrees.tag, hagrees.content]
    have hdate : (Matcher.captured caps m.roles.expiry).text = parts.date := by
      rw [hroles, hagrees.date]
    rw [Matcher.readLine_of_search?_eq_some number hsearch, hdate, Option.bind_some, note?]
    cases parts.date with
    | nil => exact congrArg some (hnote none)
    | cons c date =>
      cases hread : m.layout.readDate? (c :: date) with
      | none => simp [hread, LineReading.note?]
      | some expiry => simp [hread, LineReading.note?, hnote]

/-- For the default template with case kept, the matcher that is compiled reads every line as the
reader by hand does. -/
theorem matchLine?_eq_readNote? [Regex.SizeLimit] {openers tags : List String} {layoutText : String}
    {layout : DateLayout} (hopeners : openers ≠ []) (htags : tags ≠ [])
    (hlayout : DateLayout.ofText layoutText.toList = .ok layout)
    (hsize : Regex.SizeLimit.admits (defaultRegex openers tags layoutText.toList) = true) :
    ∃ m, CommentStyle.compile
        ⟨openers, tags, Settings.default.style.template, layoutText, true⟩ = .ok m ∧
      ∀ (number : Nat) (line : List Char), '\n' ∉ line →
        m.matchLine? number line = readNote? openers tags layoutText layout number line := by
  obtain ⟨m, hcompile, hregex, hroles, rfl⟩ :=
    CommentStyle.compile_default hopeners htags hlayout hsize
  refine ⟨m, hcompile, fun number line hline => matchLine?_of_rel hroles ?_ number⟩
  rw [hregex]
  exact rel_search? (isPlain_defaultRegex openers tags layoutText.toList) hline

/-- A line of the default style with code before the comment. -/
theorem matchLine?_of_hash_comment :
    ∃ m, CommentStyle.compile
        ⟨["//", "#"], ["TODO", "FIXME"], Settings.default.style.template, "2006-01-02", true⟩ =
          .ok m ∧
      m.matchLine? 3 "x = 1 #  FIXME[2030-01-31]  drop it".toList =
        some ⟨"#", "FIXME", "drop it", Calendar.Date.of? 2030 1 31, 3,
          "x = 1 #  FIXME[2030-01-31]  drop it"⟩ := by
  have hlayout : DateLayout.ofText "2006-01-02".toList =
      .ok ⟨[.field .year 4, .literal '-', .field .month 2, .literal '-', .field .day 2]⟩ := by
    cbv
  have hsize : Regex.SizeLimit.admits
      (defaultRegex ["//", "#"] ["TODO", "FIXME"] "2006-01-02".toList) = true := by
    decide +kernel
  obtain ⟨m, hcompile, hread⟩ := matchLine?_eq_readNote? (by decide) (by decide) hlayout hsize
  exact ⟨m, hcompile, (hread 3 _ (by decide)).trans (by decide +kernel)⟩

end Lapse.ByHand
