import Lapse.Proofs.CommentStyle.Parts
import Lapse.Proofs.Regex.Embedding

/-!
# The frame of a note pattern

The pattern of a comment style is the filled template inside a group, with the openers and blanks in
front of it, and with blanks, the content and the end of the group behind it.
-/
namespace Lapse.CommentStyle

open Regex (CharSet repetition)
open Regex.Reader (State Item Level Opening Flags read? step? skip IsTail wordsLevel dotSet?
  lineStopLook)

/-- The frame behind the filled template. -/
def noteEnd : List Char := blanks ++ (namedGroup "content" ".+".toList ++ ['?', ')', '$'])

/-- The frame behind the class that it begins with. -/
def noteEndRest : List Char := '*' :: (namedGroup "content" ".+".toList ++ ['?', ')', '$'])

theorem noteEnd_eq :
    noteEnd = '[' :: '[' :: ':' :: ("space".toList ++ ':' :: ']' :: ']' :: noteEndRest) := by
  unfold noteEnd noteEndRest blanks
  simp

theorem isTail_noteEnd : IsTail noteEnd :=
  ⟨⟨'[', by simp, _, noteEnd_eq⟩, by decide +kernel⟩

def frameFlags (caseSensitive : Bool) : Flags := { ignoreCase := !caseSensitive }

/-- What stands before the outermost group. -/
def frameLevel (caseSensitive : Bool) : Level :=
  if caseSensitive then .new else Level.new.push ⟨.empty, 0, false⟩

def openersLevel (caseSensitive : Bool) (openers : List String) : Level :=
  wordsLevel (frameFlags caseSensitive) .new (openers.map String.toList)

def openersItem (caseSensitive : Bool) (openers : List String) : Item :=
  let inner := (openersLevel caseSensitive openers).close
  ⟨.group 2 (some "comment") inner.regex, inner.height + 1, true⟩

/-- The outermost group, as it is open while the template is read. -/
def frameParent (caseSensitive : Bool) : Level × Opening :=
  (frameLevel caseSensitive, ⟨some (1, some "annotation"), frameFlags caseSensitive⟩)

/-- Behind the openers. -/
def openersState (caseSensitive : Bool) (openers : List String) : State :=
  ⟨frameFlags caseSensitive, 2, ["comment", "annotation"],
    Level.new.push (openersItem caseSensitive openers), [frameParent caseSensitive]⟩

/-- In front of the template. -/
def templateState (caseSensitive : Bool) (openers : List String) : State :=
  (openersState caseSensitive openers).push (blankItem (frameFlags caseSensitive))

theorem frame_eq (caseSensitive : Bool) (openers filled : List Char) :
    frame caseSensitive openers filled =
      (if caseSensitive then [] else ['(', '?', 'i', ')']) ++
        ('(' :: '?' :: 'P' :: '<' :: ("annotation".toList ++ '>' ::
          (namedGroup "comment" openers ++ (blanks ++ (filled ++ noteEnd))))) := by
  have hcase : "(?i)".toList = ['(', '?', 'i', ')'] := by simp
  rw [frame, hcase, List.append_assoc, namedGroup_append]
  simp only [noteEnd, List.append_assoc, List.cons_append, List.nil_append]

/-- The frame in front of the filled template. -/
def noteStart (caseSensitive : Bool) (openers : List Char) : List Char :=
  (if caseSensitive then [] else "(?i)".toList) ++
    ("(?P<annotation>".toList ++ (namedGroup "comment" openers ++ blanks))

theorem frame_eq_append (caseSensitive : Bool) (openers filled : List Char) :
    frame caseSensitive openers filled =
      noteStart caseSensitive openers ++ (filled ++ noteEnd) := by
  have hopen (text : List Char) : "(?P<annotation>".toList ++ text =
      '(' :: '?' :: 'P' :: '<' :: ("annotation".toList ++ '>' :: text) := by
    simp
  have hcase : "(?i)".toList = ['(', '?', 'i', ')'] := by simp
  rw [frame_eq, noteStart, hcase, List.append_assoc, List.append_assoc, List.append_assoc, hopen]

theorem read?_ignoreCase (text : List Char) :
    read? .start ('(' :: '?' :: 'i' :: ')' :: text) =
      read? ⟨frameFlags false, 0, [], frameLevel false, []⟩ text := by
  have hstep : step? .start ('(' :: '?' :: 'i' :: ')' :: text) =
      some (⟨frameFlags false, 0, [], frameLevel false, []⟩, text) := rfl
  exact Regex.Reader.read?_of_step (.inl rfl) hstep (Nat.le_add_right _ 3)

theorem read?_frame (caseSensitive : Bool) (openers : List String) (filled : List Char) :
    read? .start (frame caseSensitive (alternation openers) filled) =
      read? (openersState caseSensitive openers) (blanks ++ (filled ++ noteEnd)) := by
  have hgroup : read? ⟨frameFlags caseSensitive, 0, [], frameLevel caseSensitive, []⟩
      ('(' :: '?' :: 'P' :: '<' :: ("annotation".toList ++ '>' ::
        (namedGroup "comment" (alternation openers) ++ (blanks ++ (filled ++ noteEnd))))) =
      read? (openersState caseSensitive openers) (blanks ++ (filled ++ noteEnd)) := by
    refine (Regex.Reader.read?_namedGroup (by decide +kernel) (by simp) _).trans ?_
    refine (read?_alternationGroup rfl (by decide +kernel)
      (show "comment" ∉ ["annotation"] by decide) openers _).trans ?_
    rfl
  rw [frame_eq]
  cases caseSensitive with
  | true => exact hgroup
  | false => exact (read?_ignoreCase _).trans hgroup

theorem read?_frame_of_head {filled : List Char} (h : filled.head? ≠ some '?')
    (caseSensitive : Bool) (openers : List String) :
    read? .start (frame caseSensitive (alternation openers) filled) =
      read? (templateState caseSensitive openers) (filled ++ noteEnd) := by
  rw [read?_frame]
  refine read?_blanks (openersState caseSensitive openers) ?_
  cases filled with
  | nil =>
    rw [noteEnd_eq]
    simp
  | cons c filled => exact h

/-- The items that stand in front of the template. -/
def frontItems (caseSensitive : Bool) (openers : List String) : List Item :=
  [blankItem (frameFlags caseSensitive), openersItem caseSensitive openers]

theorem within_templateState (caseSensitive : Bool) (openers : List String) :
    State.start.Within (frontItems caseSensitive openers) (frameParent caseSensitive)
      (templateState caseSensitive openers) := by
  refine ⟨⟨!caseSensitive, rfl, by simp [State.start]⟩, List.nil_subset _, .bottom ?_⟩
  exact ⟨.nil, [], .nil, by simp [State.start, Level.new, templateState, openersState, State.push,
    Level.push, frontItems]⟩

/-- The group of the content when a dot matches the characters of `set`. -/
def contentItem (s : State) (set : CharSet) : Item :=
  let inner := (contentLevel s.flags set).close
  (⟨.group (s.captures + 1) (some "content") inner.regex, inner.height + 1, true⟩ :
    Item).repeated s.flags 0 (some 1)

/-- The group that the frame ends. -/
def closingLevel (s : State) (set : CharSet) : Level :=
  s.level.pushAll [blankItem s.flags, contentItem s set]

/-- What stands outside when the group is ended and the frame is read to its end. -/
def closedLevel (level : Level) (opening : Opening) (inner : Level) : Level :=
  (level.push (opening.wrap inner.close)).push ⟨.look (lineStopLook opening.flags), 0, true⟩

theorem exists_of_read?_noteEnd {s s' : State} (h : read? s noteEnd = some s') :
    ∃ set level opening outer, s.outer = (level, opening) :: outer ∧
      s' = ⟨opening.flags, s.captures + 1, "content" :: s.names,
        closedLevel level opening (closingLevel s set), outer⟩ := by
  have hname : Regex.Reader.IsName "content".toList := by decide +kernel
  rw [noteEnd, read?_blanks s (by rw [namedGroup_append]; simp)] at h
  by_cases hnew : "content" ∈ s.names
  · rw [namedGroup_append, Regex.Reader.read?_takenName (s := s.push _) hname hnew] at h
    cases h
  cases hdot : dotSet? s.flags with
  | none =>
    have hstep : step? ((s.push (blankItem s.flags)).enterCapture (some "content"))
        ('.' :: '+' :: ')' :: ['?', ')', '$']) = none := by
      simp [step?, State.enterCapture, State.enter, hdot]
    have hcontent : ".+".toList ++ ')' :: ['?', ')', '$'] =
        '.' :: '+' :: ')' :: ['?', ')', '$'] := by simp
    rw [namedGroup_append, Regex.Reader.read?_namedGroup (s := s.push _) hname hnew, hcontent,
      Regex.Reader.read?_of_step_eq_none
        (.inr (by decide)) hstep] at h
    cases h
  | some set =>
    have hclosing : read? s' [] = read? { s with
        captures := s.captures + 1, names := "content" :: s.names, level := closingLevel s set }
        [')', '$'] := by
      rw [Regex.Reader.read?_nil, ← h, read?_content (s := s.push _) hdot hnew]
      exact Regex.Reader.read?_optional rfl (by simp)
    rw [Regex.Reader.read?_nil] at hclosing
    cases houter : s.outer with
    | nil =>
      rw [Regex.Reader.read?_of_step_eq_none
        (.inr (by decide))
        (by simp [step?, State.leave?, houter])] at hclosing
      cases hclosing
    | cons parent outer =>
      obtain ⟨level, opening⟩ := parent
      refine ⟨set, level, opening, outer, rfl, ?_⟩
      have hclose := State.leave?_of_outer (s := { s with
        captures := s.captures + 1
        names := "content" :: s.names
        level := closingLevel s set }) houter
      rw [Regex.Reader.read?_close hclose] at hclosing
      have hstop (s : State) : step? s ['$'] =
          some (s.push ⟨.look (lineStopLook s.flags), 0, true⟩, []) := rfl
      rw [Regex.Reader.read?_of_step
        (.inr (by decide)) (hstop _) (Nat.le_refl _),
        Regex.Reader.read?_nil] at hclosing
      exact Option.some.inj hclosing

end Lapse.CommentStyle
