import Lapse.Proofs.Regex.Captures
import Lapse.CommentStyle

/-!
# Reading lines

What a matcher makes of a line depends only on the captures of the first match in it, so that what a
note holds stands in its line. The notes of a text come in the order of their lines.
-/
namespace Lapse

/-- The opener, the tag and the content stand in the line as they are reported. -/
def Note.IsFrom (note : Note) (line : List Char) : Prop :=
  note.opener.toList <:+: line ∧ note.tag.toList <:+: line ∧ note.content.toList <:+: line

namespace Matcher

/-- The note of a line with these captures. -/
def noteOf (m : Matcher) (number : Nat) (line : List Char) (caps : Regex.Captures)
    (expiry : Option Calendar.Date) : Note where
  opener := String.ofList (captured caps m.roles.opener).text
  tag := String.ofList (captured caps m.roles.tag).text
  content := String.ofList (captured caps m.roles.content).text
  expiry := expiry
  line := number
  source := String.ofList (Text.trim line)

theorem readLine_of_search?_eq_none {m : Matcher} {line : List Char} (number : Nat)
    (h : m.regex.search? line = none) : m.readLine number line = .nothing := by
  rw [readLine, h]

theorem readLine_of_search?_eq_some {m : Matcher} {line : List Char} {caps : Regex.Captures}
    (number : Nat) (h : m.regex.search? line = some caps) :
    m.readLine number line =
      match (captured caps m.roles.expiry).text with
      | [] => .found (captured caps m.roles.whole) (m.noteOf number line caps none)
      | date =>
        match m.layout.readDate? date with
        | some expiry =>
          .found (captured caps m.roles.whole) (m.noteOf number line caps (some expiry))
        | none => .badDate (captured caps m.roles.whole) date := by
  rw [readLine, h]
  rfl

/-- A note is found through the captures of a match. -/
theorem exists_captures_of_readLine {m : Matcher} {number : Nat} {line : List Char}
    {matched : Regex.Capture} {note : Note} (h : m.readLine number line = .found matched note) :
    ∃ caps expiry, m.regex.search? line = some caps ∧ matched = captured caps m.roles.whole ∧
      note = m.noteOf number line caps expiry := by
  cases hsearch : m.regex.search? line with
  | none =>
    rw [readLine_of_search?_eq_none number hsearch] at h
    cases h
  | some caps =>
    rw [readLine_of_search?_eq_some number hsearch] at h
    split at h
    · cases h
      exact ⟨caps, none, rfl, rfl, rfl⟩
    · split at h
      · next expiry _ =>
        cases h
        exact ⟨caps, some expiry, rfl, rfl, rfl⟩
      · cases h

theorem exists_found_of_matchLine? {m : Matcher} {number : Nat} {line : List Char} {note : Note}
    (h : m.matchLine? number line = some note) :
    ∃ matched, m.readLine number line = .found matched note := by
  rw [matchLine?] at h
  cases hread : m.readLine number line with
  | nothing =>
    rw [hread] at h
    cases h
  | badDate matched date =>
    rw [hread] at h
    cases h
  | found matched other =>
    rw [hread] at h
    cases h
    exact ⟨matched, rfl⟩

theorem line_of_matchLine? {m : Matcher} {number : Nat} {line : List Char} {note : Note}
    (h : m.matchLine? number line = some note) : note.line = number := by
  obtain ⟨matched, hread⟩ := exists_found_of_matchLine? h
  obtain ⟨caps, expiry, -, -, rfl⟩ := exists_captures_of_readLine hread
  rfl

theorem isFrom_of_matchLine? {m : Matcher} {number : Nat} {line : List Char} {note : Note}
    (h : m.matchLine? number line = some note) : note.IsFrom line := by
  obtain ⟨matched, hread⟩ := exists_found_of_matchLine? h
  obtain ⟨caps, expiry, hsearch, -, rfl⟩ := exists_captures_of_readLine hread
  have hcaptured (index : Nat) : (captured caps index).text <:+: line := by
    rw [captured]
    cases hlookup : caps.lookup index with
    | none => exact List.nil_infix
    | some capture =>
      obtain ⟨front, back, rfl, -⟩ := List.lookup_eq_some_iff.1 hlookup
      exact Regex.text_infix_of_search? hsearch (List.mem_append_right _ List.mem_cons_self)
  simp only [Note.IsFrom, noteOf, String.toList_ofList]
  exact ⟨hcaptured _, hcaptured _, hcaptured _⟩

/-- The notes of a text stand in the order of their lines, at most one on each. -/
theorem pairwise_matchLines (m : Matcher) (text : List Char) :
    (m.matchLines text).Pairwise fun a b => a.line < b.line := by
  have hlines : (Text.numberedLines text).Pairwise fun a b => a.1 < b.1 := by
    rw [Text.numberedLines, List.pairwise_iff_getElem]
    intro i j hi hj hij
    simpa using hij
  refine List.pairwise_filterMap.2 (hlines.imp fun {a b} hab note hnote other hother => ?_)
  rw [line_of_matchLine? hnote, line_of_matchLine? hother]
  exact hab

end Matcher

end Lapse
