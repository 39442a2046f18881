import Lapse.Proofs.CommentStyle.DefaultPattern
import Lapse.Proofs.Matcher
import Lapse.Proofs.Text.Lines
import Lapse.Regex.Size

/-!
# Notes line by line

A note depends on its own line only. Whole lines in front of a text move its notes down, the notes
of those lines come first, and the way lines end has no part in what is found.
-/
namespace Lapse

/-- The note with its line so many lines further down. -/
def Note.movedBy (note : Note) (k : Nat) : Note := { note with line := note.line + k }

namespace Matcher

theorem readLine_add (m : Matcher) (number k : Nat) (line : List Char) :
    m.readLine (number + k) line =
      match m.readLine number line with
      | .nothing => .nothing
      | .badDate matched date => .badDate matched date
      | .found matched note => .found matched (note.movedBy k) := by
  cases hsearch : m.regex.search? line with
  | none => rw [readLine_of_search?_eq_none _ hsearch, readLine_of_search?_eq_none _ hsearch]
  | some caps =>
    rw [readLine_of_search?_eq_some _ hsearch, readLine_of_search?_eq_some _ hsearch]
    split
    · rfl
    · cases m.layout.readDate? (captured caps m.roles.expiry).text <;> rfl

/-- The number of a line is written into its note and decides nothing. -/
theorem matchLine?_add (m : Matcher) (number k : Nat) (line : List Char) :
    m.matchLine? (number + k) line = (m.matchLine? number line).map (·.movedBy k) := by
  rw [matchLine?, matchLine?, readLine_add]
  cases m.readLine number line <;> rfl

theorem matchLines_append (m : Matcher) {front : List Char} (h : Text.IsWhole front)
    (back : List Char) :
    m.matchLines (front ++ back) =
      m.matchLines front ++ (m.matchLines back).map (·.movedBy (front.count '\n')) := by
  rw [matchLines, Text.numberedLines_append h, List.filterMap_append, List.filterMap_map,
    matchLines, matchLines, List.map_filterMap]
  refine congrArg _ (congrArg (List.filterMap · _) (funext fun entry => ?_))
  exact m.matchLine?_add entry.1 _ entry.2

theorem matchLines_withReturns (m : Matcher) {text : List Char} (h : '\r' ∉ text) :
    m.matchLines (Text.withReturns text) = m.matchLines text := by
  rw [matchLines, Text.numberedLines_withReturns h, matchLines]

theorem mem_matchLines_iff {m : Matcher} {text : List Char} {note : Note} :
    note ∈ m.matchLines text ↔
      ∃ line, Text.IsLine text note.line line ∧ m.matchLine? note.line line = some note := by
  rw [matchLines, List.mem_filterMap]
  constructor
  · rintro ⟨⟨number, line⟩, hline, hnote⟩
    rw [line_of_matchLine? hnote]
    exact ⟨line, Text.mem_numberedLines_iff.1 hline, hnote⟩
  · rintro ⟨line, hline, hnote⟩
    exact ⟨(note.line, line), Text.mem_numberedLines_iff.2 hline, hnote⟩

theorem one_le_line_of_mem_matchLines {m : Matcher} {text : List Char} {note : Note}
    (h : note ∈ m.matchLines text) : 1 ≤ note.line := by
  obtain ⟨line, ⟨-, front, -, -, -, -, hnumber, -⟩, -⟩ := mem_matchLines_iff.1 h
  omega

/-- Reading a text is local to its lines: whole lines in front add their own notes and move the
others down, carriage returns before the line feeds change nothing, and the notes are those of the
single lines, in the order of the lines and under their numbers. -/
theorem matchLines_line_by_line (m : Matcher) :
    (∀ front back : List Char, Text.IsWhole front →
      m.matchLines (front ++ back) =
        m.matchLines front ++ (m.matchLines back).map (·.movedBy (front.count '\n'))) ∧
    (∀ text : List Char, '\r' ∉ text →
      m.matchLines (Text.withReturns text) = m.matchLines text) ∧
    ∀ text : List Char,
      (m.matchLines text).Pairwise (fun a b => a.line < b.line) ∧
      (∀ note ∈ m.matchLines text, 1 ≤ note.line) ∧
      ∀ note, note ∈ m.matchLines text ↔
        ∃ line, Text.IsLine text note.line line ∧ m.matchLine? note.line line = some note :=
  ⟨fun _ back h => m.matchLines_append h back, fun _ h => m.matchLines_withReturns h,
    fun text => ⟨m.pairwise_matchLines text, fun _ h => one_le_line_of_mem_matchLines h,
      fun _ => mem_matchLines_iff⟩⟩

/-- Two whole lines with a note on the first, and a last line that ends in no line feed. -/
theorem matchLines_of_three_lines :
    let front := "// TODO[2030-01-31] old\n\n".toList
    let back := "  # FIXME: late".toList
    ∃ m, Settings.default.style.compile = .ok m ∧ Text.IsWhole front ∧
      m.matchLines (front ++ back) =
        m.matchLines front ++ (m.matchLines back).map (·.movedBy 2) ∧
      '\r' ∉ front ++ back ∧
      m.matchLines (Text.withReturns (front ++ back)) = m.matchLines (front ++ back) := by
  intro front back
  have hstyle : Settings.default.style.compile.toOption.isSome := by decide +kernel
  cases hm : Settings.default.style.compile with
  | error e =>
    rw [hm] at hstyle
    cases hstyle
  | ok m =>
    obtain ⟨happend, hreturns, -⟩ := matchLines_line_by_line m
    have hwhole : Text.IsWhole front := .inr (by decide)
    have hmem : '\r' ∉ front ++ back := by decide
    exact ⟨m, rfl, hwhole, happend front back hwhole, hmem, hreturns _ hmem⟩

end Matcher

end Lapse
