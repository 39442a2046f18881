import Lapse.Note
import Lapse.DateLayout
import Lapse.Regex.Reader
import Lapse.Regex.Search
import Lapse.Text.Find
import Lapse.Text.Lines
import Lapse.Text.Quoted

/-!
# Comment styles

A style says what notes look like: the strings that open a comment, the tags, a
template with one place for the tag and one for the date, and the layout of dates. `compile` turns
it into a matcher, which reads notes line by line.
-/
namespace Lapse

structure CommentStyle where
  openers : List String
  tags : List String
  /-- A pattern with the placeholders for tag and date. -/
  template : String
  dateLayout : String
  caseSensitive : Bool
  deriving DecidableEq, Repr

inductive Placeholder
  | tag | date
  deriving DecidableEq, Repr

def Placeholder.text : Placeholder → String
  | tag => "\x7btag\x7d"
  | date => "\x7bdate\x7d"

/-- The lists of a style that may not be empty. -/
inductive WordList
  | openers | tags
  deriving DecidableEq, Repr

def WordList.text : WordList → String
  | openers => "comment prefixes"
  | tags => "tags"

inductive StyleError
  | missingPlaceholder (p : Placeholder)
  | duplicatePlaceholder (p : Placeholder)
  | unsupportedLayoutCharacter (c : Char)
  | emptyList (l : WordList)
  | invalidPattern
  deriving DecidableEq, Repr

def StyleError.message : StyleError → String
  | missingPlaceholder p => "expiry pattern must contain " ++ p.text
  | duplicatePlaceholder p => "expiry pattern must contain " ++ p.text ++ " only once"
  | unsupportedLayoutCharacter c =>
    "unsupported character " ++ Text.Quoted.char c ++ " in the date layout"
  | emptyList l => "at least one " ++ l.text ++ " must be configured"
  | invalidPattern => "invalid matching pattern: " ++ Regex.errorText

/-- The numbers of the groups of a compiled pattern. -/
structure Roles where
  /-- The opener and all that follows it. -/
  whole : Nat
  opener : Nat
  tag : Nat
  expiry : Nat
  content : Nat
  /-- The tag's place comes before the date's in the template. -/
  tagFirst : Bool
  deriving DecidableEq, Repr

structure Matcher where
  source : List Char
  regex : Regex
  roles : Roles
  layout : DateLayout
  layoutText : String
  deriving Repr

namespace CommentStyle

/-- How many characters stand before the only place of a placeholder. -/
def findPlaceholder (template : List Char) (p : Placeholder) : Except StyleError Nat :=
  match Text.splitAt? p.text.toList template with
  | none => .error (.missingPlaceholder p)
  | some (front, back) =>
    match Text.splitAt? p.text.toList back with
    | none => .ok front.length
    | some _ => .error (.duplicatePlaceholder p)

/-- The pattern of the texts in a list, the earlier one preferred. -/
def alternation (items : List String) : List Char :=
  ['|'].intercalate (items.map fun item => Regex.escape item.toList)

def alternationOf (items : List String) (l : WordList) : Except StyleError (List Char) :=
  if items.isEmpty then .error (.emptyList l) else .ok (alternation items)

def namedGroup (name : String) (inner : List Char) : List Char :=
  "(?P<".toList ++ name.toList ++ '>' :: inner ++ [')']

def tagGroup (tags : List Char) : List Char := namedGroup "tag" tags

def expiryGroup (layout : DateLayout) : List Char :=
  namedGroup "expiry" ("(?:".toList ++ layout.pattern ++ ")?".toList)

/-- The template with the groups for tag and date in their places. -/
def substitute (template tags : List Char) (layout : DateLayout) : List Char :=
  Text.replaceFirst Placeholder.date.text.toList (expiryGroup layout)
    (Text.replaceFirst Placeholder.tag.text.toList (tagGroup tags) template)

def blanks : List Char := "[[:space:]]*".toList

/-- The whole pattern around the filled template. -/
def frame (caseSensitive : Bool) (openers filled : List Char) : List Char :=
  (if caseSensitive then [] else "(?i)".toList) ++
  namedGroup "annotation" (namedGroup "comment" openers ++ blanks ++ filled ++ blanks ++
    namedGroup "content" ".+".toList ++ ['?']) ++ ['$']

/-- The groups of a pattern that have a role. -/
def rolesOf? (regex : Regex) (tagFirst : Bool) : Option Roles := do
  return {
    whole := ← regex.groupIndex? "annotation"
    opener := ← regex.groupIndex? "comment"
    tag := ← regex.groupIndex? "tag"
    expiry := ← regex.groupIndex? "expiry"
    content := ← regex.groupIndex? "content"
    tagFirst }

/-- The text of the pattern that a style stands for, its layout, and which placeholder is first. -/
def patternOf (style : CommentStyle) : Except StyleError (List Char × DateLayout × Bool) := do
  let template := style.template.toList
  let tagAt ← findPlaceholder template .tag
  let dateAt ← findPlaceholder template .date
  let openers ← alternationOf style.openers .openers
  let tags ← alternationOf style.tags .tags
  let layout ← (DateLayout.ofText style.dateLayout.toList).mapError .unsupportedLayoutCharacter
  let source := frame style.caseSensitive openers (substitute template tags layout)
  return (source, layout, tagAt < dateAt)

def compile [Regex.SizeLimit] (style : CommentStyle) : Except StyleError Matcher := do
  let (source, layout, tagFirst) ← style.patternOf
  match Regex.ofText? source with
  | none => throw .invalidPattern
  | some regex =>
    match rolesOf? regex tagFirst with
    | none => throw .invalidPattern
    | some roles => return ⟨source, regex, roles, layout, style.dateLayout⟩

end CommentStyle

inductive LineReading
  | nothing
  /-- The pattern matches, but `date` is no date. -/
  | badDate (matched : Regex.Capture) (date : List Char)
  | found (matched : Regex.Capture) (note : Note)
  deriving DecidableEq

namespace LineReading

def note? : LineReading → Option Note
  | found _ note => some note
  | _ => none

/-- The matched text from the opener on. -/
def matched? : LineReading → Option Regex.Capture
  | nothing => none
  | badDate matched _ => some matched
  | found matched _ => some matched

end LineReading

namespace Matcher

/-- What a group matched; nothing counts as the empty text. -/
def captured (caps : Regex.Captures) (index : Nat) : Regex.Capture :=
  (caps.lookup index).getD ⟨0, []⟩

def readLine (m : Matcher) (number : Nat) (line : List Char) : LineReading :=
  match m.regex.search? line with
  | none => .nothing
  | some caps =>
    let text (index : Nat) := (captured caps index).text
    let matched := captured caps m.roles.whole
    let note (expiry : Option Calendar.Date) : Note :=
      { opener := String.ofList (text m.roles.opener)
        tag := String.ofList (text m.roles.tag)
        content := String.ofList (text m.roles.content)
        expiry
        line := number
        source := String.ofList (Text.trim line) }
    match text m.roles.expiry with
    | [] => .found matched (note none)
    | date =>
      match m.layout.readDate? date with
      | some expiry => .found matched (note (some expiry))
      | none => .badDate matched date

def matchLine? (m : Matcher) (number : Nat) (line : List Char) : Option Note :=
  (m.readLine number line).note?

def matchLines (m : Matcher) (text : List Char) : List Note :=
  (Text.numberedLines text).filterMap fun (number, line) => m.matchLine? number line

end Matcher

end Lapse
