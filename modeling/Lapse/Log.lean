import Lapse.Text.Find

/-!
# Log entries

What a run tells about itself, and filters that choose what of it is shown. A filter is a list of
rules with commas between them: a level, or a start of targets, or both with an equals sign.
-/
namespace Lapse.Log

inductive Level
  | error | warn | info | debug | trace
  deriving DecidableEq, Repr

namespace Level

/-- How much a level shows; zero shows nothing. -/
def rank : Level → Nat
  | error => 1
  | warn => 2
  | info => 3
  | debug => 4
  | trace => 5

def name : Level → String
  | error => "ERROR"
  | warn => "WARN"
  | info => "INFO"
  | debug => "DEBUG"
  | trace => "TRACE"

end Level

structure Entry where
  level : Level
  /-- The part of the program that tells it. -/
  target : String
  message : String
  deriving DecidableEq, Repr

def Entry.text (e : Entry) : String := e.level.name ++ " " ++ e.target ++ ": " ++ e.message

/-- One rule of a filter: entries whose target begins with `target` are shown up to a rank. -/
structure Rule where
  target : Option String
  rank : Nat
  deriving DecidableEq, Repr

abbrev Filter := List Rule

inductive FilterError
  | badRule
  | badLevel
  deriving DecidableEq, Repr

def FilterError.message : FilterError → String
  | badRule => "invalid filter directive"
  | badLevel =>
    let text := "error parsing level filter: expected one of \"off\", \"error\", " ++
      "\"warn\", \"info\", \"debug\", \"trace\", or a number 0-5"
    text ++ ": " ++ text

/-- The rank that a text names, by a word or by a number. -/
def rank? (text : List Char) : Option Nat :=
  let digits := if text.head? = some '+' then text.drop 1 else text
  if digits ≠ [] ∧ digits.all Char.isDigit then
    let value := digits.foldl (fun n c => n * 10 + (c.toNat - '0'.toNat)) 0
    if value ≤ 5 then some value else none
  else if text = [] then some 1
  else
    ([("off", 0), ("error", 1), ("warn", 2), ("info", 3), ("debug", 4), ("trace", 5)] :
      List (String × Nat)).lookup (String.ofList (text.map Char.toLower))

/-- The rank of a text after an equals sign; no text shows all. -/
def rankAfterMark (text : List Char) : Except FilterError Nat :=
  if text = [] then .ok 5
  else match rank? text with
    | some rank => .ok rank
    | none => .error .badLevel

def startsTarget (c : Char) : Bool :=
  c.isAlphanum || 128 ≤ c.toNat || c = '-' || c = ':' || c = '_'

/-- The rule of a text. One with a span in brackets concerns no entry. -/
def Rule.ofText (text : List Char) : Except FilterError (Option Rule) :=
  let front := text.takeWhile fun c => c ≠ '=' && c ≠ '['
  match text.dropWhile fun c => c ≠ '=' && c ≠ '[' with
  | '=' :: level =>
    if front.head?.any startsTarget then
      (rankAfterMark level).map fun rank => some ⟨some (String.ofList front), rank⟩
    else .error .badRule
  | '[' :: span =>
    if front.head?.all startsTarget then
      match (span.dropWhile (· ≠ ']')).drop 1 with
      | [] => .ok none
      | '=' :: level => (rankAfterMark level).map fun _ => none
      | _ => .error .badRule
    else .error .badRule
  | _ =>
    if front.all (· = ' ') then .ok (some ⟨none, 5⟩)
    else if (front.dropWhile (· = ' ')).head?.any startsTarget then
      match rank? front with
      | some rank => .ok (some ⟨none, rank⟩)
      | none => .ok (some ⟨some (String.ofList front), 5⟩)
    else .error .badRule

/-- Reads a filter. One without rules shows errors only. -/
def Filter.ofText (text : String) : Except FilterError Filter := do
  let rules ← ((Text.splitAll ',' text.toList).filter (· ≠ [])).mapM Rule.ofText
  let concerned := rules.filterMap id
  return if rules.isEmpty then [⟨none, Level.error.rank⟩] else concerned

namespace Filter

def concerns (r : Rule) (e : Entry) : Bool :=
  r.target.all fun target => target.toList.isPrefixOf e.target.toList

/-- How specific a rule is: the longer its target, the more. -/
def weight (r : Rule) : Nat := (r.target.map fun target => target.utf8ByteSize + 1).getD 0

/-- Whether an entry is shown: the most specific rule that concerns it decides, of several the last
one. -/
def shows (f : Filter) (e : Entry) : Bool :=
  match (f.filter (concerns · e)).foldl (fun best r =>
      match best with
      | some b => if weight b ≤ weight r then some r else some b
      | none => some r) none with
  | some r => e.level.rank ≤ r.rank
  | none => false

/-- Whether no entry of the level `info` or below can be shown. -/
def isQuiet (f : Filter) : Bool := f.all fun r => r.rank < Level.info.rank

end Filter

end Lapse.Log
