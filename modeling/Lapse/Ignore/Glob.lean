import Lapse.Path
import Lapse.Regex.Search

/-!
# Glob patterns

Patterns of paths: `?` is any byte but a slash, `*` any number of them, `**` any number of
directories, brackets hold a set and braces alternatives. A pattern becomes a regular one over the
bytes of a path.
-/
namespace Lapse.Ignore

inductive GlobError
  | invalidRange (first last : Char)
  | unopenedAlternates
  | unclosedAlternates
  | danglingEscape
  deriving DecidableEq, Repr

def GlobError.message : GlobError → String
  | invalidRange first last =>
    "invalid range; '" ++ String.singleton first ++ "' > '" ++ String.singleton last ++ "'"
  | unopenedAlternates =>
    "unopened alternate group; missing '\x7b' (maybe escape '\x7d' with '[\x7d]'?)"
  | unclosedAlternates =>
    "unclosed alternate group; missing '\x7d' (maybe escape '\x7b' with '[\x7b]'?)"
  | danglingEscape => "dangling '\\'"

namespace Glob

/-- The character that stands for a byte. -/
def byteChar (b : UInt8) : Char := Char.ofNat b.toNat

def charBytes (c : Char) : List Char :=
  (String.singleton c).toUTF8.data.toList.map byteChar

inductive Piece
  /-- `**` at the start: any directories, or none. -/
  | above
  /-- `**` at the end: all that is below. -/
  | below
  /-- Braces with nothing between them. -/
  | blank
  | pattern (r : Regex)
  deriving Repr

def char (c : Char) : Regex := .set (.singleton c)

def text (c : Char) : Regex := Regex.sequence ((charBytes c).map char)

/-- Any bytes, a slash among them. -/
def anything : Regex := .repeated (.set .any) 0 none true

def noSlash : Regex.CharSet := .compl (.singleton '/')

/-- Between two slashes: any directories, or none. -/
def between : Regex := .alt (char '/') (Regex.sequence [char '/', anything, char '/'])

def Piece.regex : Piece → Regex
  | above => .alt (.repeated (char '/') 0 (some 1) true) (.seq anything (char '/'))
  | below => .seq (char '/') anything
  | blank => .empty
  | pattern r => r

/-- Whether a part leaves no trace in the pattern. -/
def Piece.isBlank : Piece → Bool
  | blank => true
  | _ => false

/-- The choice between alternatives; those that are empty do not count. -/
def Piece.ofAlternatives (alternatives : List (List Piece)) : Piece :=
  match alternatives.filter fun pieces => !pieces.all isBlank with
  | [] => blank
  | kept => pattern (Regex.choice (kept.map fun pieces => Regex.sequence (pieces.map regex)))

/-- Open braces: the parts before them, and their finished alternatives, each latest first. -/
structure Level where
  before : List Piece
  done : List (List Piece)

structure State where
  levels : List Level
  pieces : List Piece
  previous : Option Char
  /-- A bracket that nothing closes was seen, so brackets mean themselves. -/
  plainBrackets : Bool

namespace State

def initial : State := ⟨[], [], none, false⟩

def push (s : State) (piece : Piece) : State := { s with pieces := piece :: s.pieces }

def pushText (s : State) (c : Char) : State := s.push (.pattern (text c))

def pushStars (s : State) (count : Nat) : State :=
  (List.replicate count (Piece.pattern (.repeated (.set noSlash) 0 none true))).foldl push s

/-- What two stars become that end here, or that a slash follows. -/
def pushDirectories (s : State) (atEnd : Bool) : State :=
  match s.pieces with
  | .above :: rest => { s with pieces := .above :: rest }
  | .below :: rest => { s with pieces := .below :: rest }
  | _ :: rest => { s with pieces := (if atEnd then .below else .pattern between) :: rest }
  | [] => s

end State

/-- The set of bytes of an interval of characters: of the bytes of its ends, the last of the first
end to the first of the last end count as an interval. -/
def interval (first last : Char) : Regex.CharSet :=
  let a := charBytes first
  let b := charBytes last
  if first = last then .ofList (a.map .singleton)
  else .ofList (.interval (a.getLastD first) (b.headD last) ::
    (a.dropLast ++ b.drop 1).map .singleton)

/-- Reads the ranges of a bracket, latest first, up to its end; `none` when it has no end.
`ranging` is set after a dash that may stand between two ends. -/
def readRanges : (start ranging : Bool) → List (Char × Char) → List Char →
    Except GlobError (Option (List (Char × Char) × List Char))
  | _, _, _, [] => .ok none
  | start, ranging, ranges, c :: rest =>
    if c = ']' ∧ !start then
      .ok (some (if ranging then ('-', '-') :: ranges else ranges, rest))
    else if c = '-' ∧ !start ∧ !ranging then readRanges false true ranges rest
    else match ranging, ranges with
      | true, (first, _) :: others =>
        if c < first then .error (.invalidRange first c)
        else readRanges false false ((first, c) :: others) rest
      | _, _ => readRanges false false ((c, c) :: ranges) rest

def readSet (text : List Char) : Except GlobError (Option (Regex × List Char)) := do
  let (negated, body) := match text with
    | '!' :: rest => (true, rest)
    | '^' :: rest => (true, rest)
    | _ => (false, text)
  match ← readRanges true false [] body with
  | none => return none
  | some (ranges, rest) =>
    let set := Regex.CharSet.ofList (ranges.reverse.map fun (a, b) => interval a b)
    return some (.set (if negated then .compl set else set), rest)

/-- Reads two stars, which `rest` follows. They stand for directories between slashes, at both
ends of the pattern and at both ends of an alternative. -/
def readStars (s : State) (rest : List Char) : State × List Char :=
  let after (c : Char) (s : State) : State := { s with previous := some c }
  let plain := (after '*' (s.pushStars 2), rest)
  let begun := s.previous = some '/' ∨
    (s.levels ≠ [] ∧ (s.previous = some ',' ∨ s.previous = some '\x7b'))
  match s.pieces, rest with
  | [], [] => (after '*' (s.push .above), [])
  | [], '/' :: rest => (after '/' (s.push .above), rest)
  | [], _ => plain
  | _, [] => if begun then (after '*' (s.pushDirectories true), []) else plain
  | _, c :: others =>
    if ¬begun then plain
    else if c = '/' then (after '/' (s.pushDirectories false), others)
    else if (c = ',' ∨ c = '\x7d') ∧ s.levels ≠ [] then (after '*' (s.pushDirectories true), rest)
    else plain

/-- Reads the parts of a text of at most `fuel` characters. -/
def readPieces : (fuel : Nat) → State → List Char → Except GlobError State
  | 0, s, _ => .ok s
  | _ + 1, s, [] => .ok s
  | fuel + 1, s, c :: rest =>
    let next (s : State) : State := { s with previous := some c }
    if c = '?' then readPieces fuel (next (s.push (.pattern (.set noSlash)))) rest
    else if c = '*' then
      match rest with
      | '*' :: rest =>
        let (s, rest) := readStars s rest
        readPieces fuel s rest
      | _ => readPieces fuel (next (s.pushStars 1)) rest
    else if c = '[' ∧ !s.plainBrackets then
      match readSet rest with
      | .error e => .error e
      | .ok none => readPieces fuel (next { s.pushText c with plainBrackets := true }) rest
      | .ok (some (set, rest)) =>
        readPieces fuel { s.push (.pattern set) with previous := some ']' } rest
    else if c = '\x7b' then
      readPieces fuel (next { s with levels := ⟨s.pieces, []⟩ :: s.levels, pieces := [] }) rest
    else if c = '\x7d' then
      match s.levels with
      | [] => .error .unopenedAlternates
      | level :: levels =>
        let alternatives := (s.pieces :: level.done).reverse.map List.reverse
        readPieces fuel
          (next { s with levels, pieces := .ofAlternatives alternatives :: level.before }) rest
    else if c = ',' then
      match s.levels with
      | [] => readPieces fuel (next (s.pushText c)) rest
      | level :: levels =>
        let level := { level with done := s.pieces :: level.done }
        readPieces fuel (next { s with levels := level :: levels, pieces := [] }) rest
    else if c = '\\' then
      match rest with
      | [] => .error .danglingEscape
      | d :: rest => readPieces fuel { s.pushText d with previous := some d } rest
    else readPieces fuel (next (s.pushText c)) rest

end Glob

/-- A glob pattern as a regular one over bytes. -/
structure Glob where
  regex : Regex
  deriving Repr

namespace Glob

def ofText (text : List Char) : Except GlobError Glob := do
  let s ← readPieces text.length .initial text
  match s.levels, s.pieces with
  | _ :: _, _ => throw .unclosedAlternates
  | [], [.above] => return ⟨anything⟩
  | [], pieces => return ⟨Regex.sequence (pieces.reverse.map Piece.regex)⟩

/-- Whether a pattern fits all of a path. -/
def fits (g : Glob) (p : Path) : Bool := g.regex.fits (p.bytes.map byteChar)

end Glob

end Lapse.Ignore
