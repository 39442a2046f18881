import Lapse.Text.Blank

/-!
# Flags of the pattern language

The flags that change how the following part of a pattern is read, how a group of them is written,
and the gaps that the flag `x` allows between the parts of a pattern.
-/
namespace Lapse.Regex.Reader

structure Flags where
  /-- `i`: letters match regardless of case. -/
  ignoreCase : Bool := false
  /-- `m`: `^` and `$` match at line ends. -/
  multiLine : Bool := false
  /-- `s`: a dot matches a line feed. -/
  dotMatchesAll : Bool := false
  /-- `U`: repetitions are lazy, and greedy with a question mark. -/
  swapGreed : Bool := false
  /-- `u`: classes hold characters of every script. -/
  unicode : Bool := true
  /-- `R`: a line may end in carriage return and line feed. -/
  crlf : Bool := false
  /-- `x`: blanks and comments stand for nothing. -/
  ignoreBlank : Bool := false
  deriving DecidableEq, Repr

inductive FlagSign
  /-- The flags after this sign are turned off. -/
  | off
  | flag (c : Char)
  deriving DecidableEq, Repr

def isFlag (c : Char) : Bool :=
  c = 'i' ∨ c = 'm' ∨ c = 's' ∨ c = 'U' ∨ c = 'u' ∨ c = 'R' ∨ c = 'x'

def Flags.set (flags : Flags) (c : Char) (value : Bool) : Flags :=
  if c = 'i' then { flags with ignoreCase := value }
  else if c = 'm' then { flags with multiLine := value }
  else if c = 's' then { flags with dotMatchesAll := value }
  else if c = 'U' then { flags with swapGreed := value }
  else if c = 'u' then { flags with unicode := value }
  else if c = 'R' then { flags with crlf := value }
  else { flags with ignoreBlank := value }

/-- Applies the signs in order; `value` is what a flag is set to. -/
def Flags.apply (flags : Flags) : (signs : List FlagSign) → (value : Bool) → Flags
  | [], _ => flags
  | .off :: signs, _ => flags.apply signs false
  | .flag c :: signs, value => (flags.set c value).apply signs value

/-- The signs up to `:` or `)`, that character and the text after it. -/
def readSigns? : List Char → Option (List FlagSign × Char × List Char)
  | [] => none
  | c :: rest =>
    if c = ':' ∨ c = ')' then some ([], c, rest)
    else if c = '-' then
      (readSigns? rest).map fun (signs, stop, rest) => (.off :: signs, stop, rest)
    else if isFlag c then
      (readSigns? rest).map fun (signs, stop, rest) => (.flag c :: signs, stop, rest)
    else none

/-- No sign stands twice, and a flag follows the sign that turns flags off. -/
def signsAllowed (signs : List FlagSign) : Bool :=
  signs.eraseDups.length = signs.length && signs.getLast? ≠ some .off

/-- The text without the blanks and comments it starts with. -/
def dropGap : (inComment : Bool) → List Char → List Char
  | _, [] => []
  | true, c :: rest => dropGap (c ≠ '\n') rest
  | false, c :: rest =>
    if Text.isBlank c then dropGap false rest
    else if c = '#' then dropGap true rest
    else c :: rest

/-- The text from the next part of the pattern on. -/
def skip (flags : Flags) (text : List Char) : List Char :=
  if flags.ignoreBlank then dropGap false text else text

/-- The characters before the first one that is not `wanted`, gaps left out, and the text from that
one on. -/
def takeParts (flags : Flags) (wanted : Char → Bool) :
    (inComment : Bool) → List Char → List Char × List Char
  | _, [] => ([], [])
  | true, c :: rest => takeParts flags wanted (c ≠ '\n') rest
  | false, c :: rest =>
    if flags.ignoreBlank && Text.isBlank c then takeParts flags wanted false rest
    else if flags.ignoreBlank && c = '#' then takeParts flags wanted true rest
    else if wanted c then
      let (taken, rest) := takeParts flags wanted false rest
      (c :: taken, rest)
    else ([], c :: rest)

end Lapse.Regex.Reader
