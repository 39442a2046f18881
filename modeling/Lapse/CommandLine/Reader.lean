import Lapse.CommandLine.Parameter
import Lapse.Text.Find

/-!
# Reading arguments

Arguments are read from left to right. A name without its value waits for the next argument, and
values are checked when the next name, or the end, is reached. What is not on the command line may
come from the environment.
-/
namespace Lapse.CommandLine

/-- Why arguments do not give a command. -/
inductive UsageError
  | helpRequested
  | versionRequested
  | commandMissing
  | unknownCommand
  | unknownArgument
  | invalidValue
  | unexpectedValue
  | repeatedArgument
  deriving DecidableEq, Repr

abbrev Given := List (Parameter × List String)

def Given.values (g : Given) (p : Parameter) : List String :=
  (g.filter fun entry => entry.1 = p).flatMap (·.2)

def Given.has (g : Given) (p : Parameter) : Bool := g.any fun entry => entry.1 = p

/-- The parts of a value between commas. -/
def splitValue (value : String) : List String := (Text.splitAll ',' value.toList).map String.ofList

def add (g : Given) (p : Parameter) (values : List String) : Except UsageError Given :=
  let values := if p.arity = .many then values.flatMap splitValue else values
  if p.arity ≠ .many ∧ g.has p then .error .repeatedArgument
  else if values.all p.accepts then .ok (g ++ [(p, values)])
  else .error .invalidValue

def addArgument (g : Given) (p : Parameter) (values : List String) : Except UsageError Given :=
  if p = .help then .error .helpRequested
  else if p.arity = .flag then add g p ["true"]
  else if values = [] then .error .invalidValue
  else add g p values

structure State where
  given : Given
  /-- The last parameter read, with the values that follow it so far. -/
  pending : Option (Parameter × List String)
  onlyValues : Bool
  deriving Repr

namespace State

def initial : State := ⟨[], none, false⟩

def settle (s : State) : Except UsageError State :=
  match s.pending with
  | none => .ok s
  | some (p, values) =>
    (addArgument s.given p values).map fun given => { s with given, pending := none }

/-- Reads a parameter with the value attached to it. -/
def attach (s : State) (p : Parameter) (values : List String) : Except UsageError State := do
  let s ← s.settle
  return { s with given := ← addArgument s.given p values }

/-- Reads a parameter whose value comes next. -/
def await (s : State) (p : Parameter) : Except UsageError State := do
  return { (← s.settle) with pending := some (p, []) }

/-- Reads `--name` or `--name=value`. -/
def readLong (parameters : List Parameter) (s : State) (text : List Char) :
    Except UsageError State :=
  let name := text.takeWhile (· ≠ '=')
  let value := (text.dropWhile (· ≠ '=')).tail?
  match parameters.find? fun p => p.longName = some (String.ofList name) with
  | none => .error .unknownArgument
  | some p =>
    match p.arity, value with
    | .flag, none => s.attach p []
    | .flag, some _ => .error .unexpectedValue
    | _, none => s.await p
    | _, some value => s.attach p [String.ofList value]

/-- Reads letters after one dash: flags, and at last a name that takes what is left as its value,
without an equals sign in front. -/
def readShort (parameters : List Parameter) : State → List Char → Except UsageError State
  | s, [] => .ok s
  | s, c :: rest =>
    match parameters.find? fun p => p.shortName = some c with
    | none => .error .unknownArgument
    | some p =>
      match p.arity, rest with
      | .flag, _ => do readShort parameters (← s.attach p []) rest
      | _, [] => s.await p
      | _, '=' :: value => s.attach p [String.ofList value]
      | _, value => s.attach p [String.ofList value]

/-- The parameter that the next argument by position belongs to. -/
def nextByPosition? (parameters : List Parameter) (s : State) : Option Parameter :=
  parameters.find? fun p =>
    p.longName = none ∧
      (p.arity = .many ∨ ¬ (s.given.has p ∨ s.pending.any fun entry => entry.1 = p))

def readPositional (parameters : List Parameter) (s : State) (text : String) :
    Except UsageError State :=
  match s.nextByPosition? parameters with
  | none => .error .unknownArgument
  | some p =>
    match s.pending with
    | some (q, values) =>
      if p = q then .ok { s with pending := some (p, values ++ [text]) }
      else do return { (← s.settle) with pending := some (p, [text]) }
    | none => .ok { s with pending := some (p, [text]) }

def read (parameters : List Parameter) (s : State) (text : String) : Except UsageError State :=
  if s.onlyValues then s.readPositional parameters text
  else match text.toList, s.pending with
    | ['-', '-'], _ => .ok { s with onlyValues := true }
    | '-' :: '-' :: rest, _ => s.readLong parameters rest
    | '-' :: c :: rest, _ => s.readShort parameters (c :: rest)
    | _, some (p, []) => .ok { s with pending := some (p, [text]) }
    | _, _ => s.readPositional parameters text

end State

abbrev Environment := List (String × String)

/-- Adds the variable of a parameter that is not given, if it is set. -/
def addVariable (environment : Environment) (g : Given) (p : Parameter) :
    Except UsageError Given :=
  if g.has p then .ok g
  else match p.environmentName.bind fun name => environment.lookup name with
    | none => .ok g
    | some value => add g p [value]

def given (parameters : List Parameter) (environment : Environment) (arguments : List String) :
    Except UsageError Given := do
  let s ← arguments.foldlM (State.read parameters) State.initial
  let s ← s.settle
  parameters.foldlM (addVariable environment) s.given

end Lapse.CommandLine
