import Lapse.Text.Find
import Lapse.Text.Utf8

/-!
# Paths

A path is the bytes it is written with. Its components leave out what does not matter for where it
leads: repeated slashes, and dots other than a first one. Paths compare component by component.
-/
namespace Lapse

abbrev FileName := List UInt8

inductive Component
  | root
  | current
  | parent
  | normal (name : FileName)
  deriving DecidableEq, Repr

structure Path where
  bytes : List UInt8
  deriving DecidableEq, Repr

def slash : UInt8 := 47

def dot : UInt8 := 46

def compareBytes : List UInt8 → List UInt8 → Ordering
  | [], [] => .eq
  | [], _ :: _ => .lt
  | _ :: _, [] => .gt
  | a :: as, b :: bs => if a < b then .lt else if b < a then .gt else compareBytes as bs

namespace Component

def rank : Component → Nat
  | root => 0
  | current => 1
  | parent => 2
  | normal _ => 3

def cmp : Component → Component → Ordering
  | normal a, normal b => compareBytes a b
  | a, b => compare a.rank b.rank

def cmpAll : List Component → List Component → Ordering
  | [], [] => .eq
  | [], _ :: _ => .lt
  | _ :: _, [] => .gt
  | a :: as, b :: bs => (cmp a b).then (cmpAll as bs)

def bytes : Component → List UInt8
  | root => [slash]
  | current => [dot]
  | parent => [dot, dot]
  | normal name => name

/-- The component that the text between two slashes stands for, if any. -/
def ofPart? (part : FileName) : Option Component :=
  if part = [] ∨ part = [dot] then none
  else if part = [dot, dot] then some parent
  else some (normal part)

end Component

namespace Path

def ofString (s : String) : Path := ⟨s.toUTF8.data.toList⟩

/-- The text of a path, if its bytes are UTF-8. -/
def text? (p : Path) : Option String := String.fromUTF8? ⟨p.bytes.toArray⟩

/-- The text of a path for a reader. -/
def display (p : Path) : String := Text.Utf8.decodeLossy ⟨p.bytes.toArray⟩

theorem text?_ofString (s : String) : (ofString s).text? = some s := by
  have h : (⟨(ofString s).bytes.toArray⟩ : ByteArray) = s.toUTF8 := by
    simp [ofString]
  rw [text?, h, Text.Utf8.fromUTF8?_toUTF8]

def isAbsolute (p : Path) : Bool := p.bytes.head? = some slash

def components (p : Path) : List Component :=
  let parts := Text.splitAll slash p.bytes
  let first :=
    if p.isAbsolute then [Component.root]
    else if parts.head? = some [dot] then [Component.current]
    else []
  first ++ parts.filterMap Component.ofPart?

def Same (p q : Path) : Prop := p.components = q.components

instance (p q : Path) : Decidable (p.Same q) := inferInstanceAs (Decidable (_ = _))

def cmp (p q : Path) : Ordering := Component.cmpAll p.components q.components

def le (p q : Path) : Bool := p.cmp q != .gt

/-- A path below `p`. An absolute path stands alone. -/
def join (p q : Path) : Path :=
  if q.isAbsolute then q
  else if p.bytes = [] ∨ p.bytes.getLast? = some slash then ⟨p.bytes ++ q.bytes⟩
  else ⟨p.bytes ++ slash :: q.bytes⟩

def joinName (p : Path) (name : FileName) : Path := p.join ⟨name⟩

def fileName? (p : Path) : Option FileName :=
  match p.components.getLast? with
  | some (.normal name) => some name
  | _ => none

/-- The parts between slashes from the last to the first, without those at the end that are no
components. -/
def trimParts (absolute : Bool) : (parts : List FileName) → List FileName
  | [] => []
  | part :: parts =>
    if (Component.ofPart? part).isSome ∨ (!absolute ∧ parts = [] ∧ part = [dot]) then part :: parts
    else trimParts absolute parts

/-- The path without its last component, written as it was; none for the empty path and the root. -/
def parent? (p : Path) : Option Path :=
  let parts := Text.splitAll slash p.bytes
  let parts := if p.isAbsolute then parts.drop 1 else parts
  match trimParts p.isAbsolute parts.reverse with
  | [] => none
  | _ :: above =>
    let kept := [slash].intercalate (trimParts p.isAbsolute above).reverse
    some ⟨if p.isAbsolute then slash :: kept else kept⟩

/-- The path and the paths above it, nearest first, at most `fuel` of them. -/
def ancestorsUpTo : (fuel : Nat) → Path → List Path
  | 0, _ => []
  | fuel + 1, p => p :: (match p.parent? with
    | some above => ancestorsUpTo fuel above
    | none => [])

def ancestors (p : Path) : List Path := ancestorsUpTo (p.components.length + 1) p

/-- What stands after the last dot of a name, unless the dot comes first. -/
def extension? (name : FileName) : Option (List UInt8) :=
  let after := name.reverse.takeWhile (· ≠ dot)
  if name = [dot, dot] then none
  else if after.length + 1 < name.length then some after.reverse else none

/-- The absolute path as written from the directory `base`. A last slash is kept, and so are two
slashes at the beginning, but not three. There is none for the empty path. -/
def absolute? (base : Path) (p : Path) : Option Path :=
  if p.bytes = [] then none
  else
    let names := (Text.splitAll slash p.bytes).filterMap Component.ofPart?
    let start : Path :=
      if !p.isAbsolute then base
      else if (p.bytes.take 2 = [slash, slash]) ∧ p.bytes.take 3 ≠ [slash, slash, slash] then
        ⟨[slash, slash]⟩
      else ⟨[slash]⟩
    let full := names.foldl (fun p c => p.join ⟨c.bytes⟩) start
    some (if p.bytes.getLast? = some slash then full.join ⟨[]⟩ else full)

end Path

end Lapse
