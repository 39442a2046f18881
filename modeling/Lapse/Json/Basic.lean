/-!
# JSON values

Values of JSON with the members of an object in the order in which they stand.
-/
namespace Lapse

inductive Json
  | null
  | bool (value : Bool)
  /-- A number without fraction and exponent. -/
  | int (value : Int)
  /-- Any other number, as it is written. -/
  | real (literal : String)
  | string (value : String)
  | array (items : List Json)
  | object (members : List (String × Json))
  deriving Repr, Inhabited

namespace Json

/-- The value of the only member with a name; `none` when there is none or more than one. -/
def member? (members : List (String × Json)) (name : String) : Option Json :=
  match members.filter fun m => m.1 = name with
  | [m] => some m.2
  | _ => none

def countMember (members : List (String × Json)) (name : String) : Nat :=
  (members.filter fun m => m.1 = name).length

def string? : Json → Option String
  | string value => some value
  | _ => none

def bool? : Json → Option Bool
  | bool value => some value
  | _ => none

def int? : Json → Option Int
  | int value => some value
  | _ => none

/-- A number from zero to 2⁶⁴ - 1. -/
def count? : Json → Option Nat
  | int (.ofNat n) => if n < Nat.pow 2 64 then some n else none
  | _ => none

def array? : Json → Option (List Json)
  | array items => some items
  | _ => none

def object? : Json → Option (List (String × Json))
  | object members => some members
  | _ => none

end Json

end Lapse
