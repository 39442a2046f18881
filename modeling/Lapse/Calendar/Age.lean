import Lapse.Text.Blank

/-!
# Ages

Lengths of time for a reader: the two largest units that occur. A year is 365.25 days and a month
30.44 days, which is 2630016 seconds.
-/
namespace Lapse.Calendar

inductive AgeUnit
  | year | month | day | hour | minute | second
  deriving DecidableEq, Repr

namespace AgeUnit

def all : List AgeUnit := [year, month, day, hour, minute, second]

def seconds : AgeUnit → Nat
  | year => 31557600
  | month => 2630016
  | day => 86400
  | hour => 3600
  | minute => 60
  | second => 1

/-- `count` of a unit; only the long names have a plural. -/
def counted (u : AgeUnit) (count : Nat) : String :=
  let plural := if count = 1 then "" else "s"
  toString count ++ match u with
    | year => "year" ++ plural
    | month => "month" ++ plural
    | day => "day" ++ plural
    | hour => "h"
    | minute => "m"
    | second => "s"

end AgeUnit

namespace Age

/-- Splits `total` seconds over the units, each taking what it can. -/
def split : (units : List AgeUnit) → (total : Nat) → List (AgeUnit × Nat)
  | [], _ => []
  | u :: units, total => (u, total / u.seconds) :: split units (total % u.seconds)

/-- The units that occur in `total` seconds with their counts. -/
def parts (total : Nat) : List (AgeUnit × Nat) :=
  (split AgeUnit.all total).filter fun part => part.2 ≠ 0

/-- All units that occur, with blanks between them. -/
def fullText (total : Nat) : String :=
  if total = 0 then AgeUnit.second.counted 0
  else " ".intercalate ((parts total).map fun (u, count) => u.counted count)

/-- The first two words of the full text: the two largest units that occur. -/
def text (total : Nat) : String :=
  " ".intercalate (((Text.splitWords (fullText total).toList).take 2).map String.ofList)

end Age

end Lapse.Calendar
