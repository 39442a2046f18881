import Lapse.Note
import Lapse.Calendar.Age
import Lapse.Calendar.Instant

/-!
# The expiry policy

A note fails when the day it expires has begun, or, under a strict policy, when it has no
expiry date.
-/
namespace Lapse

open Calendar (Instant Span)

structure Policy where
  now : Instant
  strict : Bool
  deriving DecidableEq, Repr

inductive Violation
  | missingExpiry (tag : String)
  | overdue (tag : String) (age : Span)
  deriving DecidableEq, Repr

namespace Violation

def message : Violation → String
  | missingExpiry tag => tag ++ " missing expiry date"
  | overdue tag age => tag ++ " now overdue for " ++ Calendar.Age.text age.seconds.toNat

end Violation

/-- Why a note fails, if it does. A date stands for the midnight that begins it. An age that cannot
be told is given as zero. -/
def Policy.check (policy : Policy) (a : Note) : Option Violation :=
  match a.expiry with
  | none => if policy.strict then some (.missingExpiry a.tag) else none
  | some date =>
    if date.midnight.Before policy.now then
      let age := (policy.now.since? date.midnight).bind Span.forward?
      some (.overdue a.tag (age.getD .zero))
    else none

end Lapse
