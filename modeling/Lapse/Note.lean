import Lapse.Calendar.Date

/-!
# Notes

An annotated comment such as `// TODO[2030-01-31] remove the fallback`.
-/
namespace Lapse

structure Note where
  /-- The string that opens the comment, as written. -/
  opener : String
  tag : String
  /-- What follows tag and date. -/
  content : String
  expiry : Option Calendar.Date
  /-- The number of its line, counted from one. -/
  line : Nat
  /-- The line it was found on, without blanks around it. -/
  source : String
  deriving DecidableEq

end Lapse
