import Outreach.Calendar.Instant
import Outreach.Json

/-!
# Bounds and operands

The values that clauses of a query compare with: texts, whole numbers and dates. A date is absolute
or counted back from the day on which the engine evaluates the query.
-/

namespace Outreach

inductive DateBound
  | today
  | yearsAgo (years : UInt32)
  | day (d : Calendar.Day)
  | instant (t : Calendar.Instant)
  deriving DecidableEq

/-- The engine's expression for a date; relative dates are rounded down to the day. -/
def DateBound.expression : DateBound → String
  | .today => "now/d"
  | .yearsAgo years => "now-" ++ toString years.toNat ++ "y/d"
  | .day d => d.text
  | .instant t => t.text

inductive Operand
  | text (s : String)
  | integer (n : Int64)
  | date (bound : DateBound)
  deriving DecidableEq

def Operand.toJson : Operand → Json
  | .text s => .text s
  | .integer n => .ofInt64 n
  | .date bound => .text bound.expression

end Outreach
