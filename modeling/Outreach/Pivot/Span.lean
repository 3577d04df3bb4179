import Outreach.Aggregation
import Outreach.Calendar.Instant

/-!
# Intervals for a span of time

The width of the groups of a histogram that covers the time between two instants: hours up to two
days, days up to sixty-two, weeks up to a leap year, months up to five leap years, years beyond.
Without contacts there is no span, and weeks are taken.
-/

namespace Outreach

namespace Interval

def dayNanos : Int := 86400000000000

/-- The longest span in days for each interval but the last. -/
def limits : List (Interval × Int) := [(.hour, 2), (.day, 62), (.week, 366), (.month, 5 * 366)]

def spanning (oldest newest : Option Calendar.Instant) : Interval :=
  match oldest, newest with
  | some oldest, some newest =>
    let span := Calendar.Instant.nanosBetween oldest newest
    match limits.find? fun limit => decide (span ≤ limit.2 * dayNanos) with
    | some limit => limit.1
    | none => .year
  | _, _ => .week

end Interval

end Outreach
