/-
# Clock -- moments that can be shown, and spans that can be kept

A clock shows moments of the calendar only.  A span is kept as whole days and
the rest of one, and there is a limit to the days.
-/
import GeoRegistry.Instant
import GeoRegistry.Timestamp
import GeoRegistry.Failure
import GeoRegistry.Text.WholeNumber

namespace GeoRegistry

set_option autoImplicit false

/-- A number has 32 bits. -/
def isShortWord (n : Int) : Bool :=
  -2147483648 ≤ n && n < 2147483648

namespace Instant

/-- The year a moment lies in. -/
def year (t : Instant) : Int :=
  (Calendar.ofDayNumber (t.second.fdiv 86400)).1

/-- A moment as a clock shows it.  The clock counts seconds in 64 bits, and years
since 1900 in 32; so many bits also has the year that is complained of. -/
def shown (now : Instant) : Except Failure Instant :=
  if first ≤ now ∧ now ≤ last then .ok now
  else if !Text.WholeNumber.isWord now.second then
    .error (.overflow "timestamp out of range for platform time_t")
  else if !isShortWord (now.year - 1900) then .error .undated
  else
    .error (.badValue ("year " ++ toString (now.year.bmod 4294967296) ++ " is out of range"))

/-- The moment that lies a span after another one. -/
def after (now : Instant) (s : Span) : Except Failure Instant :=
  if now + s < first ∨ last < now + s then .error (.overflow "date value out of range")
  else .ok (now + s)

end Instant

namespace Span

/-- A span with as many days as can be kept. -/
def kept (s : Span) : Except Failure Span :=
  if !isShortWord s.days then
    .error (.overflow "Python int too large to convert to C int")
  else if mostDays < s.days.natAbs then
    .error (.overflow ("days=" ++ toString s.days ++ "; must have magnitude <= " ++
      toString mostDays))
  else .ok s

end Span

end GeoRegistry
