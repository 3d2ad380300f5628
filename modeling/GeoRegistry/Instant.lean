/-
# Instant -- moments and spans of time as numbers of microseconds

A moment is counted from 1970 in universal time.  The calendar has the years 1
to 9999, so a moment outside of them cannot be written down.
-/
import GeoRegistry.Binary64

namespace GeoRegistry

set_option autoImplicit false

/-- A moment: microseconds since 1970. -/
abbrev Instant := Int

/-- A span of time in microseconds. -/
abbrev Span := Int

namespace Instant

/-- The whole second a moment lies in. -/
def second (t : Instant) : Int :=
  t / 1000000

/-- The first moment of the calendar. -/
def first : Instant := -62135596800 * 1000000

/-- The last moment of the calendar. -/
def last : Instant := 253402300800 * 1000000 - 1

end Instant

namespace Span

def ofSeconds (n : Int) : Span :=
  n * 1000000

def ofMinutes (n : Int) : Span :=
  n * 60000000

/-- A measured number of seconds to the nearest microsecond, a half to the even
one; nothing for what is no number. -/
def ofMeasured : Binary64 → Span
  | .finite negative m e =>
      let (n, d) := Binary64.magnitude m e
      let micros : Int := Binary64.roundHalfEven (n * 1000000) d
      if negative then -micros else micros
  | _ => 0

/-- The whole days of a span. -/
def days (s : Span) : Int :=
  s / 86400000000

/-- The most days a span may have. -/
def mostDays : Int := 999999999

end Span

end GeoRegistry
