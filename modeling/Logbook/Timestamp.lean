/-
# Timestamps

A timestamp is an instant together with the UTC offset of the place that recorded it.  It
is shown as the date and the time of day of that place.

A second may be a leap second: its fraction then runs on past a whole second, and the
clock stays at the last second of the minute.
-/
import Logbook.Timestamp.Calendar

namespace Logbook

/-- An instant, in seconds and nanoseconds since the start of 1970 in UTC, and an offset
from UTC in seconds. -/
structure Timestamp where
  seconds : Int
  nanos : Nat
  offset : Int
  deriving DecidableEq, Repr

/-- What calendar and clock show. -/
structure Clock where
  date : Date
  weekday : Nat
  hour : Nat
  minute : Nat
  second : Nat
  nanos : Nat
  offset : Int
  deriving DecidableEq, Repr

namespace Timestamp

/-- The same instant at the offset zero. -/
def utc (t : Timestamp) : Timestamp := { t with offset := 0 }

/-- The clock at the place of the timestamp. -/
def clock (t : Timestamp) : Clock :=
  let shown := t.seconds + t.offset
  let days := shown / 86400
  let second := (shown % 86400).toNat
  { date := .ofDays days
    weekday := weekdayOfDays days
    hour := second / 3600
    minute := second / 60 % 60
    second := second % 60
    nanos := t.nanos
    offset := t.offset }

end Timestamp

end Logbook
