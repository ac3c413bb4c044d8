/-
# The calendar

Dates of the proleptic Gregorian calendar, by the number of days since 1 January 1970.
The year counts on without a gap through zero to negative years.

The year is taken to begin in March, so the leap day is the last day of a year and the
months of a year lie at fixed offsets.  Four hundred years are one era of 146097 days.
-/

namespace Logbook

/-! ## 1. Dates -/

/-- A calendar date. -/
structure Date where
  year : Int
  month : Nat
  day : Nat
  deriving DecidableEq, Repr

namespace Date

/-- Days of an era of four hundred years. -/
def eraDays : Int := 146097

/-- Days from 1 March of the year zero to 1 January 1970. -/
def epochOffset : Int := 719468

/-- The year within its era that holds a day of the era. -/
def yearOfEra (day : Nat) : Nat := (day - day / 1460 + day / 36524 - day / 146096) / 365

/-- The day on which a year of an era begins. -/
def yearStart (year : Nat) : Nat := 365 * year + year / 4 - year / 100

/-- The month, counted from March, that holds a day of the year. -/
def monthOfYear (day : Nat) : Nat := (5 * day + 2) / 153

/-- The day on which a month, counted from March, begins. -/
def monthStart (month : Nat) : Nat := (153 * month + 2) / 5

/-- The date a number of days after 1 January 1970. -/
def ofDays (days : Int) : Date :=
  let shifted := days + epochOffset
  let era := shifted / eraDays
  let dayOfEra := (shifted % eraDays).toNat
  let yearOfEra := yearOfEra dayOfEra
  let dayOfYear := dayOfEra - yearStart yearOfEra
  let fromMarch := monthOfYear dayOfYear
  let month := if fromMarch < 10 then fromMarch + 3 else fromMarch - 9
  { year := era * 400 + yearOfEra + (if month ≤ 2 then 1 else 0)
    month
    day := dayOfYear - monthStart fromMarch + 1 }

/-! ## 2. Names -/

/-- The English names of the months. -/
def monthNames : List String :=
  ["January", "February", "March", "April", "May", "June", "July", "August", "September",
   "October", "November", "December"]

/-- The English names of the days of the week. -/
def weekdayNames : List String :=
  ["Monday", "Tuesday", "Wednesday", "Thursday", "Friday", "Saturday", "Sunday"]

/-- The name of the month. -/
def monthName (d : Date) : List Char := (monthNames.getD (d.month - 1) "").toList

end Date

/-- The day of the week, counted from Monday, a number of days after 1 January 1970, which
was a Thursday. -/
def weekdayOfDays (days : Int) : Nat := ((days + 3) % 7).toNat

/-- The name of a day of the week. -/
def weekdayName (weekday : Nat) : List Char := (Date.weekdayNames.getD weekday "").toList

end Logbook
