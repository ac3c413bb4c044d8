/-
# Timestamp patterns

A pattern is text in which runs of certain letters stand for fields of the clock:

* `y` year, `M` month, `d` day, `H` and `h` hour, `m` minute, `s` second, `f` and `F`
  fraction, `t` half of the day, `z` and `K` offset from UTC;
* a part between quotes of one kind, and a character after a backslash, is text;
* `%` stands for nothing, so it can separate a letter from its neighbours.

The length of a run chooses the form of its field.  `Pattern.render` reads the pattern
from left to right, one run, quotation or character at a time.  A pattern of one letter
may be the name of a standard pattern instead (`standard?`).
-/
import Logbook.Number.Digits
import Logbook.Timestamp

namespace Logbook

namespace Pattern

/-! ## 1. Fields -/

/-- A number with zeros in front, where the sign counts as a column. -/
def padSigned (width : Nat) (n : Int) : List Char :=
  if n < 0 then '-' :: padZeros (width - 1) (decimal n.natAbs)
  else padZeros width (decimal n.natAbs)

/-- One column or two. -/
def oneOrTwo (run n : Nat) : List Char := if run = 1 then decimal n else padZeros 2 (decimal n)

/-- The year: its last two digits, or all of it. -/
def year (run : Nat) (y : Int) : List Char :=
  if run = 1 then signedDecimal (y.tmod 100)
  else if run = 2 then padSigned 2 (y.tmod 100)
  else padSigned run y

/-- The number or the name of a day or a month. -/
def numberOrName (run n : Nat) (name : List Char) : List Char :=
  if run ≤ 2 then oneOrTwo run n else if run = 3 then name.take 3 else name

/-- The hour on a clock of twelve. -/
def twelve (hour : Nat) : Nat := if hour % 12 = 0 then 12 else hour % 12

/-- The digits of the fraction of a second.  A leap second shows the last fraction. -/
def fraction (run nanos : Nat) : List Char :=
  (padZeros 9 (decimal (min nanos 999999999))).take run

/-- A numeral without its final zeros. -/
def dropFinalZeros (s : List Char) : List Char := (s.reverse.dropWhile (· == '0')).reverse

/-- The half of the day. -/
def dayHalf (run hour : Nat) : List Char :=
  let mark := if hour < 12 then ['A', 'M'] else ['P', 'M']
  if run = 1 then mark.take 1 else mark

/-- The offset from UTC, in hours or in hours and minutes. -/
def offset (run : Nat) (seconds : Int) : List Char :=
  let sign := if seconds < 0 then '-' else '+'
  let hours := seconds.natAbs / 3600
  let minutes := seconds.natAbs % 3600 / 60
  if run = 1 then sign :: decimal hours
  else if run = 2 then sign :: padZeros 2 (decimal hours)
  else sign :: padZeros 2 (decimal hours) ++ ':' :: padZeros 2 (decimal minutes)

/-- The text of a run of a field letter.  Other characters are no field. -/
def field? (c : Clock) (letter : Char) (run : Nat) : Option (List Char) :=
  match letter with
  | 'y' => some (year run c.date.year)
  | 'M' => some (numberOrName run c.date.month c.date.monthName)
  | 'd' => some (numberOrName run c.date.day (weekdayName c.weekday))
  | 'H' => some (oneOrTwo run c.hour)
  | 'h' => some (oneOrTwo run (twelve c.hour))
  | 'm' => some (oneOrTwo run c.minute)
  | 's' => some (oneOrTwo run c.second)
  | 'f' => some (fraction run c.nanos)
  | 'F' => some (dropFinalZeros (fraction run c.nanos))
  | 't' => some (dayHalf run c.hour)
  | 'z' => some (offset run c.offset)
  | _ => none

/-! ## 2. Rendering -/

theorem length_dropWhile_lt {p : Char → Bool} (c : Char) (s : List Char) :
    (s.dropWhile p).length < (c :: s).length :=
  Nat.lt_succ_of_le (List.dropWhile_suffix p).length_le

/-- The text of a clock under a pattern. -/
def render (clock : Clock) : List Char → List Char
  | [] => []
  | c :: rest =>
    match field? clock c (1 + (rest.takeWhile (· == c)).length) with
    | some text => text ++ render clock (rest.dropWhile (· == c))
    | none =>
      if c = 'K' then offset 3 clock.offset ++ render clock rest
      else if c = '\'' ∨ c = '"' then
        rest.takeWhile (· != c) ++ render clock ((rest.dropWhile (· != c)).drop 1)
      else if c = '\\' then
        match rest with
        | [] => []
        | d :: rest => d :: render clock rest
      else if c = '%' then render clock rest
      else c :: render clock rest
  termination_by s => s.length
  decreasing_by
    · exact length_dropWhile_lt c rest
    · simp
    · have := length_dropWhile_lt (p := (· != c)) c rest
      simp only [List.length_drop]
      omega
    · simp only [List.length_cons]
      omega
    · simp
    · simp

/-! ## 3. Standard patterns -/

/-- A standard pattern, and whether it shows the instant in UTC. -/
def standard? : Char → Option (String × Bool)
  | 'o' | 'O' => some ("yyyy'-'MM'-'dd'T'HH':'mm':'ss.fffffffzzz", false)
  | 's' => some ("yyyy'-'MM'-'dd'T'HH':'mm':'ss", false)
  | 'u' => some ("yyyy'-'MM'-'dd HH':'mm':'ss'Z'", true)
  | 'd' => some ("MM/dd/yyyy", false)
  | 'D' => some ("dddd, dd MMMM yyyy", false)
  | 't' => some ("HH:mm", false)
  | 'T' => some ("HH:mm:ss", false)
  | 'g' => some ("MM/dd/yyyy HH:mm", false)
  | 'G' => some ("MM/dd/yyyy HH:mm:ss", false)
  | 'r' | 'R' => some ("ddd, dd MMM yyyy HH':'mm':'ss 'GMT'", true)
  | _ => none

end Pattern

namespace Timestamp

/-- The text of a timestamp under a pattern that is no standard one. -/
def custom (t : Timestamp) (pattern : List Char) : List Char := Pattern.render t.clock pattern

/-- The text of a timestamp under a pattern, standard or not. -/
def text (t : Timestamp) (pattern : List Char) : List Char :=
  match pattern with
  | [letter] =>
    match Pattern.standard? letter with
    | some (standard, inUtc) => (if inUtc then t.utc else t).custom standard.toList
    | none => t.custom [letter]
  | pattern => t.custom pattern

/-- The text that keeps all of a timestamp, down to a tenth of a microsecond. -/
def roundTrip (t : Timestamp) : List Char := t.text ['o']

/-- The pattern of timestamps that no format asks for. -/
def defaultPattern : String := "yyyy-MM-dd HH:mm:ss.fff zzz"

end Timestamp

end Logbook
