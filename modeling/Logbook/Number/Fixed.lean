/-
# Decimals with a given number of places

The exact value of a quotient, rounded half to even at a decimal place: with a fixed
number of places after the point (`fixed`), or after the leading digit, with an exponent
(`scientific`).
-/
import Logbook.Number.Digits
import Logbook.Number.Rounding

namespace Logbook

/-- A whole number of units in the last of `places` places, written with its point. -/
def withPoint (places n : Nat) : List Char :=
  if places = 0 then decimal n
  else decimal (n / Nat.pow 10 places) ++ '.' :: padZeros places (decimal (n % Nat.pow 10 places))

/-- The quotient with a fixed number of places. -/
def fixed (num den places : Nat) : List Char :=
  withPoint places (roundEven (num * Nat.pow 10 places) den)

/-- A mantissa with one digit before the point, and the exponent of ten. -/
def scientific (num den places : Nat) : List Char × Int :=
  if num = 0 then (withPoint places 0, 0)
  else
    let top := decade num den
    let (up, down) := powRatio 10 (places - top)
    let n := roundEven (num * up) (den * down)
    if n = Nat.pow 10 (places + 1) then (withPoint places (Nat.pow 10 places), top + 1)
    else (withPoint places n, top)

end Logbook
