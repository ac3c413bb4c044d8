/-
# Decimals read by scaling

A quick way to read a decimal as a double: the leading digits that fit a 64-bit word are
rounded to a double, which is then multiplied or divided by a rounded power of ten.  Each
step rounds on its own, so the result may differ in the last place from the double
nearest to the decimal; it is the nearest one when the digits fit 53 bits and the power
of ten is at most twenty-two.

This is how numbers of JSON documents that are no integers are read.
-/
import Logbook.Number.Binary

namespace Logbook

namespace Scaled

/-- Takes digits as long as the number fits a word of 64 bits: the number, and the digits
left over. -/
def takeWord (start : Nat) : List Char → Nat × List Char
  | [] => (start, [])
  | c :: rest =>
    let next := 10 * start + Binary.digitValue c
    if next < UInt64.size then takeWord next rest else (start, c :: rest)

/-- The double nearest to a power of ten, which is a whole number. -/
def roundedPower (n : Nat) : Nat :=
  match Binary.ofRatio .double false (Nat.pow 10 n) 1 with
  | .finite _ m e _ => let (num, den) := Binary.ratio m e; num / den
  | _ => 0

/-- Whether a datum is a zero of either sign. -/
def isZero {p : Precision} : Binary p → Bool
  | .finite _ 0 _ _ => true
  | _ => false

/-- Division by a power of ten, in steps of at most `10 ^ 308`. -/
def divideBy (x : Binary .double) (n : Nat) : Binary .double :=
  if n ≤ 308 then x.shrink (roundedPower n)
  else if isZero x then x
  else divideBy (x.shrink (roundedPower 308)) (n - 308)
  termination_by n

/-- A word times a power of ten. -/
def ofParts (negative : Bool) (significand : Nat) (exponent : Int) : Binary .double :=
  let x := Binary.ofRatio .double negative significand 1
  if exponent < 0 then divideBy x (-exponent).toNat
  else if isZero x then x
  else if exponent ≤ 308 then x.scale (roundedPower exponent.toNat)
  else .infinite negative

/-- Reads a decimal with an optional sign, fraction and exponent. -/
def read? (s : List Char) : Option (Binary .double) :=
  let (negative, unsigned) := match s with
    | '-' :: rest => (true, rest)
    | s => (false, s)
  (Binary.splitDecimal? unsigned).map fun (whole, fraction, e) =>
    let (word, dropped) := takeWord 0 whole
    let (word, unread) := takeWord word fraction
    ofParts negative word (dropped.length - (fraction.length - unread.length : Nat) + e)

end Scaled

end Logbook
