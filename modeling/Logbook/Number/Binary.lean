/-
# Binary floating point

A floating point datum is a NaN, an infinity, or a signed product of a whole mantissa and
a power of two.  A precision fixes the number of mantissa bits and the range of the
exponent; a finite datum carries the proof that it is the normal form of its value in
that precision, so equal values have equal forms (zeros keep their sign).

`Binary.ofRatio` rounds a quotient to the nearest datum, ties to the even mantissa.
Everything that makes a datum goes through it: reading a decimal, converting an integer,
changing the precision, products and quotients.
-/
import Logbook.Number.Rounding

namespace Logbook

/-! ## 1. Precisions and data -/

/-- The shape of a binary format: mantissas below `2 ^ bits`, and exponents from `least`
to `greatest`. -/
structure Precision where
  bits : Nat
  least : Int
  greatest : Int
  deriving DecidableEq, Repr

namespace Precision

/-- Four bytes. -/
def single : Precision := ⟨24, -149, 104⟩

/-- Eight bytes. -/
def double : Precision := ⟨53, -1074, 971⟩

/-- The mantissa and the exponent are in range, and the mantissa uses all its bits unless
the exponent is the least one. -/
def Holds (p : Precision) (mantissa : Nat) (exponent : Int) : Prop :=
  mantissa < Nat.pow 2 p.bits ∧ p.least ≤ exponent ∧ exponent ≤ p.greatest ∧
    (Nat.pow 2 (p.bits - 1) ≤ mantissa ∨ exponent = p.least)

instance (p : Precision) (m : Nat) (e : Int) : Decidable (p.Holds m e) :=
  inferInstanceAs (Decidable (_ ∧ _ ∧ _ ∧ _))

end Precision

/-- A floating point datum. -/
inductive Binary (p : Precision) where
  | nan
  | infinite (negative : Bool)
  | finite (negative : Bool) (mantissa : Nat) (exponent : Int) (holds : p.Holds mantissa exponent)
  deriving DecidableEq, Repr

namespace Binary

/-- Neither a NaN nor an infinity. -/
def isFinite {p : Precision} : Binary p → Bool
  | .finite .. => true
  | _ => false

/-- The datum with the other sign. -/
def neg {p : Precision} : Binary p → Binary p
  | .nan => .nan
  | .infinite s => .infinite !s
  | .finite s m e h => .finite (!s) m e h

/-- The absolute value `m * 2 ^ e`, as a quotient. -/
def ratio (m : Nat) (e : Int) : Nat × Nat :=
  let (up, down) := powRatio 2 e
  (m * up, down)

/-! ## 2. Rounding -/

/-- The exponent at which the mantissa of a positive quotient has all its bits, or the
least one. -/
def roundingExponent (p : Precision) (num den : Nat) : Int :=
  let guess := (num.log2 : Int) - den.log2 - (p.bits - 1)
  let (up, down) := powRatio 2 guess
  let fitted := if num * down < Nat.pow 2 (p.bits - 1) * (den * up) then guess - 1 else guess
  max p.least fitted

/-- The datum nearest to `num / den`, with a sign. -/
def ofRatio (p : Precision) (negative : Bool) (num den : Nat) : Binary p :=
  let e := if num = 0 then p.least else roundingExponent p num den
  let (up, down) := powRatio 2 e
  let m := roundEven (num * down) (den * up)
  if h : p.Holds m e then .finite negative m e h
  else if h : p.Holds (Nat.pow 2 (p.bits - 1)) (e + 1) then .finite negative _ _ h
  else .infinite negative

/-- The datum nearest to an integer. -/
def ofInt (p : Precision) (n : Int) : Binary p := ofRatio p (n < 0) n.natAbs 1

/-- The datum of another precision nearest to a datum. -/
def convert {p : Precision} (q : Precision) : Binary p → Binary q
  | .nan => .nan
  | .infinite s => .infinite s
  | .finite s m e _ => let (num, den) := ratio m e; ofRatio q s num den

/-- The product with a positive natural number. -/
def scale {p : Precision} (x : Binary p) (n : Nat) : Binary p :=
  match x with
  | .finite s m e _ => let (num, den) := ratio m e; ofRatio p s (num * n) den
  | x => x

/-- The quotient by a positive natural number. -/
def shrink {p : Precision} (x : Binary p) (n : Nat) : Binary p :=
  match x with
  | .finite s m e _ => let (num, den) := ratio m e; ofRatio p s num (den * n)
  | x => x

/-! ## 3. Reading decimals -/

/-- The datum nearest to `digits * 10 ^ exponent`.  Exponents far beyond the range are
settled without computing the power. -/
def ofDecimal (p : Precision) (negative : Bool) (digits : Nat) (exponent : Int) : Binary p :=
  let leading := digitCount digits + exponent
  if digits = 0 ∨ leading < -400 then ofRatio p negative 0 1
  else if leading > 400 then .infinite negative
  else
    let (up, down) := powRatio 10 exponent
    ofRatio p negative (digits * up) down

/-- The value of a digit. -/
def digitValue (c : Char) : Nat := c.toNat - '0'.toNat

/-- The number that a row of digits continues. -/
def readDigits (start : Nat) (s : List Char) : Nat :=
  s.foldl (fun n c => 10 * n + digitValue c) start

/-- The value of a signed row of digits; a plus sign is allowed, and one digit must be
there. -/
def readExponent? (s : List Char) : Option Int :=
  let (negative, digits) := match s with
    | '-' :: rest => (true, rest)
    | '+' :: rest => (false, rest)
    | s => (false, s)
  if digits ≠ [] ∧ digits.all Char.isDigit then
    let n := (readDigits 0 digits : Int)
    some (if negative then -n else n)
  else none

/-- The parts of an unsigned decimal: whole digits, fraction digits and exponent.  The
point and the exponent may be absent, but not all digits. -/
def splitDecimal? (s : List Char) : Option (List Char × List Char × Int) :=
  let whole := s.takeWhile Char.isDigit
  let rest := s.dropWhile Char.isDigit
  let (fraction, rest) := match rest with
    | '.' :: rest => (rest.takeWhile Char.isDigit, rest.dropWhile Char.isDigit)
    | rest => ([], rest)
  if whole = [] ∧ fraction = [] then none
  else match rest with
    | [] => some (whole, fraction, 0)
    | c :: rest =>
      if c = 'e' ∨ c = 'E' then (readExponent? rest).map fun e => (whole, fraction, e) else none

/-- Reads a decimal with an optional sign, fraction and exponent. -/
def read? (p : Precision) (s : List Char) : Option (Binary p) :=
  let (negative, unsigned) := match s with
    | '-' :: rest => (true, rest)
    | '+' :: rest => (false, rest)
    | s => (false, s)
  (splitDecimal? unsigned).map fun (whole, fraction, e) =>
    ofDecimal p negative (readDigits (readDigits 0 whole) fraction) (e - fraction.length)

end Binary

end Logbook
