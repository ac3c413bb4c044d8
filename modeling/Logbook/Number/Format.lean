/-
# Standard numeric formats

A standard format is a letter and up to two digits of precision:

* `F2` fixed places, `N1` the same with grouped thousands, `P0` percent;
* `E2` an exponent of at least three digits;
* `D5` an integer padded with zeros, `X4` in hexadecimal;
* `G`, `R` the plain text.

Letters count in either case; for `E` and `X` the case is that of the output.  Any other
format, and a format that does not apply to the kind of number, leaves the plain text.
-/
import Logbook.Number.Fixed
import Logbook.Number.Integer
import Logbook.Number.Shortest

namespace Logbook

/-! ## 1. Formats -/

/-- What a format letter asks for. -/
inductive NumberStyle where
  | padded
  | hexadecimal (capitals : Bool)
  | fixed
  | grouped
  | exponent (capitals : Bool)
  | percent
  | plain
  deriving DecidableEq, Repr

/-- A standard format. -/
structure NumberFormat where
  style : NumberStyle
  precision : Option Nat
  deriving DecidableEq, Repr

namespace NumberFormat

/-- The style of a format letter. -/
def style? (c : Char) : Option NumberStyle :=
  match c with
  | 'D' | 'd' => some .padded
  | 'X' => some (.hexadecimal true)
  | 'x' => some (.hexadecimal false)
  | 'F' | 'f' => some .fixed
  | 'N' | 'n' => some .grouped
  | 'E' => some (.exponent true)
  | 'e' => some (.exponent false)
  | 'P' | 'p' => some .percent
  | 'G' | 'g' | 'R' | 'r' => some .plain
  | _ => none

/-- The precision after the letter: nothing, or one or two digits. -/
def precision? (s : List Char) : Option (Option Nat) :=
  if s.length ≤ 2 ∧ s.all Char.isDigit then
    some (if s = [] then none else some (Binary.readDigits 0 s))
  else none

/-- Reads a standard format. -/
def parse? (format : String) : Option NumberFormat :=
  match format.toList with
  | [] => none
  | letter :: rest =>
    (style? letter).bind fun style => (precision? rest).map fun precision => ⟨style, precision⟩

end NumberFormat

/-! ## 2. Floating point -/

/-- A minus sign in front of a negative number. -/
def signed (negative : Bool) (unsigned : List Char) : List Char :=
  if negative then '-' :: unsigned else unsigned

/-- The exponent of a number: a letter, a sign, and at least three digits. -/
def exponentText (capitals : Bool) (exponent : Int) : List Char :=
  (if capitals then 'E' else 'e') :: (if exponent < 0 then '-' else '+') ::
    padZeros 3 (decimal exponent.natAbs)

/-- The numeral with its integer part grouped by thousands. -/
def groupInteger (numeral : List Char) : List Char :=
  groupThousands (numeral.takeWhile (· != '.')) ++ numeral.dropWhile (· != '.')

/-- The digits of a non-finite datum, which has none. -/
def nonFiniteText {p : Precision} : Binary p → List Char
  | .infinite _ => "inf".toList
  | _ => "NaN".toList

namespace Binary

/-- The text with a fixed number of places. -/
def fixedText {p : Precision} (x : Binary p) (places : Nat) : List Char :=
  match x with
  | .finite s m e _ => let (num, den) := ratio m e; signed s (fixed num den places)
  | x => x.text

/-- The text with a fixed number of places and grouped thousands.  Zero has no sign; a
number that is rounded to zero keeps its own. -/
def groupedText {p : Precision} (x : Binary p) (places : Nat) : List Char :=
  match x with
  | .finite s m e _ =>
    let (num, den) := ratio m e
    signed (s && m != 0) (groupInteger (fixed num den places))
  | .infinite s => signed s (groupThousands (nonFiniteText x))
  | .nan => groupThousands (nonFiniteText x)

/-- The text with an exponent. -/
def exponentialText {p : Precision} (x : Binary p) (places : Nat) (capitals : Bool) :
    List Char :=
  match x with
  | .finite s m e _ =>
    let (num, den) := ratio m e
    let (mantissa, exponent) := scientific num den places
    signed s (mantissa ++ exponentText capitals exponent)
  | x => x.text

/-- The text of a datum under a standard format, if the format applies to it.  Non-finite
data are always written plainly. -/
def formatted? {p : Precision} (x : Binary p) (f : NumberFormat) : Option (List Char) :=
  match f.style with
  | .padded | .hexadecimal _ => none
  | .fixed => some (x.fixedText (f.precision.getD 2))
  | .grouped =>
    some (if x.isFinite then x.groupedText (f.precision.getD 2) else x.text)
  | .exponent capitals => some (x.exponentialText (f.precision.getD 6) capitals)
  | .percent =>
    some (if x.isFinite then (x.scale 100).groupedText (f.precision.getD 2) ++ " %".toList
      else x.text)
  | .plain => some x.text

end Binary

/-! ## 3. Integers -/

namespace Integer

/-- A whole number with zeros in its places after the point. -/
def withZeros (numeral : List Char) (places : Nat) : List Char :=
  if places = 0 then numeral else numeral ++ '.' :: List.replicate places '0'

/-- The text of an integer under a standard format. -/
def formatted (n : Integer) (f : NumberFormat) : List Char :=
  let digits := decimal n.value.natAbs
  let sign := signed (n.value < 0)
  match f.style with
  | .padded => sign (padZeros (f.precision.getD 0) digits)
  | .hexadecimal capitals =>
    let digits := hexadecimal n.word
    padZeros (f.precision.getD 0) (if capitals then digits.map Char.toUpper else digits)
  | .fixed => withZeros (sign digits) (f.precision.getD 2)
  | .grouped => withZeros (sign (groupThousands digits)) (f.precision.getD 2)
  | .exponent _ | .percent =>
    ((Binary.ofInt .double n.value).formatted? f).getD n.text
  | .plain => n.text

end Integer

end Logbook
