/-
# Shortest decimals

The decimal with the fewest digits that reads back as a given binary datum, and among
those the nearest one.

A datum `m * 2 ^ e` is read back from every decimal in its rounding interval, which
reaches half a unit to either side, and a quarter below where the next smaller datum is
closer.  The ends belong to the interval when `m` is even.  For one digit, two digits and
so on, the two neighbours of the datum on the decimal grid are tried; the first grid with
a neighbour in the interval has the fewest digits.  Of two neighbours at the same
distance the upper one is taken, or the even one where a format asks for it.
-/
import Logbook.Number.Binary
import Logbook.Number.Digits

namespace Logbook

/-! ## 1. Decimals -/

/-- The number `digits * 10 ^ exponent`. -/
structure Decimal where
  digits : Nat
  exponent : Int
  deriving DecidableEq, Repr

namespace Decimal

/-- The decimal without a final zero in its digits. -/
def dropZero (d : Decimal) : Decimal :=
  if d.digits % 10 = 0 then ⟨d.digits / 10, d.exponent + 1⟩ else d

/-- The text without an exponent: zeros fill the places between digits and point. -/
def positional (d : Decimal) : List Char :=
  let ds := decimal d.digits
  if 0 ≤ d.exponent then ds ++ List.replicate d.exponent.toNat '0'
  else
    let places := (-d.exponent).toNat
    let ds := padZeros (places + 1) ds
    ds.take (ds.length - places) ++ '.' :: ds.drop (ds.length - places)

end Decimal

/-! ## 2. The search -/

/-- What happens when both neighbours are equally near. -/
inductive Tie where
  | up
  | even
  deriving DecidableEq, Repr

/-- The rounding interval of a datum on a decimal grid.  A grid point `d` stands for
`d * step`, and the datum for `value`; all are multiples of one unit. -/
structure Interval where
  step : Nat
  low : Nat
  value : Nat
  high : Nat
  closed : Bool

namespace Interval

/-- The interval of `m * 2 ^ e`, on the grid of the multiples of `10 ^ k`. -/
def ofBinary (p : Precision) (m : Nat) (e k : Int) : Interval :=
  let (up2, down2) := powRatio 2 (e - 2)
  let (up10, down10) := powRatio 10 k
  let unit := up2 * down10
  let below := if m = Nat.pow 2 (p.bits - 1) ∧ p.least < e then 1 else 2
  { step := up10 * down2
    low := (4 * m - below) * unit
    value := 4 * m * unit
    high := (4 * m + 2) * unit
    closed := m % 2 = 0 }

/-- Whether a grid point lies in the interval. -/
def has (i : Interval) (d : Nat) : Bool :=
  if i.closed then i.low ≤ d * i.step && d * i.step ≤ i.high
  else i.low < d * i.step && d * i.step < i.high

/-- The nearest grid point in the interval, if there is one. -/
def nearest? (i : Interval) (tie : Tie) : Option Nat :=
  let below := i.value / i.step
  let above := below + 1
  match i.has below, i.has above with
  | false, false => none
  | true, false => some below
  | false, true => some above
  | true, true =>
    let down := i.value - below * i.step
    let up := above * i.step - i.value
    if down < up then some below
    else if up < down then some above
    else match tie with
      | .up => some above
      | .even => some (below + below % 2)

end Interval

/-- The shortest decimal of a positive datum. -/
def shortest (p : Precision) (tie : Tie) (m : Nat) (e : Int) : Decimal :=
  let (num, den) := Binary.ratio m e
  let top := decade num den
  let found := (List.range p.bits).findSome? fun (n : Nat) =>
    let k := top - n
    ((Interval.ofBinary p m e k).nearest? tie).map fun d => Decimal.dropZero ⟨d, k⟩
  found.getD ⟨m, 0⟩

/-! ## 3. Texts -/

namespace Binary

/-- The shortest text that reads back as the datum: never with an exponent, and without a
point for whole numbers.  A negative zero keeps its sign. -/
def text {p : Precision} : Binary p → List Char
  | .nan => "NaN".toList
  | .infinite false => "Infinity".toList
  | .infinite true => "-Infinity".toList
  | .finite s m e _ =>
    let unsigned := if m = 0 then ['0'] else (shortest p .up m e).positional
    if s then '-' :: unsigned else unsigned

/-- The text with a fraction or an exponent, by which a document shows that a number is no
integer: plain from `0.00001` up to sixteen digits, and scientific beyond. -/
def pointedText {p : Precision} : Binary p → List Char
  | .nan => ".nan".toList
  | .infinite false => ".inf".toList
  | .infinite true => "-.inf".toList
  | .finite s m e _ =>
    let unsigned :=
      if m = 0 then "0.0".toList
      else
        let d := shortest p .even m e
        let ds := decimal d.digits
        let point := ds.length + d.exponent
        if 0 ≤ d.exponent ∧ point ≤ 16 then d.positional ++ ".0".toList
        else if -5 < point ∧ point ≤ 16 then d.positional
        else
          let mantissa := match ds with
            | first :: second :: rest => first :: '.' :: second :: rest
            | ds => ds
          mantissa ++ 'e' :: signedDecimal (point - 1)
    if s then '-' :: unsigned else unsigned

end Binary

end Logbook
