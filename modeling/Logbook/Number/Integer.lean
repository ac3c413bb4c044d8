/-
# Machine integers

Integers of four widths and signs.  A value carries the bounds of its kind, so the
hexadecimal text, which is the value modulo the size of the word, has a meaning of its
own for each kind.
-/
import Logbook.Number.Digits

namespace Logbook

/-- The kinds of machine integers. -/
inductive IntegerKind where
  | signed64
  | unsigned64
  | signed128
  | unsigned128
  deriving DecidableEq, Repr

namespace IntegerKind

/-- The width of the word. -/
def bits : IntegerKind → Nat
  | .signed64 | .unsigned64 => 64
  | .signed128 | .unsigned128 => 128

/-- The least value of the kind. -/
def least : IntegerKind → Int
  | .signed64 => -Nat.pow 2 63
  | .signed128 => -Nat.pow 2 127
  | .unsigned64 | .unsigned128 => 0

/-- The greatest value of the kind. -/
def greatest : IntegerKind → Int
  | .signed64 => Nat.pow 2 63 - 1
  | .unsigned64 => Nat.pow 2 64 - 1
  | .signed128 => Nat.pow 2 127 - 1
  | .unsigned128 => Nat.pow 2 128 - 1

end IntegerKind

/-- An integer of some kind. -/
structure Integer where
  kind : IntegerKind
  value : Int
  least_le : kind.least ≤ value
  le_greatest : value ≤ kind.greatest
  deriving DecidableEq, Repr

namespace Integer

/-- The integer of a kind with a value, if the kind holds it. -/
def ofInt? (kind : IntegerKind) (value : Int) : Option Integer :=
  if h : kind.least ≤ value ∧ value ≤ kind.greatest then some ⟨kind, value, h.1, h.2⟩ else none

/-- The decimal text. -/
def text (n : Integer) : List Char := signedDecimal n.value

/-- The value as an unsigned word. -/
def word (n : Integer) : Nat := (n.value % Nat.pow 2 n.kind.bits).toNat

end Integer

end Logbook
