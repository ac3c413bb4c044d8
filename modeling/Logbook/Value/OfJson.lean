/-
# Values of JSON documents

Capturing a JSON document as a property value keeps its shape: arrays become sequences,
and objects become records without a tag, in the order of their members.

A number written as an integer becomes a signed 64-bit integer if it fits, else an
unsigned one; any other number, and the integer `-0`, becomes a double.
-/
import Logbook.Json
import Logbook.Number.Scaled
import Logbook.Value

namespace Logbook

namespace Value

/-- The value of a row of digits; one must be there. -/
def readNatural? (s : List Char) : Option Nat :=
  if s ≠ [] ∧ s.all Char.isDigit then some (Binary.readDigits 0 s) else none

/-- The integer that a spelling without fraction and exponent stands for. -/
def readInteger? : List Char → Option Int
  | '-' :: digits => (readNatural? digits).map fun n => -(n : Int)
  | digits => (readNatural? digits).map fun n => (n : Int)

/-- The double that a spelling stands for. -/
def readDouble (s : List Char) : Value :=
  .scalar (.double ((Scaled.read? s).getD .nan))

/-- The scalar of a number. -/
def ofNumeral (s : List Char) : Value :=
  match readInteger? s with
  | some n =>
    if n = 0 ∧ s.head? = some '-' then readDouble s
    else
      match ofInt? .signed64 n with
      | some v => v
      | none => (ofInt? .unsigned64 n).getD (readDouble s)
  | none => readDouble s

mutual
/-- The value of a document. -/
def ofJson : Json → Value
  | .null => .null
  | .bool b => .scalar (.bool b)
  | .number spelling => ofNumeral spelling.toList
  | .string s => ofString s
  | .array items => .sequence (ofJsonItems items)
  | .object members => .record none (ofJsonMembers members)

/-- The values of the items of an array. -/
def ofJsonItems : List Json → List Value
  | [] => []
  | doc :: docs => ofJson doc :: ofJsonItems docs

/-- The fields of an object. -/
def ofJsonMembers : List (String × Json) → List (String × Value)
  | [] => []
  | (name, doc) :: docs => (name, ofJson doc) :: ofJsonMembers docs
end

end Value

end Logbook
