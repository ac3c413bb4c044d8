/-
# Property values

The values that events carry: scalars at the leaves, and sequences, records and
dictionaries above them.  A record is a list of named fields with an optional type tag; a
dictionary is a list of entries, whose keys are values themselves.
-/
import Logbook.Number.Format
import Logbook.Timestamp

namespace Logbook

/-! ## 1. Scalars -/

/-- A value without parts. -/
inductive Scalar where
  | string (text : String)
  | integer (n : Integer)
  | single (x : Binary .single)
  | double (x : Binary .double)
  | bool (b : Bool)
  | char (c : Char)
  | instant (t : Timestamp)
  /-- Anything else, captured as text. -/
  | other (text : String)
  deriving DecidableEq, Repr

namespace Scalar

/-- Integers and floating point data. -/
def isNumber : Scalar → Bool
  | .integer _ | .single _ | .double _ => true
  | _ => false

/-- The text of a string. -/
def string? : Scalar → Option String
  | .string s => some s
  | _ => none

end Scalar

/-! ## 2. Values -/

/-- A value of a property. -/
inductive Value where
  | null
  | scalar (s : Scalar)
  | sequence (items : List Value)
  | record (tag : Option String) (fields : List (String × Value))
  | dictionary (entries : List (Value × Value))
  deriving Repr

namespace Value

/-- Whether the value is absent. -/
def isNull : Value → Bool
  | .null => true
  | _ => false

/-- The scalar that a value is. -/
def scalar? : Value → Option Scalar
  | .scalar s => some s
  | _ => none

/-- The text of a string value. -/
def string? : Value → Option String
  | .scalar (.string s) => some s
  | _ => none

/-- The value of a string. -/
def ofString (s : String) : Value := .scalar (.string s)

/-- The value of a machine integer of a kind, if the kind holds it. -/
def ofInt? (kind : IntegerKind) (n : Int) : Option Value :=
  (Integer.ofInt? kind n).map fun i => .scalar (.integer i)

/-- The value of an instant in UTC. -/
def ofUtcSeconds (seconds : Int) : Value := .scalar (.instant ⟨seconds, 0, 0⟩)

/-- The value of something that may be missing. -/
def ofOption (v : Option Value) : Value := v.getD .null

end Value

end Logbook
