/-
# Format providers

A provider turns scalars and timestamps into text.  The invariant provider does so without
regard to a locale: a point before fractions, no grouping unless a format asks for it,
English names.  Other providers replace either function.
-/
import Logbook.Timestamp.Pattern
import Logbook.Value

namespace Logbook

/-- The texts of scalars and of event timestamps, under an optional format. -/
structure Provider where
  scalarText : Scalar → Option String → String
  timestampText : Timestamp → Option String → String

namespace Provider

/-! ## 1. The invariant texts -/

/-- The text of a timestamp. -/
def invariantTimestamp (t : Timestamp) (format : Option String) : String :=
  String.ofList (t.text (format.getD Timestamp.defaultPattern).toList)

/-- The text of an integer. -/
def integerText (n : Integer) (format : Option String) : List Char :=
  match format.bind NumberFormat.parse? with
  | some f => n.formatted f
  | none => n.text

/-- The text of a double. -/
def doubleText (x : Binary .double) (format : Option String) : List Char :=
  ((format.bind NumberFormat.parse?).bind x.formatted?).getD x.text

/-- The text of a single.  A format is applied to the double of the same value. -/
def singleText (x : Binary .single) (format : Option String) : List Char :=
  ((format.bind NumberFormat.parse?).bind (x.convert .double).formatted?).getD x.text

/-- The text of a scalar.  Strings are left as they are. -/
def invariantScalar (s : Scalar) (format : Option String) : String :=
  match s with
  | .string text | .other text => text
  | .integer n => String.ofList (integerText n format)
  | .single x => String.ofList (singleText x format)
  | .double x => String.ofList (doubleText x format)
  | .bool true => "true"
  | .bool false => "false"
  | .char c => String.singleton c
  | .instant t => invariantTimestamp t format

/-! ## 2. Providers -/

/-- The provider without a locale. -/
def invariant : Provider := ⟨invariantScalar, invariantTimestamp⟩

/-- A provider with words for the truth values and brackets around event timestamps. -/
def worded : Provider where
  scalarText
    | .bool true, _ => "yes"
    | .bool false, _ => "no"
    | s, format => invariantScalar s format
  timestampText t format := "<" ++ invariantTimestamp t format ++ ">"

end Provider

end Logbook
