/-
# Format strings of directives

The text after the colon of a directive, such as `u3` in `{Level:u3}`.  Three readings
share it, and each looks at the same characters in its own way:

* as **flags**, `l` (strings without quotes) and `j` (JSON notation), for a directive
  that prints properties;
* as a **casing**, for a directive that prints plain text: exactly `u` or `w`;
* as the **format of a value**, handed on as it is, unless it is made of flags only.
-/
import Logbook.Text.Case

namespace Logbook

/-! ## 1. Casing -/

/-- A change of letter case. -/
inductive Casing where
  | unchanged
  | upper
  | lower
  deriving DecidableEq, Repr

namespace Casing

/-- The casing that a format string asks for.  Only the exact formats `u` and `w` ask for
one. -/
def ofFormat : Option String → Casing
  | some "u" => .upper
  | some "w" => .lower
  | _ => .unchanged

/-- The text in the asked case. -/
def apply (casing : Casing) (s : String) : String :=
  match casing with
  | .unchanged => s
  | .upper => String.ofList (Text.upper s.toList)
  | .lower => String.ofList (Text.lower s.toList)

end Casing

/-! ## 2. Flags -/

/-- A format string made of the flag letters `l` and `j` only, at least one of them. -/
def isFlagsOnly (format : String) : Bool :=
  !format.isEmpty && format.toList.all fun c => c == 'l' || c == 'j'

/-- The format string that values see: none if it is made of flags only. -/
def valueFormat (format : Option String) : Option String :=
  format.filter fun f => !isFlagsOnly f

/-! ## 3. The descriptor of a directive -/

/-- The format string of a directive, if it has one. -/
structure FormatSpec where
  raw : Option String
  deriving DecidableEq, Repr

namespace FormatSpec

/-- The flag `l`: strings are written without quotes. -/
def literal (spec : FormatSpec) : Bool := spec.raw.any (·.toList.contains 'l')

/-- The flag `j`: values are written in JSON notation. -/
def json (spec : FormatSpec) : Bool := spec.raw.any (·.toList.contains 'j')

/-- Nothing but flags. -/
def flagsOnly (spec : FormatSpec) : Bool := spec.raw.any isFlagsOnly

/-- The casing of plain text. -/
def casing (spec : FormatSpec) : Casing := .ofFormat spec.raw

/-- The format of values. -/
def valueFormat (spec : FormatSpec) : Option String := Logbook.valueFormat spec.raw

end FormatSpec

end Logbook
