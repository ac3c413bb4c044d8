/-
# The JSON notation

Values as JSON: records and dictionaries become objects, the tag of a record a last member
`$type`, and the key of a dictionary a string.  What JSON has no word for becomes a
string: characters, points in time, and floating point data that are not finite.

A scalar at the top of a directive is written in the display notation.
-/
import Logbook.Notation.Display

namespace Logbook

namespace JsonNotation

/-! ## 1. Scalars -/

/-- A floating point datum: a number if it is finite, and a string if not. -/
def floatText {p : Precision} (x : Binary p) : String :=
  let text := String.ofList x.text
  if x.isFinite then text else Text.quote text

/-- The text of a scalar below the top. -/
def scalarText : Scalar → String
  | .string s | .other s => Text.quote s
  | .integer n => String.ofList n.text
  | .single x => floatText x
  | .double x => floatText x
  | .bool true => "true"
  | .bool false => "false"
  | .char c => Text.quote (String.singleton c)
  | .instant t => "\"" ++ String.ofList t.roundTrip ++ "\""

/-- The span of a scalar below the top. -/
def scalarSpan (s : Scalar) : Span Role := .inRole (Display.role s) (scalarText s)

/-- The role and the unquoted text of a dictionary key. -/
def keyText (p : Provider) : Value → Role × String
  | .null => (.null, "null")
  | .scalar (.string s) => (.string, s)
  | .scalar s => (.scalar, p.scalarText s none)
  | key => (.scalar, Display.text p none key)

/-! ## 2. Values -/

/-- The last member of a record: its tag. -/
def tagGroups : Option String → List (List (Span Role))
  | none => []
  | some tag =>
    [[.inRole .name "\"$type\"", .mark ": ", .inRole .string (Text.quote tag)]]

/-- An object with its members. -/
def object (groups : List (List (Span Role))) : List (Span Role) :=
  .mark "\x7b" :: (Span.commaJoin groups ++ [.mark "\x7d"])

/-- The span of a dictionary key. -/
def keySpan (p : Provider) (key : Value) : Span Role :=
  .inRole (keyText p key).1 (Text.quote (keyText p key).2)

mutual
/-- The spans of a value below the top. -/
def nested (p : Provider) : Value → List (Span Role)
  | .null => [.inRole .null "null"]
  | .scalar s => [scalarSpan s]
  | .sequence items => .mark "[" :: (Span.commaJoin (itemSpans p items) ++ [.mark "]"])
  | .record tag fields => object (fieldSpans p fields ++ tagGroups tag)
  | .dictionary entries => object (entrySpans p entries)

/-- The spans of each item of a sequence. -/
def itemSpans (p : Provider) : List Value → List (List (Span Role))
  | [] => []
  | v :: rest => nested p v :: itemSpans p rest

/-- The spans of each field of a record. -/
def fieldSpans (p : Provider) : List (String × Value) → List (List (Span Role))
  | [] => []
  | (name, v) :: rest =>
    (.inRole .name (Text.quote name) :: .mark ": " :: nested p v) :: fieldSpans p rest

/-- The spans of each entry of a dictionary. -/
def entrySpans (p : Provider) : List (Value × Value) → List (List (Span Role))
  | [] => []
  | (key, v) :: rest => (keySpan p key :: .mark ": " :: nested p v) :: entrySpans p rest
end

/-- The spans of a value, at the top of a directive or below it. -/
def spans (p : Provider) (format : Option String) (top : Bool) (v : Value) :
    List (Span Role) :=
  match v, top with
  | .scalar s, true => [Display.scalarSpan p format s]
  | v, _ => nested p v

end JsonNotation

end Logbook
