/-
# The display notation

Values in a notation for readers: `Order {Id=3, Items=["a", "b"]}`.  A record shows its
tag in front, a dictionary brackets its keys, and a null is the word.

The format of a directive reaches only a scalar at the top; parts of a value are always
written without one.  Strings are quoted unless the format is exactly `l`.
-/
import Logbook.Provider
import Logbook.Span
import Logbook.Template.Format
import Logbook.Text.Quoted

namespace Logbook

namespace Display

/-! ## 1. Scalars -/

/-- The role of a scalar. -/
def role : Scalar → Role
  | .string _ => .string
  | .integer _ | .single _ | .double _ => .number
  | .bool _ => .boolean
  | .char _ | .instant _ | .other _ => .scalar

/-- The text of a scalar. -/
def scalarText (p : Provider) (format : Option String) : Scalar → String
  | .string s => if format = some "l" then s else Text.quote s
  | .char c => String.ofList ['\'', c, '\'']
  | s => p.scalarText s (valueFormat format)

/-- The span of a scalar. -/
def scalarSpan (p : Provider) (format : Option String) (s : Scalar) : Span Role :=
  .inRole (role s) (scalarText p format s)

/-! ## 2. Values -/

/-- The tag of a record, with a blank after it. -/
def tagSpans : Option String → List (Span Role)
  | none => []
  | some tag => [.inRole .name tag, .plain " "]

mutual
/-- The spans of a value. -/
def spans (p : Provider) (format : Option String) : Value → List (Span Role)
  | .null => [.inRole .null "null"]
  | .scalar s => [scalarSpan p format s]
  | .sequence items => .mark "[" :: (Span.commaJoin (itemSpans p items) ++ [.mark "]"])
  | .record tag fields =>
    tagSpans tag ++ .mark "\x7b" :: (Span.commaJoin (fieldSpans p fields) ++ [.mark "\x7d"])
  | .dictionary entries =>
    .mark "\x7b" :: (Span.commaJoin (entrySpans p entries) ++ [.mark "\x7d"])

/-- The spans of each item of a sequence. -/
def itemSpans (p : Provider) : List Value → List (List (Span Role))
  | [] => []
  | v :: rest => spans p none v :: itemSpans p rest

/-- The spans of each field of a record. -/
def fieldSpans (p : Provider) : List (String × Value) → List (List (Span Role))
  | [] => []
  | (name, v) :: rest =>
    (.inRole .name name :: .mark "=" :: spans p none v) :: fieldSpans p rest

/-- The spans of each entry of a dictionary. -/
def entrySpans (p : Provider) : List (Value × Value) → List (List (Span Role))
  | [] => []
  | (key, v) :: rest =>
    (.mark "[" :: (spans p none key ++ .mark "]=" :: spans p none v)) :: entrySpans p rest
end

/-- The text of a value. -/
def text (p : Provider) (format : Option String) (v : Value) : String :=
  Span.texts (spans p format v)

end Display

end Logbook
