/-
# Messages

The message of an event: its template, with the values of its properties in the places
of the directives.  A directive without a property is shown as it is written.

Two flags come from outside: strings without quotes, and values in JSON notation.  A
directive sets a flag for itself when its format is made of flags only.
-/
import Logbook.Notation
import Logbook.Padding
import Logbook.Properties
import Logbook.Template

namespace Logbook

/-- How the values in a message are written. -/
structure MessageStyle where
  json : Bool
  literal : Bool
  deriving DecidableEq, Repr

namespace MessageStyle

/-- The spans of a value under a directive, without its alignment. -/
def valueSpans (m : MessageStyle) (p : Provider) (spec : FormatSpec) (v : Value) :
    List (Span Role) :=
  match m.literal || (spec.flagsOnly && spec.literal), v.string? with
  | true, some s => [.inRole .string s]
  | _, _ =>
    (Notation.ofFlag (m.json || (spec.flagsOnly && spec.json))).spans p spec.valueFormat true v

/-- The spans of a directive. -/
def directiveSpans (m : MessageStyle) (p : Provider) (ps : Properties) (d : Directive) :
    List (Span Role) :=
  match ps.get? d.name with
  | some v => Padding.align d.alignment (m.valueSpans p d.spec v)
  | none => [.inRole .invalid d.raw]

/-- The spans of a token. -/
def tokenSpans (m : MessageStyle) (p : Provider) (ps : Properties) : Token → List (Span Role)
  | .text s => [.inRole .text (String.ofList s)]
  | .property d => m.directiveSpans p ps d

/-- The spans of a message. -/
def spans (m : MessageStyle) (p : Provider) (t : Template) (ps : Properties) :
    List (Span Role) :=
  t.tokens.flatMap (m.tokenSpans p ps)

end MessageStyle

end Logbook
