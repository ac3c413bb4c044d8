/-
# Rendering messages

A message as a rendering: its template token by token, with the value of a property in the
place of each directive.  Only a value is aligned; a directive without a property is shown
as it is written.
-/
import Logbook.Message
import Logbook.Rendering.Value

namespace Logbook

variable {α ε : Type}

namespace MessageStyle

/-- Writes a value under a directive. -/
def writeValue (m : MessageStyle) (p : Provider) (t : Theme) (spec : FormatSpec) (v : Value) :
    Rendering α ε Unit :=
  match m.literal || (spec.flagsOnly && spec.literal), v.string? with
  | true, some s => Rendering.inRole t .string s
  | _, _ => do
    let kind := Notation.ofFlag (m.json || (spec.flagsOnly && spec.json))
    let _ ← kind.format p t spec.valueFormat true v

/-- Writes a token. -/
def writeToken (m : MessageStyle) (p : Provider) (t : Theme) (ps : Properties) :
    Token → Rendering α ε Unit
  | .text s => Rendering.inRole t .text (String.ofList s)
  | .property d =>
    match ps.get? d.name with
    | some v => Rendering.aligned d.alignment fun _ => m.writeValue p t d.spec v
    | none => Rendering.inRole t .invalid d.raw

/-- Writes a message. -/
def render (m : MessageStyle) (p : Provider) (t : Theme) (template : Template)
    (ps : Properties) : Rendering α ε Unit :=
  template.tokens.forM (m.writeToken p t ps)

end MessageStyle

end Logbook
