/-
# Rendering events

An output template is compiled: each of its tokens becomes a printer that holds what it
needs, the theme included (`Layout.printer`).  An event is rendered by running the printers
in order (`Painter.render`).

The names in the template are collected at that time too, for the directive that shows the
properties which nothing else names.
-/
import Logbook.Output
import Logbook.Rendering.Message

namespace Logbook

variable {α ε : Type}

/-! ## 1. Exceptions -/

/-- Writes an exception. -/
def ExceptionFormatter.write (f : ExceptionFormatter) (t : Theme) (e : Exception) :
    Rendering α ε Unit :=
  match f with
  | .full => do
    Rendering.inRole t .text e.message
    Rendering.plain lineEnd
    e.causes.forM fun cause => do
      Rendering.inRole t .tertiaryText Exception.arrow
      Rendering.inRole t .text cause
      Rendering.plain lineEnd
    (e.backtrace.elim [] backtraceLines).forM fun l => do
      Rendering.inRole t .secondaryText l
      Rendering.plain lineEnd
  | .brief => Rendering.inRole t .invalid e.text

/-! ## 2. Printers -/

/-- What a token of an output template is compiled to. -/
inductive Printer where
  | text (theme : Theme) (s : String)
  | level (theme : Theme) (d : Directive)
  | newLine (alignment : Option Alignment)
  | exception (theme : Theme) (formatter : ExceptionFormatter)
  | message (style : MessageStyle) (provider : Provider) (theme : Theme)
    (alignment : Option Alignment)
  | timestamp (theme : Theme) (d : Directive) (provider : Provider)
  /-- The properties that neither the message nor a list of names refers to. -/
  | properties (kind : Notation) (provider : Provider) (theme : Theme) (names : List String)
    (alignment : Option Alignment)
  | property (d : Directive) (provider : Provider) (theme : Theme)

namespace Printer

/-- The record of the properties that a list of names leaves to the directive. -/
def leftOver (names : List String) (e : Event) : Value :=
  .record none
    ((e.properties.entries.filter fun (name, _) => !e.template.refersTo name).filter
      fun (name, _) => !names.contains name)

/-- Writes what a printer shows of an event. -/
def print (e : Event) : Printer → Rendering α ε Unit
  | .text t s => Rendering.inRole t .text s
  | .level t d =>
    Rendering.padded (e.level.moniker d.format) (t.style e.level.role) d.alignment
  | .newLine a => Rendering.aligned a fun _ => Rendering.plain lineEnd
  | .exception t f =>
    match e.exception with
    | some x => f.write t x
    | none => pure ()
  | .message style p t a => Rendering.aligned a fun _ => style.render p t e.template e.properties
  | .timestamp t d p =>
    Rendering.padded (p.timestampText e.timestamp d.format) (t.style .secondaryText) d.alignment
  | .properties kind p t names a =>
    Rendering.aligned a fun _ => do
      let _ ← kind.format p t none true (leftOver names e)
  | .property d p t =>
    match e.properties.get? d.name with
    | none => Rendering.void d.alignment
    | some v =>
      let text := match v.string? with
        | some s => d.spec.casing.apply s
        | none => Display.written p t d.spec.valueFormat v
      Rendering.padded text (t.style .secondaryText) d.alignment

end Printer

/-! ## 3. Compiling -/

/-- The printer of a token. -/
def Layout.printer (l : Layout) (t : Theme) : Token → Printer
  | .text s => .text t (String.ofList s)
  | .property d =>
    match Part.ofName d.name with
    | .level => .level t d
    | .newLine => .newLine d.alignment
    | .exception => .exception t l.exceptions
    | .message => .message ⟨d.spec.json, d.spec.literal⟩ l.provider t d.alignment
    | .timestamp => .timestamp t d l.provider
    | .properties =>
      .properties (.ofFlag d.spec.json) l.provider t l.template.names d.alignment
    | .property _ => .property d l.provider t

namespace Painter

/-- The compiled template. -/
def printers (p : Painter) : List Printer := p.layout.template.tokens.map (p.layout.printer p.theme)

/-- Renders an event. -/
def render (p : Painter) (e : Event) : Rendering α ε Unit := p.printers.forM (·.print e)

/-- The text of an event, without styles. -/
def written (p : Painter) (e : Event) : String := (p.render e).collected

end Painter

end Logbook
