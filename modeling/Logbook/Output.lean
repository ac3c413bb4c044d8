/-
# Output templates

An output template lays out one event.  Six directive names are reserved for the parts of
an event; any other name is that of a property:

* `Timestamp` and `Level`, in the form that the format asks for;
* `Message`, the message of the event;
* `Properties`, a record of the properties that nothing else names;
* `Exception`, the attached exception;
* `NewLine`, a line break.

`Layout.spans` gives the spans of an event in roles, and `Painter.spans` the same in the
styles of a theme.  How they reach a sink is said where events are rendered.
-/
import Logbook.Event
import Logbook.Message
import Logbook.Theme

namespace Logbook

/-! ## 1. Exceptions -/

/-- How an exception is shown. -/
inductive ExceptionFormatter where
  /-- The message on a line, each cause on a line with an arrow, then the backtrace. -/
  | full
  /-- The message and the causes in one span, without a line break. -/
  | brief
  deriving DecidableEq, Repr

/-- The end of a line. -/
def lineEnd : String := "\n"

namespace ExceptionFormatter

/-- The lines of a backtrace that hold anything but blanks. -/
def backtraceLines (backtrace : String) : List String :=
  ((Text.lines backtrace.toList).filter fun l => Text.trim l ≠ []).map String.ofList

/-- The spans of an exception. -/
def spans (f : ExceptionFormatter) (e : Exception) : List (Span Role) :=
  match f with
  | .full =>
    [.inRole .text e.message, .plain lineEnd] ++
      e.causes.flatMap (fun cause =>
        [.inRole .tertiaryText Exception.arrow, .inRole .text cause, .plain lineEnd]) ++
      (e.backtrace.elim [] backtraceLines).flatMap (fun l =>
        [.inRole .secondaryText l, .plain lineEnd])
  | .brief => [.inRole .invalid e.text]

end ExceptionFormatter

/-! ## 2. Parts of an event -/

/-- What a directive of an output template shows. -/
inductive Part where
  | timestamp
  | level
  | message
  | properties
  | exception
  | newLine
  | property (name : String)
  deriving DecidableEq, Repr

namespace Part

/-- The part that a name stands for. -/
def ofName (name : String) : Part :=
  if name = "Timestamp" then .timestamp
  else if name = "Level" then .level
  else if name = "Message" then .message
  else if name = "Properties" then .properties
  else if name = "Exception" then .exception
  else if name = "NewLine" then .newLine
  else .property name

end Part

/-! ## 3. Layouts -/

/-- An output template with the functions that turn values into text. -/
structure Layout where
  template : Template
  provider : Provider
  exceptions : ExceptionFormatter

namespace Layout

/-- The layout that is used when none is given. -/
def defaultTemplate : String :=
  "[\x7bTimestamp:HH:mm:ss\x7d \x7bLevel:u3\x7d] \x7bMessage:lj\x7d\x7bNewLine\x7d\x7bException\x7d"

/-- The properties of an event that neither its message nor the layout names. -/
def remaining (l : Layout) (e : Event) : List (String × Value) :=
  e.properties.entries.filter fun (name, _) =>
    !e.template.refersTo name && !l.template.refersTo name

/-- The text of a property that the layout names.  Strings are written as they are, in
the casing of the format. -/
def propertyText (l : Layout) (spec : FormatSpec) (v : Value) : String :=
  match v.string? with
  | some s => spec.casing.apply s
  | none => Display.text l.provider spec.valueFormat v

/-- The content of a directive, without its alignment.  A property that is not there has
none. -/
def content (l : Layout) (e : Event) (d : Directive) : Option (List (Span Role)) :=
  match Part.ofName d.name with
  | .timestamp =>
    some [.inRole .secondaryText (l.provider.timestampText e.timestamp d.format)]
  | .level => some [.inRole e.level.role (e.level.moniker d.format)]
  | .message =>
    some (MessageStyle.spans ⟨d.spec.json, d.spec.literal⟩ l.provider e.template e.properties)
  | .properties =>
    some ((Notation.ofFlag d.spec.json).spans l.provider none true
      (.record none (l.remaining e)))
  | .exception => some (e.exception.elim [] l.exceptions.spans)
  | .newLine => some [.plain lineEnd]
  | .property name =>
    (e.properties.get? name).map fun v => [.inRole .secondaryText (l.propertyText d.spec v)]

/-- The spans of a directive.  Exceptions are not aligned, and a property that is not
there leaves its field empty. -/
def directiveSpans (l : Layout) (e : Event) (d : Directive) : List (Span Role) :=
  let alignment := if Part.ofName d.name = .exception then none else d.alignment
  match l.content e d with
  | some content => Padding.align alignment content
  | none => Padding.void alignment

/-- The spans of a token. -/
def tokenSpans (l : Layout) (e : Event) : Token → List (Span Role)
  | .text s => [.inRole .text (String.ofList s)]
  | .property d => l.directiveSpans e d

/-- The spans of an event. -/
def spans (l : Layout) (e : Event) : List (Span Role) := l.template.tokens.flatMap (l.tokenSpans e)

/-- The text of an event. -/
def text (l : Layout) (e : Event) : String := Span.texts (l.spans e)

end Layout

/-! ## 4. Painting -/

/-- A layout with a theme. -/
structure Painter where
  layout : Layout
  theme : Theme

namespace Painter

/-- The same layout with another theme. -/
def rebind (p : Painter) (theme : Theme) : Painter := { p with theme }

/-- The styled spans of an event. -/
def spans (p : Painter) (e : Event) : List (Span Style) := p.theme.paint (p.layout.spans e)

end Painter

end Logbook
