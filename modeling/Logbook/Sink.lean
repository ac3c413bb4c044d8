/-
# Sinks

A sink takes spans one by one.  A write may fail, and may have had a part of its effect
when it does; a list of spans is sent up to the first failure (`Sink.send`).

Two sinks are here: one that records the spans, and one that collects their text and knows
its width.  What a terminal is sent for a span is `Ansi.encode`.
-/
import Logbook.Span
import Logbook.Style
import Logbook.Text.Width

namespace Logbook

/-! ## 1. Sinks -/

/-- What a sink can do: whether its escapes are seen, and whether output may be collected
and written at once. -/
structure Capabilities where
  colors : Bool
  buffering : Bool
  deriving DecidableEq, Repr

/-- What a write does to the state of a sink, and the error if it fails. -/
structure Sink (α ε : Type) where
  capabilities : Capabilities
  write : α → Span Style → α × Option ε

namespace Sink

variable {α ε : Type}

/-- Writes the spans in order, up to the first failure. -/
def send (k : Sink α ε) : List (Span Style) → α → α × Option ε
  | [], a => (a, none)
  | s :: rest, a =>
    match k.write a s with
    | (a, none) => k.send rest a
    | (a, some e) => (a, some e)

end Sink

/-! ## 2. Recording -/

/-- The spans that were written, in order. -/
abbrev Capture := List (Span Style)

namespace Capture

/-- The sink that records every write, empty ones included.  Colours are recorded whatever
the terminal is. -/
def sink {ε : Type} (buffering : Bool) : Sink Capture ε :=
  ⟨⟨true, buffering⟩, fun c s => (c ++ [s], none)⟩

/-- The text that was written. -/
def output (c : Capture) : String := Span.texts c

/-- The text with the escape sequences of all styles. -/
def styledOutput (c : Capture) : String :=
  String.join (c.map fun s => s.style.elim s.text (·.wrap s.text))

/-- The first span with a text. -/
def find? (c : Capture) (text : String) : Option (Span Style) :=
  List.find? (fun s => s.text == text) c

end Capture

/-- Whether a span looks as it would in a style. -/
def Span.looksLike (s : Span Style) (style : Style) : Bool :=
  (s.style.getD .plain).wrap "_" == style.wrap "_"

/-! ## 3. Measuring -/

/-- The text that was written. -/
abbrev Measure := String

namespace Measure

/-- The sink that collects the text, with the capabilities of the sink that it stands in
for. -/
def sink {ε : Type} (like : Capabilities) : Sink Measure ε :=
  ⟨like, fun m s => (m ++ s.text, none)⟩

/-- The columns that the text takes. -/
def width (m : Measure) : Nat := Text.columns m

end Measure

/-! ## 4. Writing to a terminal -/

namespace Ansi

/-- What is sent for a span.  Empty text in a style sends nothing. -/
def encode (colors : Bool) (s : Span Style) : String :=
  match s.style with
  | none => s.text
  | some style => if s.text = "" then "" else if colors then style.wrap s.text else s.text

/-- What is sent for a list of spans. -/
def encodeAll (colors : Bool) (spans : List (Span Style)) : String :=
  String.join (spans.map (encode colors))

end Ansi

end Logbook
