/-
# The console sink

Events go to standard output or, from a level on, to standard error.  Events below the
minimum level are dropped.

Each event is rendered with the theme of its target, either into a buffer that is then
written at once, or span by span; after a success the writer is flushed.  Colours are on
when the theme has any style.
-/
import Logbook.Rendering.Event
import Logbook.Settings
import Logbook.Writer

namespace Logbook

variable {ω ε : Type}

/-! ## 1. Targets -/

/-- One of the two ends of the console. -/
structure Target (ω : Type := Writer) where
  writer : ω
  painter : Painter
  /-- Whether an event is rendered as a whole before it is written. -/
  buffered : Bool

namespace Target

/-- Whether escape sequences are written. -/
def colors (t : Target ω) : Bool := !t.painter.theme.isEmpty

/-- What is sent for an event: its rendering, as a buffer collects it. -/
def rendering (t : Target ω) (e : Event) : Buffer :=
  ((t.painter.render e).run (Buffer.sink t.colors : Sink Buffer Empty) []).2

/-- Renders an event into a buffer, and sends that. -/
def sendWhole [Receiver ω ε] (t : Target ω) (e : Event) : ω × Option ε :=
  match (t.painter.render e).run (Buffer.sink t.colors) [] with
  | (.ok _, buffer) => Receiver.send t.writer buffer
  | (.error error, _) => (t.writer, some error)

/-- Sends an event span by span. -/
def sendSpans [Receiver ω ε] (t : Target ω) (e : Event) : ω × Option ε :=
  match (t.painter.render e).run (Receiver.sink t.colors false) t.writer with
  | (.ok _, w) => (w, none)
  | (.error error, w) => (w, some error)

/-- Writes an event, and flushes the writer if that succeeds. -/
def emit [Receiver ω ε] (t : Target ω) (e : Event) : Target ω × Option ε :=
  let (w, result) := Receiver.finish (if t.buffered then t.sendWhole e else t.sendSpans e)
  ({ t with writer := w }, result)

/-- Flushes the writer. -/
def flush [Receiver ω ε] (t : Target ω) : Target ω :=
  { t with writer := (Receiver.flush t.writer).1 }

end Target

/-! ## 2. Building -/

/-- Where a target writes to, and whether that is a redirected standard stream. -/
structure Destination (ω : Type := Writer) where
  writer : ω
  redirected : Bool

/-- What a console sink is built from. -/
structure Blueprint where
  template : Option String := some Layout.defaultTemplate
  theme : Option Theme := some Preset.literate.theme
  provider : Provider := .invariant
  exceptions : ExceptionFormatter := .full
  minimumLevel : Level := .verbose
  errorLevel : Option Level := none
  themeRedirected : Bool := false
  buffered : Bool := true

/-- A console sink. -/
structure Console (ω : Type := Writer) where
  out : Target ω
  err : Target ω
  minimumLevel : Level
  errorLevel : Option Level

namespace Blueprint

/-- The theme of a target.  A redirected stream has none, unless the theme is kept. -/
def themeFor (b : Blueprint) (theme : Theme) (d : Destination ω) : Theme :=
  if d.redirected && !b.themeRedirected then Preset.none.theme else theme

/-- The target at a destination. -/
def target (b : Blueprint) (layout : Layout) (theme : Theme) (d : Destination ω) : Target ω :=
  ⟨d.writer, ⟨layout, b.themeFor theme d⟩, b.buffered⟩

/-- Builds the sink.  A template and a theme are needed. -/
def build (b : Blueprint) (out err : Destination ω) : Except SetupError (Console ω) :=
  match b.template, b.theme with
  | none, _ => .error .missingTemplate
  | _, none => .error .missingTheme
  | some template, some theme =>
    let layout : Layout := ⟨.parse template, b.provider, b.exceptions⟩
    .ok ⟨b.target layout theme out, b.target layout theme err, b.minimumLevel, b.errorLevel⟩

/-- The blueprint that settings give. -/
def ofSettings (s : Settings) (files : Files) : Except SetupError Blueprint :=
  (s.resolveTheme files).map fun theme =>
    { template := s.outputTemplate
      theme
      minimumLevel := s.minimumLevel
      errorLevel := s.errorLevel
      themeRedirected := s.themeRedirected }

end Blueprint

/-! ## 3. Events -/

namespace Console

/-- Whether events of a level go to standard error. -/
def isError (c : Console ω) (level : Level) : Bool := c.errorLevel.any (· ≤ level)

/-- The target of events of a level. -/
def target (c : Console ω) (level : Level) : Target ω := if c.isError level then c.err else c.out

/-- The console with another target for events of a level. -/
def withTarget (c : Console ω) (level : Level) (t : Target ω) : Console ω :=
  if c.isError level then { c with err := t } else { c with out := t }

/-- Writes an event to its target, unless it is below the minimum level. -/
def emit [Receiver ω ε] (c : Console ω) (e : Event) : Console ω × Option ε :=
  if e.level < c.minimumLevel then (c, none)
  else
    let (t, result) := (c.target e.level).emit e
    (c.withTarget e.level t, result)

/-- Whether records of a severity are written. -/
def enabled (c : Console ω) (severity : Level.Facade) : Bool :=
  c.minimumLevel ≤ Level.ofFacade severity

/-- Writes a record of a logging facade.  A failure has nowhere to go. -/
def log [Receiver ω ε] (c : Console ω) (severity : Level.Facade) (time : Timestamp)
    (target text : String) : Console ω :=
  if c.enabled severity then (c.emit (.ofFacade severity time target text)).1 else c

/-- Flushes both writers. -/
def flush [Receiver ω ε] (c : Console ω) : Console ω :=
  { c with out := c.out.flush, err := c.err.flush }

end Console

end Logbook
