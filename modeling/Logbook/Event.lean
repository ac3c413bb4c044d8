/-
# Log events

An event has a level, a timestamp, a message template with the properties that it may
refer to, and perhaps an exception, which is captured as text: a message, the messages of
its causes, and a backtrace.
-/
import Logbook.Level
import Logbook.Properties
import Logbook.Template

namespace Logbook

/-- An error attached to an event. -/
structure Exception where
  message : String
  /-- The messages of the causes, outermost first. -/
  causes : List String
  backtrace : Option String
  deriving DecidableEq, Repr

namespace Exception

/-- The mark between a message and its cause. -/
def arrow : String := " ---> "

/-- The exception and its causes on one line. -/
def text (e : Exception) : String := e.message ++ String.join (e.causes.map (arrow ++ ·))

/-- Adds a cause below the others. -/
def addCause (e : Exception) (cause : String) : Exception :=
  { e with causes := e.causes ++ [cause] }

end Exception

/-- A log event. -/
structure Event where
  level : Level
  timestamp : Timestamp
  template : Template
  properties : Properties
  exception : Option Exception

namespace Event

/-- The event with other properties. -/
def withProperties (e : Event) (ps : Properties) : Event := { e with properties := ps }

/-- The event with one more property, or with another value of a property. -/
def withProperty (e : Event) (name : String) (v : Value) : Event :=
  e.withProperties (e.properties.insert name v)

/-- The name of the property that tells where an event of a logging facade comes from. -/
def sourceName : String := "SourceContext"

/-- The event of a record of a logging facade.  The text of a record holds no
directives. -/
def ofFacade (severity : Level.Facade) (timestamp : Timestamp) (target text : String) : Event where
  level := .ofFacade severity
  timestamp
  template := .literal text
  properties := Properties.empty.insert sourceName (.ofString target)
  exception := none

end Event

end Logbook
