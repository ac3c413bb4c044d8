import Logbook.Console
import Logbook.Value.OfJson
import Logbook.Rendering
import Logbook.Proofs.Rendering.Notation
import Logbook.Proofs.Rendering.Layout
import Logbook.Proofs.Rendering.Rebind
import Logbook.Proofs.Json.Document
import Logbook.Proofs.Template.Conservation
import Logbook.Proofs.Template.RoundTrip
import Logbook.Proofs.Rendering.Fields
import Logbook.Proofs.Console.Delivery
import Logbook.Proofs.Console.Failure
import Logbook.Proofs.Console.Routing
import Logbook.Proofs.Rendering.Coverage
import Logbook.Proofs.Json.Capture
import Logbook.Proofs.Template.Grammar
import Logbook.Proofs.Theme.Aliases
import Logbook.Proofs.Terminal.Rendition
import Logbook.Proofs.Console.Sinks
import Logbook.Proofs.Template.Printing
import Logbook.Proofs.Event.History
import Logbook.Proofs.Rendering.Strings
import Logbook.Proofs.Notation.Shape
import Logbook.Proofs.Notation.Agreement
import Logbook.Proofs.Json.Keys
import Logbook.Proofs.Rendering.Flags
import Logbook.Proofs.Timestamp.Quotations
import Logbook.Proofs.Number.Digits
import Logbook.Proofs.Timestamp.Calendar
import Logbook.Proofs.Timestamp.Columns
import Logbook.Proofs.Number.Integers
import Logbook.Proofs.Number.Plain
import Logbook.Proofs.Timestamp.Identity
import Logbook.Proofs.Timestamp.Sorting
import Logbook.Proofs.Number.Formats
import Logbook.Proofs.Number.Whole
import Logbook.Proofs.Level.Moniker
import Logbook.Proofs.Theme.Attributes
import Logbook.Proofs.Theme.Mixes
import Logbook.Proofs.Theme.Layers
import Logbook.Proofs.Theme.Palette
import Logbook.Proofs.Number.Thousands
