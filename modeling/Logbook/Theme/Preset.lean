/-
# Built-in themes

Five themes that are known by name.  Their colours are palette indices, so they look the
same on every terminal with the palette.
-/
import Logbook.Text.Blank
import Logbook.Text.Case
import Logbook.Theme

namespace Logbook

/-- A built-in theme. -/
inductive Preset where
  | none
  | literate
  | grayscale
  | colored
  | code
  deriving DecidableEq, Repr

namespace Preset

/-- The built-in themes, in the order in which they are listed. -/
def all : List Preset := [.none, .literate, .grayscale, .colored, .code]

/-- The name of a built-in theme. -/
def name : Preset → String
  | .none => "none"
  | .literate => "literate"
  | .grayscale => "grayscale"
  | .colored => "colored"
  | .code => "code"

/-! ## 1. Styles -/

/-- A foreground colour. -/
def on (foreground : Nat) : Style := { foreground := Ink.ofNat? foreground }

/-- A foreground and a background colour. -/
def block (foreground background : Nat) : Style :=
  { foreground := Ink.ofNat? foreground, background := Ink.ofNat? background }

/-- A foreground colour in bold. -/
def bold (foreground : Nat) : Style :=
  { foreground := Ink.ofNat? foreground, emphasis := { bold := true } }

def black : Nat := 0
def silver : Nat := 7
def grey : Nat := 8
def red : Nat := 9
def lime : Nat := 10
def yellow : Nat := 11
def blue : Nat := 12
def fuchsia : Nat := 13
def aqua : Nat := 14
def white : Nat := 15

/-- The styles of a built-in theme. -/
def styles : Preset → List (Role × Style)
  | .none => []
  | .literate =>
    [(.text, on white), (.secondaryText, on silver), (.tertiaryText, on grey),
     (.invalid, on yellow), (.null, on blue), (.name, on silver), (.string, on aqua),
     (.number, on fuchsia), (.boolean, on blue), (.scalar, on lime),
     (.levelVerbose, on silver), (.levelDebug, on silver), (.levelInformation, on white),
     (.levelWarning, on yellow), (.levelError, block white red), (.levelFatal, block white red)]
  | .grayscale =>
    [(.text, on white), (.secondaryText, on silver), (.tertiaryText, on grey),
     (.invalid, block white grey), (.null, on white), (.name, on silver), (.string, on white),
     (.number, on white), (.boolean, on white), (.scalar, on white),
     (.levelVerbose, on grey), (.levelDebug, on grey), (.levelInformation, on white),
     (.levelWarning, block white grey), (.levelError, block black white),
     (.levelFatal, block black white)]
  | .colored =>
    [(.text, on silver), (.secondaryText, on grey), (.tertiaryText, on grey),
     (.invalid, on yellow), (.null, on white), (.name, on white), (.string, on white),
     (.number, on white), (.boolean, on white), (.scalar, on white),
     (.levelVerbose, block silver grey), (.levelDebug, block white grey),
     (.levelInformation, block white blue), (.levelWarning, block grey yellow),
     (.levelError, block white red), (.levelFatal, block white red)]
  | .code =>
    [(.text, on 253), (.secondaryText, on 246), (.tertiaryText, on 242),
     (.invalid, bold yellow), (.null, on 38), (.name, on 81), (.string, on 216),
     (.number, on 151), (.boolean, on 38), (.scalar, on 79),
     (.levelVerbose, on white), (.levelDebug, on white), (.levelInformation, bold white),
     (.levelWarning, on 229), (.levelError, block 197 238), (.levelFatal, block 197 238)]

/-- The theme. -/
def theme (p : Preset) : Theme := .ofStyles p.name p.styles

/-! ## 2. Names -/

/-- A name as it is compared: without blank ends and ASCII capitals. -/
def plainName (name : String) : String :=
  String.ofList (Text.lowerAscii (Text.trim name.toList))

/-- The built-in theme with a name. -/
def ofName? (name : String) : Option Preset :=
  match plainName name with
  | "none" => some .none
  | "literate" => some .literate
  | "grayscale" | "greyscale" => some .grayscale
  | "colored" | "coloured" => some .colored
  | "code" => some .code
  | _ => Option.none

end Preset

end Logbook
