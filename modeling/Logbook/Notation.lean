/-
# Notations of values

The choice between the two notations in which a directive may write a value.
-/
import Logbook.Notation.Json

namespace Logbook

/-- How values are written. -/
inductive Notation where
  | display
  | json
  deriving DecidableEq, Repr

namespace Notation

/-- The notation that a flag selects. -/
def ofFlag (json : Bool) : Notation := if json then .json else .display

/-- The spans of a value, at the top of a directive or below it. -/
def spans (n : Notation) (p : Provider) (format : Option String) (top : Bool) (v : Value) :
    List (Span Role) :=
  match n with
  | .display => Display.spans p format v
  | .json => JsonNotation.spans p format top v

end Notation

end Logbook
