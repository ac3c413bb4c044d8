/-
# Rendering values

The two notations as renderings.  Every piece of a value is written in the style that a
theme gives to its role, and counted.  Parts of a value are written without a format and
below the top.

A dictionary key that is not a scalar is first rendered into a measure, to get its text
(`Display.written`).
-/
import Logbook.Notation
import Logbook.Rendering

namespace Logbook

variable {α ε : Type}

/-! ## 1. The display notation -/

namespace Display

/-- Writes a scalar. -/
def visitScalar (p : Provider) (t : Theme) (format : Option String) (s : Scalar) :
    Counting α ε Unit :=
  Counting.inRole t (role s) (scalarText p format s)

/-- Writes the tag of a record, with a blank after it. -/
def visitTag (t : Theme) : Option String → Counting α ε Unit
  | none => pure ()
  | some tag => do
    Counting.inRole t .name tag
    Counting.plain " "

mutual
/-- Writes a value. -/
def visit (p : Provider) (t : Theme) (format : Option String) : Value → Counting α ε Unit
  | .null => Counting.inRole t .null "null"
  | .scalar s => visitScalar p t format s
  | .sequence items => do
    Counting.mark t "["
    visitItems p t true items
    Counting.mark t "]"
  | .record tag fields => do
    visitTag t tag
    Counting.mark t "\x7b"
    visitFields p t true fields
    Counting.mark t "\x7d"
  | .dictionary entries => do
    Counting.mark t "\x7b"
    visitEntries p t true entries
    Counting.mark t "\x7d"

/-- Writes the items of a sequence, with commas between them. -/
def visitItems (p : Provider) (t : Theme) (first : Bool) : List Value → Counting α ε Unit
  | [] => pure ()
  | v :: rest => do
    Counting.comma t first
    visit p t none v
    visitItems p t false rest

/-- Writes the fields of a record, with commas between them. -/
def visitFields (p : Provider) (t : Theme) (first : Bool) :
    List (String × Value) → Counting α ε Unit
  | [] => pure ()
  | (name, v) :: rest => do
    Counting.comma t first
    Counting.inRole t .name name
    Counting.mark t "="
    visit p t none v
    visitFields p t false rest

/-- Writes the entries of a dictionary, with commas between them. -/
def visitEntries (p : Provider) (t : Theme) (first : Bool) :
    List (Value × Value) → Counting α ε Unit
  | [] => pure ()
  | (key, v) :: rest => do
    Counting.comma t first
    Counting.mark t "["
    visit p t none key
    Counting.mark t "]="
    visit p t none v
    visitEntries p t false rest
end

/-- Writes a value, and gives the number of styled texts. -/
def format (p : Provider) (t : Theme) (format : Option String) (v : Value) :
    Rendering α ε Nat :=
  (visit p t format v).total

/-- The text that is written for a value. -/
def written (p : Provider) (t : Theme) (format : Option String) (v : Value) : String :=
  (Display.format p t format v).collected

end Display

/-! ## 2. The JSON notation -/

namespace JsonNotation

/-- Writes a scalar below the top. -/
def visitScalar (t : Theme) (s : Scalar) : Counting α ε Unit :=
  Counting.inRole t (Display.role s) (scalarText s)

/-- The role and the unquoted text of a dictionary key, as it is written. -/
def writtenKey (p : Provider) (t : Theme) : Value → Role × String
  | .null => (.null, "null")
  | .scalar (.string s) => (.string, s)
  | .scalar s => (.scalar, p.scalarText s none)
  | key => (.scalar, Display.written p t none key)

/-- Writes the tag of a record as a member, which is the first one if there are no fields. -/
def visitTag (t : Theme) (first : Bool) : Option String → Counting α ε Unit
  | none => pure ()
  | some tag => do
    Counting.comma t first
    Counting.inRole t .name "\"$type\""
    Counting.mark t ": "
    Counting.inRole t .string (Text.quote tag)

/-- Writes the key of an entry. -/
def visitKey (p : Provider) (t : Theme) (key : Value) : Counting α ε Unit :=
  Counting.inRole t (writtenKey p t key).1 (Text.quote (writtenKey p t key).2)

mutual
/-- Writes a value, at the top of a directive or below it. -/
def visit (p : Provider) (t : Theme) (format : Option String) (top : Bool) :
    Value → Counting α ε Unit
  | .null => Counting.inRole t .null "null"
  | .scalar s => if top then Display.visitScalar p t format s else visitScalar t s
  | .sequence items => do
    Counting.mark t "["
    visitItems p t true items
    Counting.mark t "]"
  | .record tag fields => do
    Counting.mark t "\x7b"
    visitFields p t true fields
    visitTag t fields.isEmpty tag
    Counting.mark t "\x7d"
  | .dictionary entries => do
    Counting.mark t "\x7b"
    visitEntries p t true entries
    Counting.mark t "\x7d"

/-- Writes the items of a sequence, with commas between them. -/
def visitItems (p : Provider) (t : Theme) (first : Bool) : List Value → Counting α ε Unit
  | [] => pure ()
  | v :: rest => do
    Counting.comma t first
    visit p t none false v
    visitItems p t false rest

/-- Writes the fields of a record, with commas between them. -/
def visitFields (p : Provider) (t : Theme) (first : Bool) :
    List (String × Value) → Counting α ε Unit
  | [] => pure ()
  | (name, v) :: rest => do
    Counting.comma t first
    Counting.inRole t .name (Text.quote name)
    Counting.mark t ": "
    visit p t none false v
    visitFields p t false rest

/-- Writes the entries of a dictionary, with commas between them. -/
def visitEntries (p : Provider) (t : Theme) (first : Bool) :
    List (Value × Value) → Counting α ε Unit
  | [] => pure ()
  | (key, v) :: rest => do
    Counting.comma t first
    visitKey p t key
    Counting.mark t ": "
    visit p t none false v
    visitEntries p t false rest
end

/-- Writes a value, and gives the number of styled texts. -/
def format (p : Provider) (t : Theme) (format : Option String) (top : Bool) (v : Value) :
    Rendering α ε Nat :=
  (visit p t format top v).total

end JsonNotation

/-! ## 3. Either notation -/

/-- Writes a value in a notation, and gives the number of styled texts. -/
def Notation.format (n : Notation) (p : Provider) (t : Theme) (format : Option String)
    (top : Bool) (v : Value) : Rendering α ε Nat :=
  match n with
  | .display => Display.format p t format v
  | .json => JsonNotation.format p t format top v

end Logbook
