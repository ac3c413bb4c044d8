/-
# Directives

A directive is the part of a template between braces: `{Name}`, `{Name,-10}`,
`{Name:format}`, `{@Name,5:format}`.  It names a property and may ask for an alignment and
a format.  The alignment may also follow the format, `{Name:format,5}`, as long as none
precedes it.

`Directive.parse?` reads the text between the braces.  It refuses what is not a directive,
and the template then keeps the braces as text.  `Directive.make` goes the other way: it
builds a directive from its parts, with the text that one would write for it.
-/
import Logbook.Template.Format
import Logbook.Text.Alphanumeric
import Logbook.Text.Cut

namespace Logbook

/-! ## 1. Alignment -/

/-- The side on which the content stands in its field. -/
inductive Side where
  /-- The content first, then blanks. -/
  | left
  /-- Blanks first, then the content. -/
  | right
  deriving DecidableEq, Repr

/-- A field of a number of columns.  Widths are words of 64 bits. -/
structure Alignment where
  side : Side
  width : Nat
  width_lt : width < UInt64.size
  deriving DecidableEq, Repr

namespace Alignment

/-- The value of a row of decimal digits; there must be one. -/
def readDigits? (s : List Char) : Option Nat :=
  if s ≠ [] ∧ s.all Char.isDigit then
    some (s.foldl (fun n c => 10 * n + (c.toNat - '0'.toNat)) 0)
  else none

/-- Right alignment in the columns that a row of digits gives, or left alignment after a
minus sign.  There must be a column. -/
def parse? (s : List Char) : Option Alignment :=
  let (side, digits) := match s with
    | '-' :: digits => (Side.left, digits)
    | digits => (Side.right, digits)
  (readDigits? digits).bind fun width =>
    if h : width < UInt64.size then
      if width = 0 then none else some ⟨side, width, h⟩
    else none

/-- The text of an alignment. -/
def text (a : Alignment) : List Char :=
  match a.side with
  | .left => '-' :: Nat.toDigits 10 a.width
  | .right => Nat.toDigits 10 a.width

end Alignment

/-! ## 2. Directives -/

/-- How the value of a property is captured. -/
inductive Destructuring where
  | plain
  /-- Written `@`: with its structure. -/
  | destructure
  /-- Written `$`: as text. -/
  | stringify
  deriving DecidableEq, Repr

/-- A reference to a property. -/
structure Directive where
  name : String
  spec : FormatSpec
  alignment : Option Alignment
  destructuring : Destructuring
  /-- The directive as written, with its braces. -/
  raw : String
  deriving DecidableEq, Repr

/-- A character that may stand in a name. -/
def isNameChar (c : Char) : Bool := Text.isAlphanumeric c || c == '_'

/-- A name is made of letters, digits and underscores. -/
def isName (s : List Char) : Bool := !s.isEmpty && s.all isNameChar

namespace Directive

/-- The format string, if there is one. -/
def format (d : Directive) : Option String := d.spec.raw

/-! ## 3. Reading -/

/-- The destructuring sign at the front, and what follows it. -/
def splitSign : List Char → Destructuring × List Char
  | '@' :: rest => (.destructure, rest)
  | '$' :: rest => (.stringify, rest)
  | s => (.plain, s)

/-- What stands before the first colon, and the format after it. -/
def splitFormat (s : List Char) : List Char × Option (List Char) :=
  match Text.cutFirst ':' s with
  | some (head, format) => (head, some format)
  | none => (s, none)

/-- The name and the alignment before the colon.  What follows a comma must be an
alignment. -/
def splitName (head : List Char) : Option (List Char × Option Alignment) :=
  match Text.cutFirst ',' head with
  | some (name, width) => (Alignment.parse? width).map fun a => (name, some a)
  | none => some (head, none)

/-- The format and the alignment after its last comma.  What is no alignment belongs to
the format. -/
def splitSuffix (format : List Char) : List Char × Option Alignment :=
  match Text.cutLast ',' format with
  | some (before, after) =>
    match Alignment.parse? after with
    | some a => (before, some a)
    | none => (format, none)
  | none => (format, none)

/-- The format and the alignment of a directive, where `a` is the alignment before the
colon. -/
def settle (a : Option Alignment) (format : Option (List Char)) :
    Option (List Char) × Option Alignment :=
  match a, format with
  | none, some f => ((splitSuffix f).1, (splitSuffix f).2)
  | a, format => (format, a)

/-- The directive that a text between braces is, if it is one. -/
def parse? (content : List Char) : Option Directive :=
  let (destructuring, body) := splitSign content
  let (head, format) := splitFormat body
  (splitName head).bind fun (name, a) =>
    let (format, a) := settle a format
    if isName name ∧ format ≠ some [] then
      some
        { name := String.ofList name
          spec := ⟨format.map String.ofList⟩
          alignment := a
          destructuring
          raw := String.ofList ('{' :: (content ++ ['}'])) }
    else none

/-! ## 4. Building -/

/-- The text that one would write for a directive with these parts. -/
def written (name : String) (format : Option String) (a : Option Alignment) : List Char :=
  let width := match a with
    | some a => ',' :: a.text
    | none => []
  let suffix := match format with
    | some f => ':' :: f.toList
    | none => []
  '{' :: (name.toList ++ width ++ suffix ++ ['}'])

/-- A directive from its parts, without a destructuring sign. -/
def make (name : String) (format : Option String) (a : Option Alignment) : Directive :=
  { name, spec := ⟨format⟩, alignment := a, destructuring := .plain
    raw := String.ofList (written name format a) }

end Directive

end Logbook
