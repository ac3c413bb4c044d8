/-
# Padding

Content in a field of a number of columns.  The blanks that are missing are one plain span
before or after the content, whichever side the alignment leaves free.  Content that is
wider than its field is left as it is.

The width of the content is that of its whole text, not the sum over its spans, since a
sign may begin in one span and end in the next.  How wide a text is comes from outside
(`Padding.field`); here it is the number of its columns (`Padding.align`).

A template may ask for a field of any width below 2^64.  Memory is taken as unbounded: a row of
blanks is written however long it is, although no machine could hold the longest ones.
-/
import Logbook.Span
import Logbook.Template.Directive
import Logbook.Text.Width

namespace Logbook

namespace Padding

variable {σ : Type}

/-- A plain span of blanks, unless there are none. -/
def blanks (n : Nat) : List (Span σ) :=
  if n = 0 then [] else [.plain (String.ofList (List.replicate n ' '))]

/-- The content in the field of an alignment, where a text is as wide as a function says. -/
def field (width : String → Nat) (a : Alignment) (content : List (Span σ)) : List (Span σ) :=
  let missing := a.width - width (Span.texts content)
  match a.side with
  | .left => content ++ blanks missing
  | .right => blanks missing ++ content

/-- The content in the field of an alignment, if there is one. -/
def align (a : Option Alignment) (content : List (Span σ)) : List (Span σ) :=
  match a with
  | none => content
  | some a => field Text.columns a content

/-- The number of columns that a text lacks. -/
def lack (a : Alignment) (text : String) : Nat := a.width - Text.columns text

/-- The field of an alignment with nothing in it. -/
def void (a : Option Alignment) : List (Span σ) := blanks (a.elim 0 (·.width))

end Padding

end Logbook
