/-
# Places in a YAML text

A cursor is a place in a text: what follows it, and where it stands, by line, column and
number of characters before it.  Indentation is a matter of columns, so every step keeps
them right.

A line break may be written in several ways.  It is read as one line feed, the line and
paragraph separators apart, which stay as they are.
-/

namespace Logbook

namespace Yaml

/-! ## 1. Characters -/

/-- A space or a tab. -/
def isSpace (c : Char) : Bool := c == ' ' || c == '\t'

/-- A character that ends a line. -/
def isBreak (c : Char) : Bool :=
  c == '\n' || c == '\r' || c == '\x85' || c == '\u2028' || c == '\u2029'

/-- A character that may stand in a text. -/
def isAllowed (c : Char) : Bool :=
  let n := c.toNat
  c == '\t' || c == '\n' || c == '\r' || n == 0x85 || (0x20 ≤ n && n ≤ 0x7E) ||
    (0xA0 ≤ n && n ≤ 0xFFFD && n != 0xFEFF) || 0x10000 ≤ n

/-! ## 2. Cursors -/

/-- Why a text is no YAML document. -/
inductive Error where
  | control
  | badToken
  | badIndent
  | badKey
  | unclosed
  | badEscape
  | badHeader
  | missingContent
  | missingMark
  | unknownAnchor
  | duplicateKey
  | manyDocuments
  | tooDeep
  | numberRange
  deriving DecidableEq, Repr

/-- A place in a text. -/
structure Cursor where
  rest : List Char
  index : Nat
  line : Nat
  column : Nat

namespace Cursor

/-- The front of a text, without a byte order mark. -/
def start (s : List Char) : Cursor :=
  match s with
  | '\ufeff' :: rest => ⟨rest, 0, 0, 0⟩
  | s => ⟨s, 0, 0, 0⟩

/-- The character some places on. -/
def peek (c : Cursor) (n : Nat) : Option Char := c.rest[n]?

/-- Whether a character stands some places on. -/
def has (c : Cursor) (n : Nat) (x : Char) : Bool := c.peek n == some x

/-- Whether the text has ended. -/
def atEnd (c : Cursor) : Bool := c.rest.isEmpty

/-- Whether a space or a tab stands here. -/
def atSpace (c : Cursor) : Bool := (c.peek 0).any isSpace

/-- Whether a line ends here. -/
def atBreak (c : Cursor) : Bool := (c.peek 0).any isBreak

/-- Whether a space, a tab, a line break or the end stands some places on. -/
def gapAt (c : Cursor) (n : Nat) : Bool := (c.peek n).all fun x => isSpace x || isBreak x

/-- The place after some characters of the same line. -/
def skip (c : Cursor) (n : Nat) : Cursor :=
  ⟨c.rest.drop n, c.index + n, c.line, c.column + n⟩

/-- The place after a line break, and the break as it is read. -/
def skipBreak (c : Cursor) : List Char × Cursor :=
  match c.rest with
  | '\r' :: '\n' :: rest => (['\n'], ⟨rest, c.index + 2, c.line + 1, 0⟩)
  | x :: rest =>
    (if x = '\u2028' ∨ x = '\u2029' then [x] else ['\n'], ⟨rest, c.index + 1, c.line + 1, 0⟩)
  | [] => ([], c)

/-- Whether three dashes or three points stand alone at the start of a line. -/
def atDocumentMark (c : Cursor) : Bool :=
  c.column == 0 && c.gapAt 3 &&
    ((c.has 0 '-' && c.has 1 '-' && c.has 2 '-') || (c.has 0 '.' && c.has 1 '.' && c.has 2 '.'))

/-- The place after the characters of a line that satisfy a test, and those characters. -/
def span (c : Cursor) (test : Char → Bool) : List Char × Cursor :=
  let taken := c.rest.takeWhile test
  (taken, c.skip taken.length)

end Cursor

end Yaml

end Logbook
