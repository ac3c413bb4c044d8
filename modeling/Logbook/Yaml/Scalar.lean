/-
# Scalars of YAML texts

The four ways to write a scalar: plain, between single or double quotes, and as a block
after `|` or `>`.

Where a scalar runs over several lines, its lines are folded: a single line break becomes
a space, and of several the first is dropped.  Spaces before and after a break do not
count.  A block after `|` keeps its breaks, and one after `>` folds them between lines
that are not indented further.

Each reader ends by the length of the text before it; the explicit bound on its steps is
that length.
-/
import Logbook.Number.Digits
import Logbook.Yaml.Cursor

namespace Logbook

namespace Yaml

/-! ## 1. Folding -/

/-- The text of a scalar so far, with the blanks and breaks that may follow it. -/
structure Folding where
  text : List Char := []
  blanks : List Char := []
  firstBreak : List Char := []
  moreBreaks : List Char := []
  /-- A line break has been read since the last character of the text. -/
  broken : Bool := false

namespace Folding

/-- The text with the blanks and breaks after it folded in. -/
def settle (f : Folding) : Folding :=
  if f.broken then
    let breaks :=
      if f.firstBreak = ['\n'] then if f.moreBreaks = [] then [' '] else f.moreBreaks
      else f.firstBreak ++ f.moreBreaks
    { text := f.text ++ breaks }
  else { text := f.text ++ f.blanks }

/-- One more blank, which counts only within a line. -/
def addBlank (f : Folding) (c : Char) : Folding :=
  if f.broken then f else { f with blanks := f.blanks ++ [c] }

/-- One more line break. -/
def addBreak (f : Folding) (b : List Char) : Folding :=
  if f.broken then { f with moreBreaks := f.moreBreaks ++ b }
  else { f with blanks := [], firstBreak := b, broken := true }

end Folding

/-- Reads blanks and line breaks.  Where indentation counts, a tab in front of the least
column of a continued line is an error. -/
def readGap (least : Option Nat) : Nat → Cursor → Folding → Except Error (Cursor × Folding)
  | 0, c, f => .ok (c, f)
  | steps + 1, c, f =>
    match c.peek 0 with
    | none => .ok (c, f)
    | some x =>
      if isSpace x then
        if x = '\t' ∧ f.broken ∧ least.any (c.column < ·) then .error .badIndent
        else readGap least steps (c.skip 1) (f.addBlank x)
      else if isBreak x then
        let (b, c) := c.skipBreak
        readGap least steps c (f.addBreak b)
      else .ok (c, f)

/-! ## 2. Plain scalars -/

/-- The characters that end a plain scalar inside a flow collection. -/
def isFlowMark (x : Char) : Bool :=
  x == ',' || x == '[' || x == ']' || x == '\x7b' || x == '\x7d'

/-- Reads the characters of a plain scalar up to a blank or its end. -/
def readPlainWord (inFlow : Bool) : Nat → Cursor → Folding → Except Error (Cursor × Folding)
  | 0, c, f => .ok (c, f)
  | steps + 1, c, f =>
    match c.peek 0 with
    | none => .ok (c, f)
    | some x =>
      if isSpace x || isBreak x then .ok (c, f)
      else if inFlow && x == ':' && (c.peek 1).any (fun y => isFlowMark y || y == '?') then
        .error .badToken
      else if (x == ':' && c.gapAt 1) || (inFlow && isFlowMark x) then .ok (c, f)
      else
        let f := f.settle
        readPlainWord inFlow steps (c.skip 1) { f with text := f.text ++ [x] }

/-- Reads a plain scalar whose continued lines stand at `least` or further right. -/
def readPlainLoop (inFlow : Bool) (least : Nat) :
    Nat → Cursor → Folding → Except Error (Cursor × Folding)
  | 0, c, f => .ok (c, f)
  | steps + 1, c, f => do
    if c.atDocumentMark || c.has 0 '#' then return (c, f)
    let (c, f) ← readPlainWord inFlow (c.rest.length + 1) c f
    if !(c.atSpace || c.atBreak) then return (c, f)
    let (c, f) ← readGap (some least) (c.rest.length + 1) c f
    if !inFlow && c.column < least then return (c, f)
    readPlainLoop inFlow least steps c f

/-- Reads a plain scalar: its text, the place after it, and whether that place is on a
later line. -/
def readPlain (inFlow : Bool) (least : Nat) (c : Cursor) :
    Except Error (List Char × Cursor × Bool) :=
  (readPlainLoop inFlow least (c.rest.length + 1) c {}).map fun (c, f) => (f.text, c, f.broken)

/-! ## 3. Quoted scalars -/

/-- The value of a digit in base sixteen. -/
def hexDigit? (x : Char) : Option Nat :=
  if x.isDigit then some (x.toNat - '0'.toNat)
  else if 'a' ≤ x ∧ x ≤ 'f' then some (x.toNat - 'a'.toNat + 10)
  else if 'A' ≤ x ∧ x ≤ 'F' then some (x.toNat - 'A'.toNat + 10)
  else none

/-- The character with the code that some digits in base sixteen give. -/
def hexChar? (digits : List Char) : Option Char :=
  (digits.foldlM (fun n x => (hexDigit? x).map (16 * n + ·)) 0).bind fun n =>
    if n < 0xD800 ∨ (0xE000 ≤ n ∧ n ≤ 0x10FFFF) then some (Char.ofNat n) else none

/-- The number of digits after an escape letter that takes a code. -/
def codeLength? : Char → Option Nat
  | 'x' => some 2
  | 'u' => some 4
  | 'U' => some 8
  | _ => none

/-- The character of an escape letter. -/
def escapeLetter? : Char → Option Char
  | '0' => some '\x00'
  | 'a' => some '\x07'
  | 'b' => some '\x08'
  | 't' => some '\t'
  | '\t' => some '\t'
  | 'n' => some '\n'
  | 'v' => some '\x0b'
  | 'f' => some '\x0c'
  | 'r' => some '\r'
  | 'e' => some '\x1b'
  | ' ' => some ' '
  | '"' => some '"'
  | '/' => some '/'
  | '\\' => some '\\'
  | 'N' => some '\x85'
  | '_' => some '\xa0'
  | 'L' => some '\u2028'
  | 'P' => some '\u2029'
  | _ => none

/-- Reads the escape after a backslash: its character and the place after it. -/
def readEscape (c : Cursor) : Except Error (Char × Cursor) :=
  match c.peek 0 with
  | none => .error .badEscape
  | some letter =>
    match codeLength? letter with
    | some n =>
      let digits := (c.rest.drop 1).take n
      match if digits.length = n then hexChar? digits else none with
      | some x => .ok (x, c.skip (n + 1))
      | none => .error .badEscape
    | none =>
      match escapeLetter? letter with
      | some x => .ok (x, c.skip 1)
      | none => .error .badEscape

/-- Reads the characters of a quoted scalar up to a blank, a break or the closing quote.
An escaped line break counts as a break that leaves no trace. -/
def readQuotedWord (double : Bool) : Nat → Cursor → Folding → Except Error (Cursor × Folding)
  | 0, c, f => .ok (c, f)
  | steps + 1, c, f =>
    match c.peek 0 with
    | none => .ok (c, f)
    | some x =>
      if isSpace x || isBreak x then .ok (c, f)
      else if !double && x == '\'' && c.has 1 '\'' then
        readQuotedWord double steps (c.skip 2) { f with text := f.text ++ ['\''] }
      else if x == (if double then '"' else '\'') then .ok (c, f)
      else if double && x == '\\' then
        if (c.peek 1).any isBreak then .ok (((c.skip 1).skipBreak).2, { f with broken := true })
        else do
          let (y, c) ← readEscape (c.skip 1)
          readQuotedWord double steps c { f with text := f.text ++ [y] }
      else readQuotedWord double steps (c.skip 1) { f with text := f.text ++ [x] }

/-- Reads up to and with the closing quote. -/
def readQuotedLoop (double : Bool) : Nat → Cursor → Folding → Except Error (Cursor × Folding)
  | 0, _, _ => .error .unclosed
  | steps + 1, c, f => do
    if c.atDocumentMark || c.atEnd then throw .unclosed
    let (c, f) ← readQuotedWord double (c.rest.length + 1) c f
    if !f.broken && c.has 0 (if double then '"' else '\'') then return (c.skip 1, f)
    let (c, f) ← readGap none (c.rest.length + 1) c f
    readQuotedLoop double steps c f.settle

/-- Reads a quoted scalar from its opening quote on. -/
def readQuoted (double : Bool) (c : Cursor) : Except Error (List Char × Cursor) :=
  (readQuotedLoop double (c.rest.length + 1) (c.skip 1) {}).map fun (c, f) => (f.text, c)

/-! ## 4. Block scalars -/

/-- What happens to the line breaks at the end of a block. -/
inductive Chomping where
  | strip
  | clip
  | keep
  deriving DecidableEq, Repr

/-- The chomping that a sign asks for. -/
def chomping? : Char → Option Chomping
  | '+' => some .keep
  | '-' => some .strip
  | _ => none

/-- Reads the signs after the mark of a block: chomping and indentation, in any order. -/
def readHeader (c : Cursor) : Except Error (Chomping × Option Nat × Cursor) := do
  let digit? (x : Char) : Option Nat := if x.isDigit then some (x.toNat - '0'.toNat) else none
  let (chomping, c) := match (c.peek 0).bind chomping? with
    | some k => (some k, c.skip 1)
    | none => (none, c)
  let (indent, c) := match (c.peek 0).bind digit? with
    | some n => (some n, c.skip 1)
    | none => (none, c)
  if indent = some 0 then throw .badHeader
  let (chomping, c) := match chomping, indent, (c.peek 0).bind chomping? with
    | none, some _, some k => (some k, c.skip 1)
    | k, _, _ => (k, c)
  let (_, c) := c.span isSpace
  let (_, c) := if c.has 0 '#' then c.span fun x => !isBreak x else ([], c)
  if c.atEnd then return (chomping.getD .clip, indent, c)
  if !c.atBreak then throw .badHeader
  return (chomping.getD .clip, indent, c.skipBreak.2)

/-- Reads empty lines and the indentation of the next line.  As long as the indentation of
the block is unknown, the widest one so far is kept. -/
def readBlockBreaks (indent : Option Nat) :
    Nat → Cursor → List Char → Nat → Except Error (Cursor × List Char × Nat)
  | 0, c, breaks, widest => .ok (c, breaks, widest)
  | steps + 1, c, breaks, widest =>
    let within := fun column => indent.all (column < ·)
    let spaces := (c.rest.takeWhile (· == ' ')).length
    let c := c.skip (match indent with
      | none => spaces
      | some n => min spaces (n - c.column))
    let widest := max widest c.column
    if within c.column && c.has 0 '\t' then .error .badIndent
    else if c.atBreak then
      let (b, c) := c.skipBreak
      readBlockBreaks indent steps c (breaks ++ b) widest
    else .ok (c, breaks, widest)

/-- The lines of a block so far. -/
structure Block where
  text : List Char := []
  /-- The break at the end of the last line. -/
  lineBreak : List Char := []
  /-- The empty lines after it. -/
  emptyLines : List Char := []
  /-- The last line began with a blank. -/
  indented : Bool := false

/-- Reads the lines of a block. -/
def readBlockLines (literal : Bool) (indent : Nat) :
    Nat → Cursor → Block → Except Error (Cursor × Block)
  | 0, c, b => .ok (c, b)
  | steps + 1, c, b =>
    if c.column != indent || c.atEnd then .ok (c, b)
    else do
      let blank := c.atSpace
      let joint :=
        if !literal && b.lineBreak == ['\n'] && !b.indented && !blank then
          if b.emptyLines = [] then [' '] else []
        else b.lineBreak
      let (line, c) := c.span fun x => !isBreak x
      let (lineBreak, c) := c.skipBreak
      let (c, emptyLines, _) ← readBlockBreaks (some indent) (c.rest.length + 1) c [] 0
      readBlockLines literal indent steps c
        { text := b.text ++ joint ++ b.emptyLines ++ line, lineBreak, emptyLines
          indented := blank }

/-- Reads a block from its mark on, inside a collection at the column `parent`. -/
def readBlock (parent : Int) (c : Cursor) : Except Error (List Char × Cursor) := do
  let literal := c.has 0 '|'
  let (chomping, given, c) ← readHeader (c.skip 1)
  let given := given.map fun n => (max parent 0).toNat + n
  let (c, breaks, widest) ← readBlockBreaks given (c.rest.length + 1) c [] 0
  let indent := given.getD (max (max widest (parent + 1).toNat) 1)
  let (c, b) ← readBlockLines literal indent (c.rest.length + 1) c { emptyLines := breaks }
  let tail := match chomping with
    | .strip => []
    | .clip => b.lineBreak
    | .keep => b.lineBreak ++ b.emptyLines
  return (b.text ++ tail, c)

end Yaml

end Logbook
