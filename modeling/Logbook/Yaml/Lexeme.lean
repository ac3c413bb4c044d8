/-
# Lexemes of YAML texts

A text is cut into lexemes: marks, scalars, and marks that no character stands for.
Indentation opens and closes block collections, and a scalar turns out to be a key only at
the colon after it, where a `key` lexeme is put in front of it.

The state of the cut (`Cut`) holds the indentations of the open block collections, and
for each open flow collection the place where a key might have begun.
-/
import Logbook.Yaml.Scalar

namespace Logbook

namespace Yaml

/-! ## 1. Lexemes -/

/-- A unit of a text. -/
inductive Lexeme where
  | directive
  | documentStart
  | documentEnd
  | blockSequence
  | blockMapping
  | blockEnd
  | entry
  | key
  | value
  | openBracket
  | closeBracket
  | openBrace
  | closeBrace
  | comma
  | anchor (name : List Char)
  | alias (name : List Char)
  | scalar (plain : Bool) (text : List Char)
  deriving DecidableEq, Repr

/-- A place where a key might have begun. -/
structure KeyPlace where
  /-- The number of lexemes before it. -/
  position : Nat
  index : Nat
  line : Nat
  column : Nat
  /-- A block mapping goes on here, so a key must follow. -/
  required : Bool

/-- The state of the cut. -/
structure Cut where
  cursor : Cursor
  lexemes : List Lexeme
  /-- The column of the innermost block collection, or -1. -/
  indent : Int
  /-- The columns of the block collections around it. -/
  outer : List Int
  /-- Whether a key may begin here. -/
  keyAllowed : Bool
  /-- The possible key of the block level. -/
  blockKey : Option KeyPlace
  /-- The possible keys of the open flow collections, innermost first. -/
  flowKeys : List (Option KeyPlace)

namespace Cut

/-- The state at the front of a text. -/
def start (s : List Char) : Cut := ⟨.start s, [], -1, [], true, none, []⟩

/-- Whether a flow collection is open. -/
def inFlow (s : Cut) : Bool := !s.flowKeys.isEmpty

/-- One more lexeme. -/
def push (s : Cut) (x : Lexeme) : Cut := { s with lexemes := s.lexemes ++ [x] }

/-- A lexeme put in before others. -/
def insertAt (s : Cut) (position : Nat) (x : Lexeme) : Cut :=
  { s with lexemes := s.lexemes.take position ++ x :: s.lexemes.drop position }

/-- The place after some characters. -/
def skip (s : Cut) (n : Nat) : Cut := { s with cursor := s.cursor.skip n }

/-! ## 2. Possible keys -/

/-- The possible key of the innermost level. -/
def keyPlace (s : Cut) : Option KeyPlace :=
  match s.flowKeys with
  | [] => s.blockKey
  | k :: _ => k

/-- Sets the possible key of the innermost level. -/
def setKeyPlace (s : Cut) (k : Option KeyPlace) : Cut :=
  match s.flowKeys with
  | [] => { s with blockKey := k }
  | _ :: ks => { s with flowKeys := k :: ks }

/-- A key must end on its line and within 1024 characters. -/
def isStale (s : Cut) (k : KeyPlace) : Bool :=
  k.line < s.cursor.line || k.index + 1024 < s.cursor.index

/-- A possible key, unless it has grown stale. -/
def freshen (s : Cut) : Option KeyPlace → Except Error (Option KeyPlace)
  | none => .ok none
  | some k => if s.isStale k then if k.required then .error .badKey else .ok none else .ok (some k)

/-- Drops the possible keys that have grown stale. -/
def dropStale (s : Cut) : Except Error Cut := do
  let blockKey ← s.freshen s.blockKey
  let flowKeys ← s.flowKeys.mapM s.freshen
  return { s with blockKey, flowKeys }

/-- Drops the possible key of the innermost level. -/
def dropKey (s : Cut) : Except Error Cut :=
  if s.keyPlace.any (·.required) then .error .badKey else .ok (s.setKeyPlace none)

/-- Notes that a key might begin here. -/
def saveKey (s : Cut) : Except Error Cut :=
  if s.keyAllowed then do
    let required := !s.inFlow && s.indent == s.cursor.column
    let s ← s.dropKey
    return s.setKeyPlace (some
      ⟨s.lexemes.length, s.cursor.index, s.cursor.line, s.cursor.column, required⟩)
  else .ok s

/-! ## 3. Indentation -/

/-- Opens a block collection at a column, unless one is open there. -/
def openBlock (s : Cut) (column position : Nat) (x : Lexeme) : Cut :=
  if !s.inFlow && s.indent < column then
    { s.insertAt position x with indent := column, outer := s.indent :: s.outer }
  else s

/-- The block collections that end left of a column: their number, and those that are left
open. -/
def unwind (column : Int) : Int → List Int → Nat × Int × List Int
  | indent, [] => (0, indent, [])
  | indent, next :: outer =>
    if column < indent then
      let (n, indent, outer) := unwind column next outer
      (n + 1, indent, outer)
    else (0, indent, next :: outer)

/-- Closes the block collections that end left of a column. -/
def closeBlocks (s : Cut) (column : Int) : Cut :=
  if s.inFlow then s
  else
    let (n, indent, outer) := unwind column s.indent s.outer
    { s with lexemes := s.lexemes ++ List.replicate n .blockEnd, indent, outer }

/-! ## 4. Single lexemes -/

/-- Skips blanks, comments and line breaks.  A tab is no blank where a key may begin. -/
def skipGap : Nat → Cut → Cut
  | 0, s => s
  | steps + 1, s =>
    match s.cursor.peek 0 with
    | none => s
    | some x =>
      if x = ' ' ∨ (x = '\t' ∧ (s.inFlow ∨ !s.keyAllowed)) then skipGap steps (s.skip 1)
      else if x = '#' then skipGap steps { s with cursor := (s.cursor.span (!isBreak ·)).2 }
      else if isBreak x then
        skipGap steps
          { s with cursor := s.cursor.skipBreak.2, keyAllowed := !s.inFlow || s.keyAllowed }
      else s

/-- The mark of a document, in front of which all collections end. -/
def documentMark (s : Cut) : Except Error Cut := do
  let s ← (s.closeBlocks (-1)).dropKey
  let x := if s.cursor.has 0 '-' then Lexeme.documentStart else .documentEnd
  return ({ s with keyAllowed := false }.skip 3).push x

/-- The version directive, in front of which all collections end.  It names a version of the
first generation, and ends its line. -/
def versionDirective (s : Cut) : Except Error Cut := do
  let s ← (s.closeBlocks (-1)).dropKey
  let (name, cursor) := s.cursor.span fun x => x == '%' || x.isAlphanum || x == '-' || x == '_'
  let (blanks, cursor) := cursor.span isSpace
  let (version, cursor) := cursor.span fun x => x.isDigit || x == '.'
  let (_, cursor) := cursor.span isSpace
  let (_, cursor) := if cursor.has 0 '#' then cursor.span (!isBreak ·) else ([], cursor)
  let known := version = "1.1".toList ∨ version = "1.2".toList
  if name = "%YAML".toList ∧ blanks ≠ [] ∧ known ∧ (cursor.atEnd ∨ cursor.atBreak) then
    return { s with cursor, keyAllowed := false }.push .directive
  else throw .badToken

/-- The start of a flow collection. -/
def openFlow (s : Cut) (x : Lexeme) : Except Error Cut := do
  let s ← s.saveKey
  return ({ s with flowKeys := none :: s.flowKeys, keyAllowed := true }.skip 1).push x

/-- The end of a flow collection. -/
def closeFlow (s : Cut) (x : Lexeme) : Except Error Cut := do
  let s ← s.dropKey
  return ({ s with flowKeys := s.flowKeys.drop 1, keyAllowed := false }.skip 1).push x

/-- The comma of a flow collection. -/
def flowComma (s : Cut) : Except Error Cut := do
  let s ← s.dropKey
  return ({ s with keyAllowed := true }.skip 1).push .comma

/-- The dash of a block sequence. -/
def blockEntry (s : Cut) : Except Error Cut := do
  if !s.inFlow && !s.keyAllowed then throw .badToken
  let s ← (s.openBlock s.cursor.column s.lexemes.length .blockSequence).dropKey
  return ({ s with keyAllowed := true }.skip 1).push .entry

/-- The question mark of a key that is more than a scalar. -/
def explicitKey (s : Cut) : Except Error Cut := do
  if !s.inFlow && !s.keyAllowed then throw .badToken
  let s ← (s.openBlock s.cursor.column s.lexemes.length .blockMapping).dropKey
  return ({ s with keyAllowed := !s.inFlow }.skip 1).push .key

/-- The colon before a value.  What stands at the possible key becomes the key. -/
def valueMark (s : Cut) : Except Error Cut := do
  match s.keyPlace with
  | some k =>
    let s := (s.insertAt k.position .key).openBlock k.column k.position .blockMapping
    return (({ s with keyAllowed := false }.setKeyPlace none).skip 1).push .value
  | none =>
    if !s.inFlow && !s.keyAllowed then throw .badToken
    let s := s.openBlock s.cursor.column s.lexemes.length .blockMapping
    return ({ s with keyAllowed := !s.inFlow }.skip 1).push .value

/-- An anchor or an alias. -/
def name (s : Cut) (x : List Char → Lexeme) : Except Error Cut := do
  let s ← s.saveKey
  let (name, cursor) := (s.cursor.skip 1).span fun x => x.isAlphanum || x == '_' || x == '-'
  let ends := cursor.gapAt 0 || (cursor.peek 0).any ("?:,]\x7d%@\x60".toList.contains ·)
  if name = [] || !ends then throw .badToken
  return { s with cursor, keyAllowed := false }.push (x name)

/-- A block scalar. -/
def blockScalar (s : Cut) : Except Error Cut := do
  let s ← s.dropKey
  let (text, cursor) ← readBlock s.indent s.cursor
  return { s with cursor, keyAllowed := true }.push (.scalar false text)

/-- A quoted scalar. -/
def quotedScalar (s : Cut) (double : Bool) : Except Error Cut := do
  let s ← s.saveKey
  let (text, cursor) ← readQuoted double s.cursor
  return { s with cursor, keyAllowed := false }.push (.scalar false text)

/-- A plain scalar. -/
def plainScalar (s : Cut) : Except Error Cut := do
  let s ← s.saveKey
  let (text, cursor, broken) ← readPlain s.inFlow (s.indent + 1).toNat s.cursor
  return { s with cursor, keyAllowed := broken }.push (.scalar true text)

/-- Characters that begin no plain scalar, unless what follows allows it. -/
def isIndicator (x : Char) : Bool := "-?:,[]\x7b\x7d#&*!|>'\"%@\x60".toList.contains x

/-! ## 5. Whole texts -/

/-- The next lexeme, at a character that is not blank. -/
def next (s : Cut) (x : Char) : Except Error Cut :=
  let gap := s.cursor.gapAt 1
  if s.cursor.column = 0 ∧ x = '%' then s.versionDirective
  else if s.cursor.atDocumentMark then s.documentMark
  else if x = '[' then s.openFlow .openBracket
  else if x = '\x7b' then s.openFlow .openBrace
  else if x = ']' then s.closeFlow .closeBracket
  else if x = '\x7d' then s.closeFlow .closeBrace
  else if x = ',' then s.flowComma
  else if x = '-' ∧ gap then s.blockEntry
  else if x = '?' ∧ (s.inFlow ∨ gap) then s.explicitKey
  else if x = ':' ∧ (s.inFlow ∨ gap) then s.valueMark
  else if x = '*' then s.name .alias
  else if x = '&' then s.name .anchor
  else if (x = '|' ∨ x = '>') ∧ !s.inFlow then s.blockScalar
  else if x = '\'' then s.quotedScalar false
  else if x = '"' then s.quotedScalar true
  else if !(isIndicator x || isSpace x) ∨ (x = '-' ∧ !(s.cursor.peek 1).any isSpace) ∨
      (!s.inFlow ∧ (x = '?' ∨ x = ':') ∧ !gap) then s.plainScalar
  else .error .badToken

/-- All lexemes.  Each step reads a character at least. -/
def run : Nat → Cut → Except Error Cut
  | 0, s => .ok s
  | steps + 1, s => do
    let s ← (skipGap (s.cursor.rest.length + 1) s).dropStale
    let s := s.closeBlocks s.cursor.column
    match s.cursor.peek 0 with
    | none => (s.closeBlocks (-1)).dropKey
    | some x => run steps (← s.next x)

end Cut

/-- The lexemes of a text. -/
def lexemes (s : List Char) : Except Error (List Lexeme) :=
  let start := Cut.start s
  if start.cursor.rest.all isAllowed then
    (Cut.run (start.cursor.rest.length + 1) start).map (·.lexemes)
  else .error .control

end Yaml

end Logbook
