/-
# YAML documents

The tree of a document: scalars with their text, sequences and mappings.  Aliases are
replaced by what their anchor stands for.

A text holds one document or none.  Reading goes over the lexemes once; the bound on its
steps is twice their number, and collections may be nested 128 deep.
-/
import Logbook.Yaml.Lexeme

namespace Logbook

namespace Yaml

/-- A node of a document. -/
inductive Node where
  /-- A scalar, which may stand for more than its text if it is plain. -/
  | scalar (plain : Bool) (text : List Char)
  | sequence (items : List Node)
  | mapping (entries : List (Node × Node))

namespace Node

/-- What is not written. -/
def empty : Node := .scalar true []

/-- What is known while a document is read: the lexemes left, and the anchors so far,
latest first. -/
structure Source where
  lexemes : List Lexeme
  anchors : List (List Char × Node)

/-- The source after one lexeme. -/
def Source.drop (s : Source) : Source := { s with lexemes := s.lexemes.drop 1 }

/-- Whether the next lexeme is among some, or there is none. -/
def Source.isAt (s : Source) (xs : List Lexeme) : Bool :=
  match s.lexemes with
  | [] => true
  | x :: _ => xs.contains x

/-- Where a node stands: in a block collection or not, and as the value of a block mapping,
whose sequences need no indentation, or not. -/
structure Place where
  block : Bool
  compact : Bool

/-- Notes the anchor of a node. -/
def Source.note (s : Source) (anchor : Option (List Char)) (n : Node) : Source :=
  match anchor with
  | none => s
  | some name => { s with anchors := (name, n) :: s.anchors }

mutual
/-- Reads a node. -/
def read (steps depth : Nat) (place : Place) (anchor : Option (List Char)) (s : Source) :
    Except Error (Node × Source) :=
  match steps, depth with
  | 0, _ => .error .tooDeep
  | _, 0 => .error .tooDeep
  | steps + 1, depth + 1 =>
    let finish (r : Except Error (Node × Source)) : Except Error (Node × Source) :=
      r.map fun (n, s) => (n, s.note anchor n)
    match s.lexemes with
    | .alias name :: _ =>
      match s.anchors.lookup name, anchor with
      | some n, none => .ok (n, s.drop)
      | _, _ => .error .unknownAnchor
    | .anchor name :: _ =>
      if anchor.isSome then .error .missingContent
      else read steps (depth + 1) place (some name) s.drop
    | .scalar plain text :: _ => finish (.ok (.scalar plain text, s.drop))
    | .openBracket :: _ => finish (readFlowItems steps depth true s.drop [])
    | .openBrace :: _ => finish (readFlowEntries steps depth true s.drop [])
    | .entry :: _ =>
      if place.compact then finish (readItems steps depth false s [])
      else if anchor.isSome then .ok (empty, s.note anchor empty)
      else .error .missingContent
    | .blockSequence :: _ =>
      if place.block then finish (readItems steps depth true s.drop [])
      else .error .missingContent
    | .blockMapping :: _ =>
      if place.block then finish (readEntries steps depth s.drop [])
      else .error .missingContent
    | _ => if anchor.isSome then .ok (empty, s.note anchor empty) else .error .missingContent

/-- Reads the items of a block sequence.  One that is indented has an end of its own. -/
def readItems (steps depth : Nat) (indented : Bool) (s : Source) (items : List Node) :
    Except Error (Node × Source) :=
  match steps with
  | 0 => .error .tooDeep
  | steps + 1 =>
    match s.lexemes with
    | .entry :: _ => do
      let s := s.drop
      let stops : List Lexeme :=
        if indented then [.entry, .blockEnd] else [.entry, .key, .value, .blockEnd]
      if s.isAt stops then readItems steps depth indented s (items ++ [empty])
      else
        let (n, s) ← read steps depth ⟨true, false⟩ none s
        readItems steps depth indented s (items ++ [n])
    | .blockEnd :: _ => .ok (.sequence items, if indented then s.drop else s)
    | _ => if indented then .error .missingMark else .ok (.sequence items, s)

/-- Reads the entries of a block mapping. -/
def readEntries (steps depth : Nat) (s : Source) (entries : List (Node × Node)) :
    Except Error (Node × Source) :=
  match steps with
  | 0 => .error .tooDeep
  | steps + 1 =>
    let stops : List Lexeme := [.key, .value, .blockEnd]
    match s.lexemes with
    | .key :: _ => do
      let s := s.drop
      let (k, s) ← if s.isAt stops then pure (empty, s) else read steps depth ⟨true, true⟩ none s
      match s.lexemes with
      | .value :: _ =>
        let s := s.drop
        let (v, s) ←
          if s.isAt stops then pure (empty, s) else read steps depth ⟨true, true⟩ none s
        readEntries steps depth s (entries ++ [(k, v)])
      | _ => readEntries steps depth s (entries ++ [(k, empty)])
    | .blockEnd :: _ => .ok (.mapping entries, s.drop)
    | _ => .error .missingMark

/-- Reads the value of an entry of a flow collection, which may be missing. -/
def readFlowValue (steps depth : Nat) (close : Lexeme) (s : Source) :
    Except Error (Node × Source) :=
  match steps with
  | 0 => .error .tooDeep
  | steps + 1 =>
    match s.lexemes with
    | .value :: _ =>
      let s := s.drop
      if s.isAt [.comma, close] then .ok (empty, s) else read steps depth ⟨false, false⟩ none s
    | _ => .ok (empty, s)

/-- Reads the items of a flow sequence.  An item with a colon is a mapping of one entry. -/
def readFlowItems (steps depth : Nat) (first : Bool) (s : Source) (items : List Node) :
    Except Error (Node × Source) :=
  match steps with
  | 0 => .error .tooDeep
  | steps + 1 =>
    match s.lexemes with
    | .closeBracket :: _ => .ok (.sequence items, s.drop)
    | x :: _ =>
      if !first && x != .comma then .error .missingMark
      else
        let s := if first then s else s.drop
        match s.lexemes with
        | .closeBracket :: _ => .ok (.sequence items, s.drop)
        | .key :: _ => do
          let s := s.drop
          let (k, s) ←
            if s.isAt [.value, .comma, .closeBracket] then pure (empty, s)
            else read steps depth ⟨false, false⟩ none s
          let (v, s) ← readFlowValue steps depth .closeBracket s
          readFlowItems steps depth false s (items ++ [.mapping [(k, v)]])
        | _ => do
          let (n, s) ← read steps depth ⟨false, false⟩ none s
          readFlowItems steps depth false s (items ++ [n])
    | [] => .error .unclosed

/-- Reads the entries of a flow mapping. -/
def readFlowEntries (steps depth : Nat) (first : Bool) (s : Source)
    (entries : List (Node × Node)) : Except Error (Node × Source) :=
  match steps with
  | 0 => .error .tooDeep
  | steps + 1 =>
    match s.lexemes with
    | .closeBrace :: _ => .ok (.mapping entries, s.drop)
    | x :: _ =>
      if !first && x != .comma then .error .missingMark
      else
        let s := if first then s else s.drop
        match s.lexemes with
        | .closeBrace :: _ => .ok (.mapping entries, s.drop)
        | .key :: _ => do
          let s := s.drop
          let (k, s) ←
            if s.isAt [.value, .comma, .closeBrace] then pure (empty, s)
            else read steps depth ⟨false, false⟩ none s
          let (v, s) ← readFlowValue steps depth .closeBrace s
          readFlowEntries steps depth false s (entries ++ [(k, v)])
        | _ => do
          let (n, s) ← read steps depth ⟨false, false⟩ none s
          readFlowEntries steps depth false s (entries ++ [(n, empty)])
    | [] => .error .unclosed
end

/-! ## Documents -/

/-- The lexemes after the ends of a document. -/
def dropEnds (xs : List Lexeme) : List Lexeme := xs.dropWhile (· == .documentEnd)

/-- What stands before the content of a document: nothing, or a start mark, in front of
which there may be a directive. -/
def dropStart : List Lexeme → Except Error (List Lexeme)
  | .directive :: .documentStart :: rest => .ok rest
  | .directive :: _ => .error .missingMark
  | .documentStart :: rest => .ok rest
  | xs => .ok xs

/-- Reads the document of a text.  A text without one gives none. -/
def ofText (text : String) : Except Error (Option Node) := do
  let xs ← lexemes text.toList
  let start := dropEnds xs
  if start = [] then return none
  let source : Source := ⟨← dropStart start, []⟩
  let (n, s) ←
    if source.isAt [.directive, .documentStart, .documentEnd] then pure (empty, source)
    else read (2 * xs.length + 2) 129 ⟨true, false⟩ none source
  if dropEnds s.lexemes = [] then return some n else throw .manyDocuments

end Node

end Yaml

end Logbook
