/-
# Letter case

Upper and lower case of whole texts, by the full Unicode mappings: a letter may become
several (`ß` is `SS` in upper case), and a capital sigma at the end of a word becomes the
final small sigma.  For a text of ASCII letters both are the letter-by-letter mappings of
the core library.
-/
import Logbook.Text.Case.Table

namespace Logbook.Text

/-! ## 1. One letter -/

/-- The image of a code point under the first run that holds it, else itself. -/
def mapRuns (runs : List CaseRun) (c : Char) : Char :=
  match runs.findSome? (·.image? c.toNat) with
  | some n => Char.ofNat n
  | none => c

/-- Lower case of a letter on its own.  The dotted capital I keeps its dot as a mark. -/
def lowerLetter (c : Char) : List Char :=
  if c.toNat < 0x80 then [c.toLower]
  else if c = 'İ' then ['i', '\u0307']
  else [mapRuns lowerRuns c]

/-- Upper case of a letter. -/
def upperLetter (c : Char) : List Char :=
  if c.toNat < 0x80 then [c.toUpper]
  else match upperExpansions.lookup c.toNat with
    | some ns => ns.map Char.ofNat
    | none => [mapRuns upperRuns c]

theorem lowerLetter_ascii {c : Char} (h : c.toNat < 0x80) : lowerLetter c = [c.toLower] := by
  simp [lowerLetter, h]

/-! ## 2. Whole texts -/

/-- Whether the first character that the final sigma rule does not look through has a
case. -/
def meetsCased (s : List Char) : Bool :=
  match s.dropWhile caseIgnorableRanges.has with
  | [] => false
  | c :: _ => casedRanges.has c

/-- Lower case of a text that stands after `before`, which is given backwards. -/
def lowerAfter (before : List Char) : List Char → List Char
  | [] => []
  | c :: rest =>
    (if c = 'Σ' then
      [if meetsCased before && !meetsCased rest then 'ς' else 'σ']
    else lowerLetter c) ++ lowerAfter (c :: before) rest

/-- The text in lower case. -/
def lower (s : List Char) : List Char := lowerAfter [] s

/-- The text in upper case. -/
def upper (s : List Char) : List Char := s.flatMap upperLetter

/-- The text with its ASCII capitals made small. -/
def lowerAscii (s : List Char) : List Char := s.map Char.toLower

end Logbook.Text
