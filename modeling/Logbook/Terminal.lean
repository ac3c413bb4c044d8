/-
# Terminals

The other end of the escape sequences: what a terminal shows of the text that it is sent.  It
reads characters and the sequences that select a rendition, `ESC [ … m`, where the dots are
numbers with semicolons between them.  A character is shown in the style that is selected when
it arrives, and a sequence changes the style and shows nothing.

An escape that does not open such a sequence is a character like any other.  Numbers that mean
nothing to the terminal change nothing.
-/
import Logbook.Style

namespace Logbook

namespace Terminal

/-! ## 1. Reading -/

/-- What a terminal reads. -/
inductive Signal where
  | char (c : Char)
  /-- A sequence with its numbers. -/
  | select (parameters : List Nat)
  deriving DecidableEq, Repr

/-- The characters between the opening of a sequence and its end. -/
def isParameterChar (c : Char) : Bool := c.isDigit || c == ';'

/-- The numbers of a sequence, the first of which continues a number.  A number that is left out
is zero. -/
def readParameters (start : Nat) : List Char → List Nat
  | [] => [start]
  | c :: rest =>
    if c = ';' then start :: readParameters 0 rest
    else readParameters (10 * start + (c.toNat - '0'.toNat)) rest

/-- The numbers of a sequence behind its opening, and the text after it. -/
def cutSequence (s : List Char) : Option (List Nat × List Char) :=
  match s.dropWhile isParameterChar with
  | 'm' :: after => some (readParameters 0 (s.takeWhile isParameterChar), after)
  | _ => none

theorem cutSequence_length {s after : List Char} {parameters : List Nat}
    (h : cutSequence s = some (parameters, after)) : after.length < s.length := by
  unfold cutSequence at h
  split at h
  · rename_i rest hrest
    obtain ⟨-, rfl⟩ := Prod.mk.inj (Option.some.inj h)
    have hle := (List.dropWhile_suffix (l := s) isParameterChar).length_le
    rw [hrest, List.length_cons] at hle
    omega
  · cases h

/-- What is read from a text, in order. -/
def read : List Char → List Signal
  | [] => []
  | '\x1b' :: '[' :: rest =>
    match _h : cutSequence rest with
    | some (parameters, after) => .select parameters :: read after
    | none => .char '\x1b' :: read ('[' :: rest)
  | c :: rest => .char c :: read rest
  termination_by s => s.length
  decreasing_by
    · have := cutSequence_length _h
      simp only [List.length_cons]
      omega
    · simp
    · simp

/-- The text without its sequences. -/
def strip (s : List Char) : List Char :=
  (read s).filterMap fun
    | .char c => some c
    | .select _ => none

/-! ## 2. Selecting a style -/

/-- The basic colour with a code. -/
def basic : Nat → NamedColor
  | 0 => .black
  | 1 => .red
  | 2 => .green
  | 3 => .yellow
  | 4 => .blue
  | 5 => .magenta
  | 6 => .cyan
  | _ => .white

/-- The style with an emphasis switched on or off. -/
def emphasize (style : Style) (a : Attribute) (on : Bool) : Style :=
  { style with emphasis := style.emphasis.set a on }

/-- What one number does to the style that is selected. -/
def select (style : Style) : Nat → Style
  | 0 => .plain
  | 1 => emphasize style .bold true
  | 2 => emphasize style .dim true
  | 3 => emphasize style .italic true
  | 4 => emphasize style .underlined true
  | 5 => emphasize style .blink true
  | 6 => emphasize style .fastBlink true
  | 7 => emphasize style .reverse true
  | 8 => emphasize style .hidden true
  | 9 => emphasize style .strikethrough true
  | 22 => emphasize (emphasize style .bold false) .dim false
  | 23 => emphasize style .italic false
  | 24 => emphasize style .underlined false
  | 25 => emphasize (emphasize style .blink false) .fastBlink false
  | 27 => emphasize style .reverse false
  | 28 => emphasize style .hidden false
  | 29 => emphasize style .strikethrough false
  | 39 => { style with foreground := none }
  | 49 => { style with background := none }
  | n =>
    if 30 ≤ n ∧ n < 38 then { style with foreground := some (.named (basic (n - 30))) }
    else if 40 ≤ n ∧ n < 48 then { style with background := some (.named (basic (n - 40))) }
    -- The bright colours are the second eight of the palette.
    else if 90 ≤ n ∧ n < 98 then { style with foreground := Ink.ofNat? (n - 90 + 8) }
    else if 100 ≤ n ∧ n < 108 then { style with background := Ink.ofNat? (n - 100 + 8) }
    else style

/-- What the numbers of a sequence do to the style that is selected.  A colour of the palette
takes three of them, and a mix takes five. -/
def selectAll (style : Style) : List Nat → Style
  | [] => style
  | 38 :: 5 :: n :: rest =>
    selectAll { style with foreground := (Ink.ofNat? n).or style.foreground } rest
  | 48 :: 5 :: n :: rest =>
    selectAll { style with background := (Ink.ofNat? n).or style.background } rest
  | 38 :: 2 :: r :: g :: b :: rest =>
    selectAll { style with foreground := (Ink.ofMix? r g b).or style.foreground } rest
  | 48 :: 2 :: r :: g :: b :: rest =>
    selectAll { style with background := (Ink.ofMix? r g b).or style.background } rest
  | n :: rest => selectAll (select style n) rest

/-! ## 3. Showing -/

/-- What is shown from a style on, each character in its style, and the style in the end. -/
def draw (style : Style) : List Signal → List (Char × Style) × Style
  | [] => ([], style)
  | .char c :: rest => ((c, style) :: (draw style rest).1, (draw style rest).2)
  | .select parameters :: rest => draw (selectAll style parameters) rest

/-- What a terminal shows of a text, and the style that is selected behind it. -/
def display (style : Style) (s : List Char) : List (Char × Style) × Style := draw style (read s)

end Terminal

end Logbook
