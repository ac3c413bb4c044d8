/-
# Colours of theme files

A colour is written as a name, as an index into the palette of 256 colours, or as a mix of
red, green and blue.  Names are the eight basic colours, their `bright_` variants, and
gray.  A mix is shown by an index of the palette: of the gray ramp if its channels are
equal, else of the colour cube.
-/
import Logbook.Style
import Logbook.Text.Blank
import Logbook.Text.Case

namespace Logbook

/-! ## 1. Colours -/

/-- A colour of a theme file. -/
inductive Color where
  | named (c : NamedColor)
  | index (n : Fin 256)
  | rgb (red green blue : Fin 256)
  deriving DecidableEq, Repr

/-- Why a text or a value is no colour. -/
inductive ColorError where
  | badHex (digits : String)
  | hexLength (digits : String)
  | unknownName (name : String)
  | unknownBright (name : String)
  | badIndex (number : String)
  | indexRange (n : Nat)
  | tupleLength (n : Nat)
  | componentKind (position : Nat)
  | componentRange (position n : Nat)
  | badValue (value : String)
  deriving DecidableEq, Repr

/-- The text of an error. -/
def ColorError.message : ColorError → String
  | .badHex digits => "invalid hex color: #" ++ digits
  | .hexLength digits => "invalid hex color: #" ++ digits ++ " (must be 3 or 6 digits)"
  | .unknownName name => "unknown color name: " ++ name
  | .unknownBright name => "unknown bright color: " ++ name
  | .badIndex number => "invalid palette index: " ++ number
  | .indexRange n => "palette index " ++ toString n ++ " out of range (0-255)"
  | .tupleLength n => "RGB tuple must have exactly 3 values, got " ++ toString n
  | .componentKind i => "RGB component " ++ toString i ++ " is not a number"
  | .componentRange i n =>
    "RGB component " ++ toString i ++ " out of range (0-255): " ++ toString n
  | .badValue value => "invalid color value: " ++ value

namespace Color

/-! ## 2. Reading -/

/-- The number, if it is below 256. -/
def byte? (n : Nat) : Option (Fin 256) := if h : n < 256 then some ⟨n, h⟩ else none

/-- The value of a digit in base sixteen, in either case. -/
def hexDigit? (c : Char) : Option Nat :=
  if '0' ≤ c ∧ c ≤ '9' then some (c.toNat - '0'.toNat)
  else if 'a' ≤ c ∧ c ≤ 'f' then some (c.toNat - 'a'.toNat + 10)
  else if 'A' ≤ c ∧ c ≤ 'F' then some (c.toNat - 'A'.toNat + 10)
  else none

/-- A channel of one digit, which counts for two. -/
def shortChannel? (c : Char) : Option (Fin 256) :=
  (hexDigit? c).bind fun n => byte? (17 * n)

/-- A channel of two characters: two digits, or a plus sign and a digit. -/
def longChannel? (c d : Char) : Option (Fin 256) :=
  if c = '+' then (hexDigit? d).bind byte?
  else (hexDigit? c).bind fun high => (hexDigit? d).bind fun low => byte? (16 * high + low)

/-- The mix after a number sign. -/
def ofHex (digits : List Char) : Except ColorError Color :=
  let error := ColorError.badHex (String.ofList digits)
  let mix (r g b : Option (Fin 256)) : Except ColorError Color :=
    match r, g, b with
    | some r, some g, some b => .ok (.rgb r g b)
    | _, _, _ => .error error
  if digits.any fun c => 0x80 ≤ c.toNat then .error error
  else match digits with
    | [r, g, b] => mix (shortChannel? r) (shortChannel? g) (shortChannel? b)
    | [r, r', g, g', b, b'] => mix (longChannel? r r') (longChannel? g g') (longChannel? b b')
    | digits => .error (.hexLength (String.ofList digits))

/-- A palette index: digits after an optional plus sign, with a value below 256. -/
def index? (s : List Char) : Option (Fin 256) :=
  let digits := match s with
    | '+' :: rest => rest
    | s => s
  if digits ≠ [] ∧ digits.all Char.isDigit then
    byte? (digits.foldl (fun n c => 10 * n + (c.toNat - '0'.toNat)) 0)
  else none

/-- The basic colour with a name in lower case. -/
def basic? : String → Option NamedColor
  | "black" => some .black
  | "red" => some .red
  | "green" => some .green
  | "yellow" => some .yellow
  | "blue" => some .blue
  | "magenta" => some .magenta
  | "cyan" => some .cyan
  | "white" => some .white
  | _ => none

/-- The palette index of the bright variant of a basic colour. -/
def bright (c : NamedColor) : Fin 256 :=
  ⟨8 + c.code, by cases c <;> decide⟩

/-- What follows `bright_` in a name. -/
def brightBase? (name : List Char) : Option (List Char) :=
  match name with
  | 'b' :: 'r' :: 'i' :: 'g' :: 'h' :: 't' :: '_' :: base => some base
  | _ => none

/-- The colour with a name, in any letter case. -/
def ofName (name : List Char) : Except ColorError Color :=
  let lower := Text.lower name
  match brightBase? lower with
  | some base =>
    match basic? (String.ofList base) with
    | some c => .ok (.index (bright c))
    | none => .error (.unknownBright (String.ofList name))
  | none =>
    match basic? (String.ofList lower) with
    | some c => .ok (.named c)
    | none =>
      if lower = "gray".toList ∨ lower = "grey".toList then .ok (.index (bright .black))
      else .error (.unknownName (String.ofList name))

/-- Reads a colour from a text. -/
def ofText (s : String) : Except ColorError Color :=
  match Text.trim s.toList with
  | '#' :: digits => ofHex digits
  | name =>
    match index? name with
    | some n => .ok (.index n)
    | none => ofName name

/-! ## 3. Showing -/

/-- The palette index of a gray: black, a step of the ramp, or white. -/
def grayIndex (level : Nat) : Nat :=
  if level < 8 then 16 else if 248 < level then 231 else 232 + (level - 8) * 24 / 247

/-- The palette index of an entry of the colour cube, with six steps for each channel. -/
def cubeIndex (red green blue : Nat) : Nat :=
  16 + 36 * (red * 5 / 255) + 6 * (green * 5 / 255) + blue * 5 / 255

theorem grayIndex_lt (level : Nat) : grayIndex level < 256 := by
  unfold grayIndex
  split
  · omega
  · split <;> omega

theorem cubeIndex_lt (r g b : Fin 256) : cubeIndex r g b < 256 := by
  unfold cubeIndex
  omega

/-- The palette index that stands for a mix. -/
def paletteIndex (r g b : Fin 256) : Fin 256 :=
  if r = g ∧ g = b then ⟨grayIndex r, grayIndex_lt r⟩ else ⟨cubeIndex r g b, cubeIndex_lt r g b⟩

/-- The colour that a terminal shows. -/
def ink : Color → Ink
  | .named c => .named c
  | .index n => .index n
  | .rgb r g b => .index (paletteIndex r g b)

end Color

end Logbook
