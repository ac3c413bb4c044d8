/-
# Styles

How a terminal shows a text: a foreground and a background colour, and emphasis such as
bold.  A terminal is told by escape sequences, one for each colour and each emphasis, and
told to stop by a reset after the text.

The plain style has no sequences, and text in it is written without a reset
(`wrap_plain`).
-/

namespace Logbook

/-! ## 1. Colours of a terminal -/

/-- The eight basic colours, in the order of their codes. -/
inductive NamedColor where
  | black
  | red
  | green
  | yellow
  | blue
  | magenta
  | cyan
  | white
  deriving DecidableEq, Repr

/-- The code of a basic colour. -/
def NamedColor.code : NamedColor → Nat
  | .black => 0
  | .red => 1
  | .green => 2
  | .yellow => 3
  | .blue => 4
  | .magenta => 5
  | .cyan => 6
  | .white => 7

/-- A colour that a terminal knows: basic, one of the palette, or a mix.  The bright variant of a
basic colour is one of the palette. -/
inductive Ink where
  | named (c : NamedColor)
  | index (n : Fin 256)
  | rgb (red green blue : Fin 256)
  deriving DecidableEq, Repr

/-- The colour of the palette with a number, if there is one. -/
def Ink.ofNat? (n : Nat) : Option Ink := if h : n < 256 then some (.index ⟨n, h⟩) else none

/-- The mix of three numbers, if they are channels. -/
def Ink.ofMix? (r g b : Nat) : Option Ink :=
  if h : r < 256 ∧ g < 256 ∧ b < 256 then some (.rgb ⟨r, h.1⟩ ⟨g, h.2.1⟩ ⟨b, h.2.2⟩) else none

theorem Ink.ofNat?_val (n : Fin 256) : Ink.ofNat? n = some (.index n) := dif_pos n.isLt

theorem Ink.ofMix?_val (r g b : Fin 256) : Ink.ofMix? r g b = some (.rgb r g b) :=
  dif_pos ⟨r.isLt, g.isLt, b.isLt⟩

/-! ## 2. Emphasis -/

/-- An emphasis of text. -/
inductive Attribute where
  | bold
  | dim
  | italic
  | underlined
  | blink
  | fastBlink
  | reverse
  | hidden
  | strikethrough
  deriving DecidableEq, Repr

namespace Attribute

/-- Every emphasis, in the order in which they are written. -/
def all : List Attribute :=
  [.bold, .dim, .italic, .underlined, .blink, .fastBlink, .reverse, .hidden, .strikethrough]

/-- The code of an emphasis. -/
def code : Attribute → Nat
  | .bold => 1
  | .dim => 2
  | .italic => 3
  | .underlined => 4
  | .blink => 5
  | .fastBlink => 6
  | .reverse => 7
  | .hidden => 8
  | .strikethrough => 9

/-- The emphasis with a name in lower case.  Fast blinking has no name. -/
def ofName? : String → Option Attribute
  | "bold" => some .bold
  | "dim" => some .dim
  | "italic" => some .italic
  | "underline" | "underlined" => some .underlined
  | "blink" => some .blink
  | "reverse" => some .reverse
  | "hidden" => some .hidden
  | "strikethrough" => some .strikethrough
  | _ => none

end Attribute

/-- A set of emphases. -/
structure Emphasis where
  bold : Bool := false
  dim : Bool := false
  italic : Bool := false
  underlined : Bool := false
  blink : Bool := false
  fastBlink : Bool := false
  reverse : Bool := false
  hidden : Bool := false
  strikethrough : Bool := false
  deriving DecidableEq, Repr

namespace Emphasis

/-- Whether an emphasis is in the set. -/
def has (e : Emphasis) : Attribute → Bool
  | .bold => e.bold
  | .dim => e.dim
  | .italic => e.italic
  | .underlined => e.underlined
  | .blink => e.blink
  | .fastBlink => e.fastBlink
  | .reverse => e.reverse
  | .hidden => e.hidden
  | .strikethrough => e.strikethrough

/-- The set with an emphasis put in or taken out. -/
def set (e : Emphasis) (a : Attribute) (on : Bool) : Emphasis :=
  match a with
  | .bold => { e with bold := on }
  | .dim => { e with dim := on }
  | .italic => { e with italic := on }
  | .underlined => { e with underlined := on }
  | .blink => { e with blink := on }
  | .fastBlink => { e with fastBlink := on }
  | .reverse => { e with reverse := on }
  | .hidden => { e with hidden := on }
  | .strikethrough => { e with strikethrough := on }

theorem has_set (e : Emphasis) (a b : Attribute) (on : Bool) :
    (e.set a on).has b = if b = a then on else e.has b := by
  cases a <;> cases b <;> rfl

theorem has_foldl_set (attributes : List Attribute) (e : Emphasis) (b : Attribute) :
    (attributes.foldl (·.set · true) e).has b = true ↔ b ∈ attributes ∨ e.has b = true := by
  induction attributes generalizing e with
  | nil => simp
  | cons a attributes ih =>
    rw [List.foldl_cons, ih, has_set, List.mem_cons]
    by_cases h : b = a
    · simp [h]
    · simp [h]

theorem ext_has {e f : Emphasis} (h : ∀ a, e.has a = f.has a) : e = f := by
  cases e
  cases f
  simp only [Emphasis.mk.injEq]
  exact ⟨h .bold, h .dim, h .italic, h .underlined, h .blink, h .fastBlink, h .reverse, h .hidden,
    h .strikethrough⟩

/-- Every set of emphases is the emphases that it has. -/
theorem foldl_set_filter (e : Emphasis) :
    (Attribute.all.filter e.has).foldl (·.set · true) {} = e := by
  refine ext_has fun a => Bool.eq_iff_iff.mpr ?_
  have hnone : has {} a = false := by cases a <;> rfl
  have hall : a ∈ Attribute.all := by cases a <;> decide
  rw [has_foldl_set, List.mem_filter, hnone]
  simp [hall]

end Emphasis

/-! ## 3. Styles -/

/-- The look of a text. -/
structure Style where
  foreground : Option Ink := none
  background : Option Ink := none
  emphasis : Emphasis := {}
  deriving DecidableEq, Repr

namespace Style

/-- No colour and no emphasis. -/
def plain : Style := {}

/-- The parameters of the sequence for a colour, where basic colours start at a code. -/
def inkCode (start : Nat) : Ink → List Nat
  | .named c => [start + c.code]
  | .index n => [start + 8, 5, n]
  | .rgb r g b => [start + 8, 2, r, g, b]

/-- The parameters of each sequence of a style, in the order in which they are written. -/
def codes (s : Style) : List (List Nat) :=
  (s.foreground.map (inkCode 30)).toList ++ (s.background.map (inkCode 40)).toList ++
    (Attribute.all.filter s.emphasis.has).map fun a => [a.code]

/-- An escape sequence with its parameters. -/
def sequenceText (parameters : List Nat) : String :=
  "\x1b[" ++ ";".intercalate (parameters.map fun n => String.ofList (Nat.toDigits 10 n)) ++ "m"

/-- The sequences that are written before a text. -/
def escapes (s : Style) : String := String.join (s.codes.map sequenceText)

/-- The sequence that ends a style. -/
def reset : String := "\x1b[0m"

/-- A text in a style, as it is sent to a terminal. -/
def wrap (s : Style) (text : String) : String :=
  if s.codes = [] then text else s.escapes ++ text ++ reset

theorem codes_plain : plain.codes = [] := by decide

theorem wrap_plain (text : String) : plain.wrap text = text := by
  simp [wrap, codes_plain]

end Style

end Logbook
