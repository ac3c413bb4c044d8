/-
# Colours written as one word

A colour is written as a name, as a name behind `bright_`, as an index of the palette, or as a
number sign with one or two digits for each channel (`Color.Spelled`).  Letters may be of either
case.

* A colour that is written so is read (`ofText_of_spelled`).
* It holds no blank (`Spelled.isWord`), so it is one word of a longer text.
* In such a text it is not the word `on` and stands for no emphasis (`Spelled.not_isKeyword`).
-/
import Logbook.Color
import Logbook.Proofs.Number.Digits
import Logbook.Proofs.Text.Words

namespace Logbook

/-! ## 1. Names -/

/-- The name of a basic colour. -/
def NamedColor.name : NamedColor → String
  | .black => "black"
  | .red => "red"
  | .green => "green"
  | .yellow => "yellow"
  | .blue => "blue"
  | .magenta => "magenta"
  | .cyan => "cyan"
  | .white => "white"

/-- The names of an emphasis.  A theme file has no word for fast blinking. -/
def Attribute.names : Attribute → List String
  | .bold => ["bold"]
  | .dim => ["dim"]
  | .italic => ["italic"]
  | .underlined => ["underline", "underlined"]
  | .blink => ["blink"]
  | .fastBlink => []
  | .reverse => ["reverse"]
  | .hidden => ["hidden"]
  | .strikethrough => ["strikethrough"]

theorem Attribute.ofName?_eq_some_iff {s : String} {a : Attribute} :
    Attribute.ofName? s = some a ↔ s ∈ a.names := by
  constructor
  · intro h
    unfold Attribute.ofName? at h
    split at h
    case h_10 => cases h
    all_goals
      rw [← Option.some.inj h]
      decide
  · have hall : ∀ s ∈ a.names, Attribute.ofName? s = some a := by
      cases a <;> decide
    exact hall s

namespace Color

/-! ## 2. Spellings -/

/-- A digit of base sixteen, in either case. -/
def HexDigit (c : Char) (n : Nat) : Prop :=
  ∃ capitals, WrittenIn (hexadecimalDigits capitals) [c] n

/-- A channel written with one digit, which counts for two. -/
def ShortChannel (c : Char) (value : Fin 256) : Prop :=
  ∃ n, HexDigit c n ∧ value.val = 17 * n

/-- A channel written with two digits. -/
def LongChannel (c d : Char) (value : Fin 256) : Prop :=
  ∃ high low, HexDigit c high ∧ HexDigit d low ∧ value.val = 16 * high + low

/-- A colour, and a name of it in lower case. -/
inductive Named : Color → List Char → Prop where
  | basic (c : NamedColor) : Named (.named c) c.name.toList
  | bright (c : NamedColor) : Named (.index (bright c)) ("bright_" ++ c.name).toList
  | gray : Named (.index (bright .black)) "gray".toList
  | grey : Named (.index (bright .black)) "grey".toList

/-- A colour, and a way to write it as one word. -/
inductive Spelled : Color → List Char → Prop where
  | name {color : Color} {w : List Char} (h : Named color (Text.lower w)) : Spelled color w
  | index {n : Fin 256} {w : List Char} (hne : w ≠ []) (h : WrittenIn decimalDigits w n) :
      Spelled (.index n) w
  | short {r g b : Fin 256} {x y z : Char} (hr : ShortChannel x r) (hg : ShortChannel y g)
      (hb : ShortChannel z b) : Spelled (.rgb r g b) ['#', x, y, z]
  | long {r g b : Fin 256} {x x' y y' z z' : Char} (hr : LongChannel x x' r)
      (hg : LongChannel y y' g) (hb : LongChannel z z' b) :
      Spelled (.rgb r g b) ['#', x, x', y, y', z, z']

variable {color : Color} {s w : List Char} {c d : Char} {n : Nat} {value : Fin 256}

/-! ## 3. Numbers and mixes are read -/

theorem byte?_val (value : Fin 256) : byte? value.val = some value := dif_pos value.isLt

/-- Without a sign, the digits are all there is. -/
theorem index?_of_no_sign (h : ∀ c ∈ w.head?, c ≠ '+') :
    index? w = if w ≠ [] ∧ w.all Char.isDigit = true then
      byte? (w.foldl (fun n c => 10 * n + (c.toNat - '0'.toNat)) 0) else none := by
  unfold index?
  split
  · exact absurd rfl (h '+' rfl)
  · rfl

theorem index?_of_writtenIn (hne : w ≠ []) (h : WrittenIn decimalDigits w value.val) :
    index? w = some value := by
  have hall : ∀ c ∈ decimalDigits, c ≠ '+' ∧ c.isDigit = true ∧
      c.toNat - '0'.toNat = decimalDigits.idxOf c :=
    List.forall_iff_forall_mem.mp (by decide)
  have hread : w.foldl (fun n c => 10 * n + (c.toNat - '0'.toNat)) 0 = value.val := by
    rw [← h.read]
    unfold readIn
    refine List.foldl_ext _ _ _ fun n c hc => ?_
    rw [(hall c (h.mem c hc)).2.2]
    rfl
  have hsign : ∀ c ∈ w.head?, c ≠ '+' := fun c hc => (hall c (h.mem c (List.mem_of_mem_head? hc))).1
  rw [index?_of_no_sign hsign,
    if_pos ⟨hne, List.all_eq_true.mpr fun c hc => (hall c (h.mem c hc)).2.1⟩, hread]
  exact byte?_val value

/-- What a digit is not, and what it counts for. -/
theorem HexDigit.facts (h : HexDigit c n) :
    hexDigit? c = some n ∧ c ≠ '+' ∧ c.toNat < 0x80 ∧ Text.isBlank c = false := by
  obtain ⟨capitals, hmem, rfl⟩ := h
  have hall : ∀ c ∈ hexadecimalDigits capitals,
      hexDigit? c = some (readIn (hexadecimalDigits capitals) [c]) ∧ c ≠ '+' ∧ c.toNat < 0x80 ∧
        Text.isBlank c = false :=
    List.forall_iff_forall_mem.mp (by cases capitals <;> decide +kernel)
  exact hall c (hmem c List.mem_cons_self)

theorem shortChannel?_of (h : ShortChannel c value) : shortChannel? c = some value := by
  obtain ⟨n, hdigit, hvalue⟩ := h
  rw [shortChannel?, hdigit.facts.1, Option.bind_some, ← hvalue]
  exact byte?_val value

theorem longChannel?_of (h : LongChannel c d value) : longChannel? c d = some value := by
  obtain ⟨high, low, hhigh, hlow, hvalue⟩ := h
  rw [longChannel?, if_neg hhigh.facts.2.1, hhigh.facts.1, hlow.facts.1, Option.bind_some,
    Option.bind_some, ← hvalue]
  exact byte?_val value

theorem ShortChannel.facts (h : ShortChannel c value) :
    c.toNat < 0x80 ∧ Text.isBlank c = false := by
  obtain ⟨n, hdigit, -⟩ := h
  exact hdigit.facts.2.2

theorem LongChannel.facts (h : LongChannel c d value) :
    (c.toNat < 0x80 ∧ Text.isBlank c = false) ∧ d.toNat < 0x80 ∧ Text.isBlank d = false := by
  obtain ⟨high, low, hhigh, hlow, -⟩ := h
  exact ⟨hhigh.facts.2.2, hlow.facts.2.2⟩

theorem ofHex_short {r g b : Fin 256} {x y z : Char} (hr : ShortChannel x r)
    (hg : ShortChannel y g) (hb : ShortChannel z b) : ofHex [x, y, z] = .ok (.rgb r g b) := by
  have hascii : ([x, y, z].any fun c => decide (0x80 ≤ c.toNat)) = false := by
    simpa using ⟨hr.facts.1, hg.facts.1, hb.facts.1⟩
  unfold ofHex
  rw [hascii]
  simp only [shortChannel?_of hr, shortChannel?_of hg, shortChannel?_of hb]
  rfl

theorem ofHex_long {r g b : Fin 256} {x x' y y' z z' : Char} (hr : LongChannel x x' r)
    (hg : LongChannel y y' g) (hb : LongChannel z z' b) :
    ofHex [x, x', y, y', z, z'] = .ok (.rgb r g b) := by
  have hascii : ([x, x', y, y', z, z'].any fun c => decide (0x80 ≤ c.toNat)) = false := by
    obtain ⟨⟨hx, -⟩, hx', -⟩ := hr.facts
    obtain ⟨⟨hy, -⟩, hy', -⟩ := hg.facts
    obtain ⟨⟨hz, -⟩, hz', -⟩ := hb.facts
    simpa using ⟨hx, hx', hy, hy', hz, hz'⟩
  unfold ofHex
  rw [hascii]
  simp only [longChannel?_of hr, longChannel?_of hg, longChannel?_of hb]
  rfl

theorem ofText_of_mix {digits : List Char} (hw : Text.IsWord ('#' :: digits)) :
    ofText (String.ofList ('#' :: digits)) = ofHex digits := by
  unfold ofText
  rw [String.toList_ofList, hw.trim_eq]
  rfl

/-! ## 4. Names are read -/

/-- A character of ASCII in front keeps its place in lower case. -/
theorem head?_lower (hc : c.toNat < 0x80) : (Text.lower (c :: w)).head? = some c.toLower := by
  have hsigma : c ≠ 'Σ' := by
    rintro rfl
    exact absurd hc (by decide)
  rw [Text.lower, Text.lowerAfter, if_neg hsigma, Text.lowerLetter_ascii hc]
  rfl

/-- The characters with which an index or a mix begins. -/
def marks : List Char := '#' :: '+' :: decimalDigits

theorem head?_lower_of_mark (hc : c ∈ marks) : (Text.lower (c :: w)).head? = some c := by
  have hall : ∀ c ∈ marks, c.toNat < 0x80 ∧ c.toLower = c :=
    List.forall_iff_forall_mem.mp (by decide)
  rw [head?_lower (hall c hc).1, (hall c hc).2]

/-- Names are words that begin with none of these. -/
theorem Named.facts (h : Named color s) :
    Text.IsWord s ∧ marks.all (fun c => s.head? != some c) = true := by
  cases h with
  | basic c => cases c <;> decide
  | bright c => cases c <;> decide
  | gray => decide
  | grey => decide

/-- **Names are read in any case.** -/
theorem ofName_of_named (h : Named color (Text.lower w)) : ofName w = .ok color := by
  unfold ofName
  generalize Text.lower w = s at h
  cases h with
  | basic c => cases c <;> rfl
  | bright c => cases c <;> rfl
  | gray => rfl
  | grey => rfl

theorem ofText_of_named (h : Named color (Text.lower w)) :
    ofText (String.ofList w) = .ok color := by
  have hw : Text.IsWord w := .of_lower h.facts.1
  have hhead : ∀ c ∈ w.head?, c ∉ marks := by
    intro c hc hmark
    obtain ⟨rest, rfl⟩ := List.head?_eq_some_iff.mp hc
    have hne := List.all_eq_true.mp h.facts.2 c hmark
    exact bne_iff_ne.mp hne (head?_lower_of_mark hmark)
  have hsign : ∀ c ∈ w.head?, c ≠ '+' := by
    rintro c hc rfl
    exact hhead '+' hc (by decide)
  have hdigits : ¬ (w ≠ [] ∧ w.all Char.isDigit = true) := by
    rintro ⟨hne, hall⟩
    obtain ⟨c, rest, rfl⟩ := List.exists_cons_of_ne_nil hne
    have hc := mem_decimalDigits_of_isDigit (List.all_eq_true.mp hall c List.mem_cons_self)
    exact hhead c rfl (List.mem_cons_of_mem _ (List.mem_cons_of_mem _ hc))
  unfold ofText
  rw [String.toList_ofList, hw.trim_eq]
  split
  · exact absurd (by decide) (hhead '#' rfl)
  · rw [index?_of_no_sign hsign, if_neg hdigits]
    exact ofName_of_named h

/-! ## 5. Spellings are words, and are read -/

theorem isWord_index (hne : w ≠ []) (h : WrittenIn decimalDigits w n) : Text.IsWord w := by
  have hall : ∀ c ∈ decimalDigits, Text.isBlank c = false :=
    List.forall_iff_forall_mem.mp (by decide)
  exact ⟨hne, fun c hc => hall c (h.mem c hc)⟩

/-- **A colour that is written as one word is one word.** -/
theorem Spelled.isWord (h : Spelled color w) : Text.IsWord w := by
  have hmark : Text.isBlank '#' = false := by decide
  cases h with
  | name h => exact .of_lower h.facts.1
  | index hne h => exact isWord_index hne h
  | short hr hg hb =>
    refine ⟨List.cons_ne_nil _ _, ?_⟩
    simpa using ⟨hmark, hr.facts.2, hg.facts.2, hb.facts.2⟩
  | long hr hg hb =>
    obtain ⟨⟨-, hx⟩, -, hx'⟩ := hr.facts
    obtain ⟨⟨-, hy⟩, -, hy'⟩ := hg.facts
    obtain ⟨⟨-, hz⟩, -, hz'⟩ := hb.facts
    refine ⟨List.cons_ne_nil _ _, ?_⟩
    simpa using ⟨hmark, hx, hx', hy, hy', hz, hz'⟩

/-- **A colour that is written as one word is read.** -/
theorem ofText_of_spelled (h : Spelled color w) : ofText (String.ofList w) = .ok color := by
  have hw := h.isWord
  cases h with
  | name h => exact ofText_of_named h
  | @index n _ hne h =>
    unfold ofText
    rw [String.toList_ofList, hw.trim_eq]
    split
    · exact absurd (h.mem '#' List.mem_cons_self) (by decide)
    · rw [index?_of_writtenIn hne h]
  | short hr hg hb => rw [ofText_of_mix hw, ofHex_short hr hg hb]
  | long hr hg hb => rw [ofText_of_mix hw, ofHex_long hr hg hb]

/-! ## 6. No colour is a keyword -/

/-- A word in lower case that means something else than a colour: `on`, or an emphasis. -/
def IsKeyword (s : List Char) : Prop :=
  s = "on".toList ∨ ∃ a, Attribute.ofName? (String.ofList s) = some a

theorem not_isKeyword_of_mark (hc : c ∈ marks) : ¬ IsKeyword (Text.lower (c :: w)) := by
  have hhead : (Text.lower (c :: w)).head? = some c := head?_lower_of_mark hc
  rintro (h | ⟨a, h⟩)
  · rw [h] at hhead
    cases hhead
    exact absurd hc (by decide)
  · have hall : ∀ s ∈ a.names, marks.all (fun c => s.toList.head? != some c) = true := by
      cases a <;> decide
    have hne := List.all_eq_true.mp (hall _ (Attribute.ofName?_eq_some_iff.mp h)) c hc
    rw [String.toList_ofList, hhead] at hne
    exact absurd rfl (bne_iff_ne.mp hne)

theorem Named.not_isKeyword (h : Named color s) : ¬ IsKeyword s := by
  have hkeyword : s ≠ "on".toList ∧ Attribute.ofName? (String.ofList s) = none := by
    cases h with
    | basic c => cases c <;> decide
    | bright c => cases c <;> decide
    | gray => decide
    | grey => decide
  rintro (hon | ⟨a, ha⟩)
  · exact hkeyword.1 hon
  · rw [hkeyword.2] at ha
    cases ha

/-- **No colour that is written as one word is a keyword.** -/
theorem Spelled.not_isKeyword (h : Spelled color w) : ¬ IsKeyword (Text.lower w) := by
  cases h with
  | name h => exact h.not_isKeyword
  | index hne h =>
    obtain ⟨c, rest, rfl⟩ := List.exists_cons_of_ne_nil hne
    exact not_isKeyword_of_mark
      (List.mem_cons_of_mem _ (List.mem_cons_of_mem _ (h.mem c List.mem_cons_self)))
  | short => exact not_isKeyword_of_mark (by decide)
  | long => exact not_isKeyword_of_mark (by decide)

end Color

end Logbook
