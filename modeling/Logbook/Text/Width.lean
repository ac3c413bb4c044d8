/-
# Display width

The number of columns that a text takes on a terminal.  Most characters have a width of
their own: none for a combining mark, two for an East Asian wide character, one for the
rest, control characters included.  Some sequences are drawn as one sign, so the width of
a character may depend on what follows it:

* a carriage return before a line feed takes no column;
* an emoji sequence (joined, with a skin tone, with the emoji selector) takes two;
* the text selector makes an emoji one column wide;
* the fullwidth selector makes a quotation mark two columns wide;
* a few scripts draw two letters as one.

The text is therefore read from its end, and the state of the reading (`Follow`) says
what the part already read begins with.  A blank is one column wide whatever follows, and
leaves the same state as the end of the text; so blanks around a text add their number.
-/
import Logbook.Text.Width.Table

namespace Logbook.Text

/-! ## 1. The state of the reading -/

/-- A variation selector that the text begins with. -/
inductive Selector where
  | none
  | text
  | emoji
  | fullwidth
  deriving DecidableEq, Repr

/-- A sign that the text begins with, as far as the character before it may join it. -/
inductive Opening where
  | plain
  | lineFeed
  | skinTone
  | indicator
  | indicators
  | emoji
  | joinedEmoji
  | joinedKeycap
  | joinedIndicator
  | joinedEvenIndicators
  | joinedOddIndicators
  | tagLetters (count : Nat)
  | tagDigits (count : Nat)
  | alef
  | lamed (joined : Bool)
  | ya (joined : Bool)
  | vowelYa
  | tifinagh (joined : Bool)
  | tifinaghJoiner
  | lisuTone
  | turkicI (joined : Bool)
  | coeng
  | kiratE
  | kiratAi
  deriving DecidableEq, Repr

/-- What the text already read begins with. -/
structure Follow where
  opening : Opening
  selector : Selector
  deriving DecidableEq, Repr

/-- Nothing that the character before could join. -/
def Follow.free : Follow := ⟨.plain, .none⟩

/-- Letters of the scripts whose ligatures look through invisible marks. -/
def Opening.isScript : Opening → Bool
  | .lamed _ | .ya _ | .vowelYa | .tifinagh _ | .tifinaghJoiner | .lisuTone | .turkicI _
  | .coeng => true
  | _ => false

/-- Openings that keep their meaning when a selector comes before them. -/
def Opening.keepsSelector : Opening → Bool
  | .alef => true
  | o => o.isScript

/-- An emoji after a joiner, with or without the keycap. -/
def Opening.isJoined : Opening → Bool
  | .joinedEmoji | .joinedKeycap => true
  | _ => false

/-- What remains of the state before a character that no selector concerns. -/
def Follow.unselected (next : Follow) : Follow :=
  if next.opening.keepsSelector then ⟨next.opening, .none⟩ else .free

/-- The state with a selector in front of it.  Only the emoji selector can go on with an
emoji after a joiner. -/
def Follow.select (next : Follow) (s : Selector) : Follow :=
  if next.opening.keepsSelector || (next.opening.isJoined && s == .emoji) then
    ⟨next.opening, s⟩
  else ⟨.plain, s⟩

/-- The opening with a joiner in front of it. -/
def Opening.join : Opening → Opening
  | .lamed _ => .lamed true
  | .ya _ => .ya true
  | .tifinagh _ => .tifinagh true
  | .turkicI _ => .turkicI true
  | o => o

/-! ## 2. A character on its own -/

/-- A letter that Tifinagh writes as one sign with its neighbour. -/
def isTifinaghConsonant (n : Nat) : Bool := (0x2D31 ≤ n && n ≤ 0x2D65) || n == 0x2D6F

/-- One of the letters that stand for the two halves of a flag. -/
def isIndicator (n : Nat) : Bool := 0x1F1E6 ≤ n && n ≤ 0x1F1FF

/-- The selector that a character is, if it is one. -/
def selectorOf (n : Nat) : Selector :=
  if n = 0xFE0E then .text
  else if n = 0xFE0F then .emoji
  else if n = 0xFE01 then .fullwidth
  else .none

/-- Columns of a character, and the state that it leaves, whatever follows it. -/
def aloneWidth (c : Char) : Int × Follow :=
  let n := c.toNat
  let opens (o : Opening) : Follow := ⟨o, .none⟩
  if n = 0x5DC then (1, opens (.lamed false))
  else if n = 0x17D8 then (3, .free)
  else if n = 0x17A4 ∨ n = 0x115F then (2, .free)
  else if n = 0x1A10 then (1, opens (.ya false))
  else if isTifinaghConsonant n then (1, opens (.tifinagh false))
  else if n = 0x2D7F ∨ n = 0xFF9E ∨ n = 0xFF9F then (1, .free)
  else if n = 0xA4FC ∨ n = 0xA4FD then (1, opens .lisuTone)
  else if selectorOf n ≠ .none then (0, ⟨.plain, selectorOf n⟩)
  else if n = 0x10C03 then (1, opens (.turkicI false))
  else if n = 0x16D67 then (1, opens .kiratE)
  else if n = 0x16D68 then (1, opens .kiratAi)
  else if isIndicator n then (1, opens .indicator)
  else if 0x1F3FB ≤ n ∧ n ≤ 0x1F3FF then (2, opens .skinTone)
  else if alefRanges.has c then (1, opens .alef)
  else if coengRanges.has c then (1, opens .coeng)
  else if extendingRanges.has c || invisibleRanges.has c then (0, .free)
  else if emojiRanges.has c then (2, opens .emoji)
  else if wideRanges.has c then (2, .free)
  else (1, .free)

/-! ## 3. A character before others -/

/-- Arabic letters of the lam group, which are drawn as one with a following alef. -/
def isLam (n : Nat) : Bool :=
  n == 0x644 || (0x6B5 ≤ n && n ≤ 0x6B8) || n == 0x76A || n == 0x8A6 || n == 0x8C7

/-- A quotation mark that has a fullwidth form. -/
def isQuotation (n : Nat) : Bool := n == 0x2018 || n == 0x2019 || n == 0x201C || n == 0x201D

/-- A letter of the tags that spell the region of a flag. -/
def isTagLetter (n : Nat) : Bool := 0xE0061 ≤ n && n ≤ 0xE007A

/-- A digit of the tags that spell the region of a flag. -/
def isTagDigit (n : Nat) : Bool := 0xE0030 ≤ n && n ≤ 0xE0039

/-- The joined reading of a character before an opening, if there is one.  The tags of a
region are its last letters, at most six, or three digits with up to four letters after
them; the flag that they belong to stands in front. -/
def joinedWidth (o : Opening) (c : Char) : Option (Int × Follow) :=
  let n := c.toNat
  let opens (o : Opening) : Follow := ⟨o, .none⟩
  match o with
  | .alef =>
    if transparentRanges.has c then some (0, opens .alef)
    else if isLam n then some (0, .free)
    else none
  | .lamed true => if n = 0x5D0 then some (0, .free) else none
  | .coeng => if n = 0x17D2 then some (-1, .free) else none
  | .ya true => if n = 0x1A17 then some (0, opens .vowelYa) else none
  | .vowelYa => if n = 0x1A15 then some (0, .free) else none
  | .tifinagh joined =>
    if n = 0x2D7F then some (1, opens .tifinaghJoiner)
    else if joined && isTifinaghConsonant n then some (0, .free)
    else none
  | .tifinaghJoiner => if isTifinaghConsonant n then some (-1, .free) else none
  | .lisuTone => if 0xA4F8 ≤ n ∧ n ≤ 0xA4FB then some (0, .free) else none
  | .turkicI true => if n = 0x10C32 then some (0, .free) else none
  | .skinTone =>
    if modifierBaseRanges.has c then some (0, opens .emoji)
    else if n = 0x200D then some (0, opens .joinedEmoji)
    else none
  | .indicator => if isIndicator n then some (1, opens .indicators) else none
  | .indicators =>
    if isIndicator n then some (1, opens .indicators)
    else if n = 0x200D then some (0, opens .joinedEmoji)
    else none
  | .emoji => if n = 0x200D then some (0, opens .joinedEmoji) else none
  | .joinedEmoji =>
    if n = 0x20E3 then some (0, opens .joinedKeycap)
    else if isIndicator n then some (1, opens .joinedIndicator)
    else if 0x1F3FB ≤ n ∧ n ≤ 0x1F3FF then some (0, opens .skinTone)
    else if n = 0xE007F then some (0, opens (.tagLetters 0))
    else if emojiRanges.has c then some (0, opens .emoji)
    else none
  | .joinedIndicator | .joinedOddIndicators =>
    if isIndicator n then some (-1, opens .joinedEvenIndicators)
    else if n = 0x200D ∧ o = .joinedOddIndicators then some (0, opens .joinedEmoji)
    else none
  | .joinedEvenIndicators =>
    if isIndicator n then some (3, opens .joinedOddIndicators)
    else if n = 0x200D then some (0, opens .joinedEmoji)
    else none
  | .tagLetters count =>
    if isTagLetter n ∧ count < 6 then some (0, opens (.tagLetters (count + 1)))
    else if isTagDigit n ∧ count ≤ 4 then some (0, opens (.tagDigits 1))
    else if n = 0x1F3F4 ∧ 3 ≤ count then some (0, opens .emoji)
    else none
  | .tagDigits count =>
    if isTagDigit n ∧ count < 3 then some (0, opens (.tagDigits (count + 1)))
    else if n = 0x1F3F4 ∧ count = 3 then some (0, opens .emoji)
    else none
  | .kiratE =>
    if n = 0x16D63 ∨ n = 0x16D69 then some (0, .free)
    else if n = 0x16D67 then some (0, opens .kiratAi)
    else if n = 0x16D68 then some (1, opens .kiratE)
    else none
  | .kiratAi => if n = 0x16D63 then some (0, .free) else none
  | _ => none

/-- Columns of a character before others, none of which is a selector. -/
def openWidth (o : Opening) (c : Char) : Int × Follow :=
  if o.isScript && c.toNat == 0x200D then (0, ⟨o.join, .none⟩)
  else if o.isScript && ligatureTransparentRanges.has c then (0, ⟨o, .none⟩)
  else (joinedWidth o c).getD (aloneWidth c)

/-- Columns of a character before `next`, with a selector before it taken into account.
Characters up to the no-break space take one column, whatever they join. -/
def stepWidth (next : Follow) (c : Char) : Int × Follow :=
  let n := c.toNat
  if next.selector = .emoji ∧ variationBaseRanges.has c then
    (if next.opening.isJoined then 0 else 2, ⟨.emoji, .none⟩)
  else
    let next : Follow := if next.selector = .emoji then next.unselected else next
    if n ≤ 0xA0 then
      if c = '\n' then (1, ⟨.lineFeed, .none⟩)
      else if c = '\r' ∧ next = ⟨.lineFeed, .none⟩ then (0, .free)
      else (1, .free)
    else if next = .free then aloneWidth c
    else if selectorOf n ≠ .none then (0, next.select (selectorOf n))
    else match next.selector with
      | .text =>
        if variationBaseRanges.has c && emojiRanges.has c && !(0x1F200 ≤ n && n ≤ 0x1F2FF) then
          (1, .free)
        else openWidth next.unselected.opening c
      | .fullwidth =>
        if isQuotation n then (2, .free) else openWidth next.unselected.opening c
      | _ => openWidth next.opening c

/-! ## 4. Whole texts -/

/-- Columns of a text, and the state at its front. -/
def measure : List Char → Int × Follow
  | [] => (0, .free)
  | c :: rest =>
    let (columns, next) := measure rest
    let (here, state) := stepWidth next c
    (columns + here, state)

/-- The number of columns that a text takes. -/
def columns (s : String) : Nat := (measure s.toList).1.toNat

end Logbook.Text
