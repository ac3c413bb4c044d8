/-
# Blank characters, words and lines

The blank characters are those of the Unicode property `White_Space`.  Three operations
cut a text at them: `trim` drops the blank ends, `words` takes the maximal runs without a
blank, and `lines` cuts at line feeds.

A word is never empty and holds no blank (`words_ne_nil`, `words_nonblank`), so a reader
of words needs no case for either.
-/
import Logbook.Text.CodePoints

namespace Logbook.Text

/-! ## 1. The class -/

/-- Intervals of the blank characters. -/
def blankRanges : CodePoints :=
  [(0x9, 0xD), (0x20, 0x20), (0x85, 0x85), (0xA0, 0xA0), (0x1680, 0x1680), (0x2000, 0x200A),
   (0x2028, 0x2029), (0x202F, 0x202F), (0x205F, 0x205F), (0x3000, 0x3000)]

/-- Spaces, tabs and line ends of every script. -/
def isBlank (c : Char) : Bool := blankRanges.has c

/-! ## 2. Trimming -/

/-- The text without its blank ends. -/
def trim (s : List Char) : List Char :=
  ((s.dropWhile isBlank).reverse.dropWhile isBlank).reverse

/-! ## 3. Words -/

/-- Puts a character in front of the first word. -/
def consWord (c : Char) : List (List Char) → List (List Char)
  | [] => [[c]]
  | w :: ws => (c :: w) :: ws

/-- The maximal runs without a blank, in order. -/
def words : List Char → List (List Char)
  | [] => []
  | c :: rest =>
    if isBlank c then words rest
    else match rest with
      | [] => [[c]]
      | d :: _ => if isBlank d then [c] :: words rest else consWord c (words rest)

theorem mem_consWord {c : Char} {w : List Char} {ws : List (List Char)}
    (h : w ∈ consWord c ws) : w = [c] ∨ (∃ v ∈ ws, w = c :: v) ∨ w ∈ ws := by
  cases ws with
  | nil => simp_all [consWord]
  | cons v vs =>
    rcases List.mem_cons.mp h with rfl | h
    · exact .inr (.inl ⟨v, by simp, rfl⟩)
    · exact .inr (.inr (by simp [h]))

theorem words_ne_nil : ∀ {s w : List Char}, w ∈ words s → w ≠ []
  | [], _, h => by simp [words] at h
  | c :: rest, w, h => by
    unfold words at h
    split at h
    · exact words_ne_nil h
    · split at h
      · simp_all
      · split at h
        · rcases List.mem_cons.mp h with rfl | h
          · simp
          · exact words_ne_nil h
        · rcases mem_consWord h with rfl | ⟨v, _, rfl⟩ | h
          · simp
          · simp
          · exact words_ne_nil h

theorem words_nonblank : ∀ {s w : List Char}, w ∈ words s → ∀ c ∈ w, isBlank c = false
  | [], _, h => by simp [words] at h
  | c :: rest, w, h => by
    unfold words at h
    split at h
    · exact words_nonblank h
    · rename_i hc
      split at h
      · simp_all
      · split at h
        · rcases List.mem_cons.mp h with rfl | h
          · simp_all
          · exact words_nonblank h
        · rcases mem_consWord h with rfl | ⟨v, hv, rfl⟩ | h
          · simp_all
          · intro d hd
            rcases List.mem_cons.mp hd with rfl | hd
            · simpa using hc
            · exact words_nonblank hv d hd
          · exact words_nonblank h

/-! ## 4. Lines -/

/-- A line ends before a line feed, and a carriage return just before it belongs to the
line end.  A line feed at the end of the text opens no further line. -/
def lines : List Char → List (List Char)
  | [] => []
  | '\n' :: rest => [] :: lines rest
  | '\r' :: '\n' :: rest => [] :: lines rest
  | [c] => [[c]]
  | c :: '\n' :: rest => [c] :: lines rest
  | c :: rest => consWord c (lines rest)

end Logbook.Text
