/-
# Lexemes, wherever they stand

A text that consists of lexemes gives the same lexemes in front of any other text, as long as
no bare word can run on into it (`Lexes`).  Marks, quoted texts and numerals are such texts,
and so are rows of them: one after the other (`Lexes.append`), and with commas and blanks
between (`Lexes.intercalate`).

A bare word ends where the following text starts with something that stands in no word
(`Stops`).  Quotes, marks and blanks do.
-/
import Logbook.Json
import Mathlib.Data.List.Forall2

namespace Logbook

namespace Json

/-! ## 1. Single lexemes -/

/-- No bare word can run on into the text. -/
def Stops : List Char → Prop
  | [] => True
  | c :: _ => isWordChar c = false

/-- The text gives these lexemes, whatever follows it. -/
def Lexes (s : List Char) (xs : List Lexeme) : Prop :=
  ∀ rest, Stops rest → lex (s ++ rest) = (lex rest).map (xs ++ ·)

theorem Stops.append {s rest : List Char} (hs : Stops s) (hrest : Stops rest) :
    Stops (s ++ rest) := by
  cases s with
  | nil => exact hrest
  | cons c s => exact hs

theorem takeWhile_of_stops {rest : List Char} (h : Stops rest) :
    rest.takeWhile isWordChar = [] := by
  cases rest with
  | nil => rfl
  | cons c rest => exact List.takeWhile_cons_of_neg (by rw [h]; decide)

theorem dropWhile_of_stops {rest : List Char} (h : Stops rest) :
    rest.dropWhile isWordChar = rest := by
  cases rest with
  | nil => rfl
  | cons c rest => exact List.dropWhile_cons_of_neg (by rw [h]; decide)

theorem lex_space {c : Char} (h : isSpace c = true) (rest : List Char) :
    lex (c :: rest) = lex rest := by
  rw [lex, if_pos h]

theorem isSpace_iff {c : Char} :
    isSpace c = true ↔ c = ' ' ∨ c = '\n' ∨ c = '\r' ∨ c = '\t' := by
  simp [isSpace, or_assoc]

theorem isSpace_eq_false_of_mark {c : Char} {m : Lexeme} (h : mark? c = some m) :
    isSpace c = false := by
  rw [Bool.eq_false_iff]
  intro hspace
  rcases isSpace_iff.mp hspace with rfl | rfl | rfl | rfl <;> simp [mark?] at h

theorem isSpace_eq_false_of_wordChar {c : Char} (h : isWordChar c = true) :
    isSpace c = false := by
  rw [Bool.eq_false_iff]
  intro hspace
  rcases isSpace_iff.mp hspace with rfl | rfl | rfl | rfl <;> exact absurd h (by decide)

theorem lex_mark {c : Char} {m : Lexeme} (h : mark? c = some m) (rest : List Char) :
    lex (c :: rest) = (lex rest).map (m :: ·) := by
  rw [lex, isSpace_eq_false_of_mark h, h]
  rfl

theorem lex_quoteChars (s rest : List Char) :
    lex (Text.quoteChars s ++ rest) = (lex rest).map (.text s :: ·) := by
  have hread : Text.readQuoted (s.flatMap Text.escapeChar ++ '"' :: rest) = some (s, rest) :=
    Text.readQuoted_flatMap s rest
  have hchars : Text.quoteChars s ++ rest = '"' :: (s.flatMap Text.escapeChar ++ '"' :: rest) := by
    simp [Text.quoteChars]
  have hspace : isSpace '"' = false := by decide
  have hmark : mark? '"' = none := by decide
  rw [hchars, lex, hspace, hmark]
  simp only [Bool.false_eq_true, if_false, if_true]
  split
  · rename_i t after h
    obtain ⟨rfl, rfl⟩ : s = t ∧ rest = after := by simpa [hread] using h
    rfl
  · rename_i h
    exact absurd (hread.symm.trans h) (by simp)

/-- The characters of words start no other lexeme. -/
theorem lex_wordChar {c : Char} (h : isWordChar c = true) (rest : List Char) :
    lex (c :: rest)
      = (lex (rest.dropWhile isWordChar)).map (.word (c :: rest.takeWhile isWordChar) :: ·) := by
  have hspace : isSpace c = false := isSpace_eq_false_of_wordChar h
  have hne : ∀ d, isWordChar d = false → c ≠ d := by
    rintro d hd rfl
    exact absurd (h.symm.trans hd) (by decide)
  have hmark : mark? c = none := by
    simp [mark?, hne _ (by decide : isWordChar '{' = false),
      hne _ (by decide : isWordChar '}' = false), hne _ (by decide : isWordChar '[' = false),
      hne _ (by decide : isWordChar ']' = false), hne _ (by decide : isWordChar ':' = false),
      hne _ (by decide : isWordChar ',' = false)]
  have hquote : c ≠ '"' := hne _ (by decide)
  rw [lex, hspace, hmark]
  simp only [Bool.false_eq_true, if_false, hquote, h, if_true]

/-! ## 2. Texts of one lexeme -/

namespace Lexes

theorem nil : Lexes [] [] := by
  intro rest _
  simp

theorem mark {c : Char} {m : Lexeme} (h : mark? c = some m) : Lexes [c] [m] :=
  fun rest _ => lex_mark h rest

theorem text (s : List Char) : Lexes (Text.quoteChars s) [.text s] :=
  fun rest _ => lex_quoteChars s rest

/-- A bare word is taken as a whole, since the text behind it stops it. -/
theorem word {s : List Char} (hs : s ≠ []) (h : ∀ c ∈ s, isWordChar c = true) :
    Lexes s [.word s] := by
  intro rest hstop
  cases s with
  | nil => exact absurd rfl hs
  | cons c s =>
    have htail : ∀ d ∈ s, isWordChar d = true := fun d hd => h d (List.mem_cons_of_mem _ hd)
    have hc : isWordChar c = true := h c List.mem_cons_self
    rw [List.cons_append, lex_wordChar hc, List.dropWhile_append_of_pos htail,
      List.takeWhile_append_of_pos htail, takeWhile_of_stops hstop, dropWhile_of_stops hstop,
      List.append_nil]
    rfl

/-! ## 3. Rows of lexemes -/

/-- The lexemes of two texts in a row, where the second one stops a word of the first. -/
theorem append {s t : List Char} {xs ys : List Lexeme} (hs : Lexes s xs) (ht : Lexes t ys)
    (hstop : Stops t) : Lexes (s ++ t) (xs ++ ys) := by
  intro rest hrest
  rw [List.append_assoc, hs _ (hstop.append hrest), ht _ hrest, Option.map_map]
  simp [Function.comp_def]

/-- A mark never runs on, so any text may follow it. -/
theorem cons_mark {c : Char} {m : Lexeme} {s : List Char} {xs : List Lexeme}
    (h : mark? c = some m) (hs : Lexes s xs) : Lexes (c :: s) (m :: xs) := by
  intro rest hrest
  rw [List.cons_append, lex_mark h, hs rest hrest, Option.map_map]
  rfl

/-- Nor do blanks. -/
theorem append_spaces {gap s : List Char} {xs : List Lexeme} (h : ∀ c ∈ gap, isSpace c = true)
    (hs : Lexes s xs) : Lexes (gap ++ s) xs := by
  intro rest hrest
  induction gap with
  | nil => exact hs rest hrest
  | cons c gap ih =>
    have hgap : ∀ d ∈ gap, isSpace d = true := fun d hd => h d (List.mem_cons_of_mem _ hd)
    rw [List.cons_append, List.cons_append, lex_space (h c List.mem_cons_self)]
    exact ih hgap

/-- A list of texts with commas between them. -/
theorem intercalate {gap : List Char} (hgap : ∀ c ∈ gap, isSpace c = true)
    {parts : List (List Char)} {lists : List (List Lexeme)} (h : List.Forall₂ Lexes parts lists) :
    Lexes (List.intercalate (',' :: gap) parts) (List.intercalate [.comma] lists) := by
  induction h with
  | nil => exact nil
  | @cons s xs parts lists hs hrest ih =>
    cases hrest with
    | nil =>
      rw [List.intercalate_singleton, List.intercalate_singleton]
      exact hs
    | cons ht hrest =>
      rw [List.intercalate_cons_cons, List.intercalate_cons_cons, List.append_assoc,
        List.append_assoc]
      have hcomma : isWordChar ',' = false := by decide
      exact hs.append (cons_mark (by decide) (append_spaces hgap ih)) hcomma

end Lexes

end Json

end Logbook
