/-
# Words between blanks

A text may be given as a row of words with blanks between, before and behind them (`Spaced`).  It
says nothing about how many blanks there are, or which.

* Every text is so given by the words that are cut from it (`spaced_words`), and they are the only
  ones that are neither empty nor hold a blank (`words_of_spaced`).
* So blank ends have no influence on the words (`words_trim`).
* Lower case neither makes nor removes blanks (`mem_lower_of_isBlank`), and a text whose lower case
  is a word is one itself (`IsWord.of_lower`).
-/
import Mathlib.Data.List.TakeWhile
import Logbook.Text.Blank
import Logbook.Text.Case

namespace Logbook.Text

/-! ## 1. Words in a row -/

/-- A text of blanks. -/
def IsGap (s : List Char) : Prop := ∀ c ∈ s, isBlank c = true

/-- A text that is not empty and holds no blank. -/
structure IsWord (w : List Char) : Prop where
  ne_nil : w ≠ []
  nonblank : ∀ c ∈ w, isBlank c = false

instance {w : List Char} : Decidable (IsWord w) :=
  decidable_of_iff (w ≠ [] ∧ w.all (fun c => !isBlank c) = true)
    ⟨fun h => ⟨h.1, by simpa using h.2⟩, fun h => ⟨h.ne_nil, by simpa using h.nonblank⟩⟩

/-- The text consists of the pieces in order, with a blank at least between two of them. -/
inductive Spaced : List (List Char) → List Char → Prop where
  | nil : Spaced [] []
  | blank {c : Char} {s : List Char} {ws : List (List Char)} (hc : isBlank c = true)
      (h : Spaced ws s) : Spaced ws (c :: s)
  | piece {w s : List Char} {ws : List (List Char)} (hs : ∀ c ∈ s.head?, isBlank c = true)
      (h : Spaced ws s) : Spaced (w :: ws) (w ++ s)

variable {c : Char} {s w gap : List Char} {ws : List (List Char)}

theorem words_cons_of_blank (hc : isBlank c = true) (s : List Char) : words (c :: s) = words s := by
  rw [words.eq_def]
  exact if_pos hc

/-- A last character of a word. -/
theorem words_cons_of_gap (hc : isBlank c = false) (hs : ∀ c ∈ s.head?, isBlank c = true) :
    words (c :: s) = [c] :: words s := by
  rw [words.eq_def]
  refine (if_neg (ne_true_of_eq_false hc)).trans ?_
  cases s with
  | nil => rfl
  | cons d s => exact if_pos (hs d rfl)

/-- A character of a word that goes on. -/
theorem words_cons_cons {d : Char} (hc : isBlank c = false) (hd : isBlank d = false) :
    words (c :: d :: s) = consWord c (words (d :: s)) := by
  rw [words, if_neg (ne_true_of_eq_false hc)]
  exact if_neg (ne_true_of_eq_false hd)

/-- **A word in front of a blank** is the first one. -/
theorem words_append (hw : IsWord w) (hs : ∀ c ∈ s.head?, isBlank c = true) :
    words (w ++ s) = w :: words s := by
  obtain ⟨hne, hnonblank⟩ := hw
  induction w with
  | nil => exact absurd rfl hne
  | cons c w ih =>
    have hc : isBlank c = false := hnonblank c List.mem_cons_self
    cases w with
    | nil => exact words_cons_of_gap hc hs
    | cons d w =>
      have hw : ∀ x ∈ d :: w, isBlank x = false := fun x hx =>
        hnonblank x (List.mem_cons_of_mem c hx)
      rw [List.cons_append, List.cons_append, words_cons_cons hc (hw d List.mem_cons_self),
        ← List.cons_append, ih (List.cons_ne_nil d w) hw]
      rfl

/-- **The words of a text are the pieces it consists of**, if all of them are words. -/
theorem words_of_spaced (h : Spaced ws s) (hws : ∀ w ∈ ws, IsWord w) : words s = ws := by
  induction h with
  | nil => rfl
  | blank hc _ ih => rw [words_cons_of_blank hc, ih hws]
  | piece hs _ ih =>
    rw [words_append (hws _ List.mem_cons_self) hs,
      ih fun w hw => hws w (List.mem_cons_of_mem _ hw)]

/-- **A text consists of its words.** -/
theorem spaced_words : ∀ s : List Char, Spaced (words s) s
  | [] => .nil
  | c :: s => by
    have ih := spaced_words s
    cases hc : isBlank c with
    | true =>
      rw [words_cons_of_blank hc]
      exact .blank hc ih
    | false =>
      cases s with
      | nil =>
        rw [words_cons_of_gap hc (by simp)]
        exact .piece (w := [c]) (by simp) .nil
      | cons d s =>
        cases hd : isBlank d with
        | true =>
          have hhead : ∀ x ∈ (d :: s).head?, isBlank x = true := by simpa using hd
          rw [words_cons_of_gap hc hhead]
          exact .piece (w := [c]) hhead ih
        | false =>
          -- The rest begins with a piece, which this character makes longer.
          rw [words_cons_cons hc hd]
          generalize words (d :: s) = ws at ih
          generalize hs : d :: s = text at ih
          cases ih with
          | nil => cases hs
          | blank hblank _ =>
            rw [(List.cons.inj hs).1, hblank] at hd
            cases hd
          | @piece w rest ws hrest h => exact .piece (w := c :: w) hrest h

/-! ## 2. Blank ends -/

/-- The words that are cut from a text are words. -/
theorem isWord_of_mem_words (h : w ∈ words s) : IsWord w :=
  ⟨words_ne_nil h, words_nonblank h⟩

theorem Spaced.of_gap (h : IsGap gap) : Spaced [] gap := by
  induction gap with
  | nil => exact .nil
  | cons c gap ih =>
    exact .blank (h c List.mem_cons_self) (ih fun d hd => h d (List.mem_cons_of_mem c hd))

theorem Spaced.append_gap (h : Spaced ws s) (hgap : IsGap gap) : Spaced ws (s ++ gap) := by
  induction h with
  | nil => exact .of_gap hgap
  | blank hc _ ih => exact .blank hc ih
  | @piece w s ws hs _ ih =>
    have hhead : ∀ c ∈ (s ++ gap).head?, isBlank c = true := by
      cases s with
      | nil => exact fun c hc => hgap c (List.mem_of_mem_head? hc)
      | cons d s => exact hs
    rw [List.append_assoc]
    exact .piece hhead ih

theorem Spaced.gap_append (hgap : IsGap gap) (h : Spaced ws s) : Spaced ws (gap ++ s) := by
  induction gap with
  | nil => exact h
  | cons c gap ih =>
    exact .blank (hgap c List.mem_cons_self) (ih fun d hd => hgap d (List.mem_cons_of_mem c hd))

/-- A text is what trimming leaves of it, between gaps. -/
theorem exists_gaps (s : List Char) :
    ∃ front back, IsGap front ∧ IsGap back ∧ s = front ++ (trim s ++ back) := by
  refine ⟨s.takeWhile isBlank, ((s.dropWhile isBlank).reverse.takeWhile isBlank).reverse,
    fun c hc => List.mem_takeWhile_imp hc, fun c hc => ?_, ?_⟩
  · exact List.mem_takeWhile_imp (List.mem_reverse.mp hc)
  · rw [trim, ← List.reverse_append, List.takeWhile_append_dropWhile, List.reverse_reverse,
      List.takeWhile_append_dropWhile]

/-- **Blank ends have no influence on the words.** -/
theorem words_trim (s : List Char) : words (trim s) = words s := by
  obtain ⟨front, back, hfront, hback, hs⟩ := exists_gaps s
  have hspaced : Spaced (words (trim s)) s := by
    conv => rhs; rw [hs]
    exact ((spaced_words (trim s)).append_gap hback).gap_append hfront
  exact (words_of_spaced hspaced fun w hw => isWord_of_mem_words hw).symm

theorem dropWhile_of_nonblank (h : ∀ c ∈ s, isBlank c = false) : s.dropWhile isBlank = s := by
  cases s with
  | nil => rfl
  | cons c s => exact List.dropWhile_cons_of_neg (ne_true_of_eq_false (h c List.mem_cons_self))

theorem IsWord.trim_eq (h : IsWord w) : trim w = w := by
  rw [trim, dropWhile_of_nonblank h.nonblank,
    dropWhile_of_nonblank fun c hc => h.nonblank c (List.mem_reverse.mp hc), List.reverse_reverse]

/-! ## 3. Lower case -/

theorem lowerLetter_of_isBlank (h : isBlank c = true) : lowerLetter c = [c] := by
  have hall : ∀ r ∈ blankRanges, ∀ k ∈ List.range (r.2 + 1 - r.1),
      lowerLetter (Char.ofNat (r.1 + k)) = [Char.ofNat (r.1 + k)] := by
    decide +kernel
  obtain ⟨r, hr, hlow, hhigh⟩ := CodePoints.has_iff.mp h
  have hc := hall r hr (c.toNat - r.1) (List.mem_range.mpr (by omega))
  rwa [Nat.add_sub_cancel' hlow, Char.ofNat_toNat] at hc

theorem mem_lowerAfter_of_isBlank (hc : isBlank c = true) (h : c ∈ s) (before : List Char) :
    c ∈ lowerAfter before s := by
  induction s generalizing before with
  | nil => cases h
  | cons d s ih =>
    rw [lowerAfter]
    rcases List.mem_cons.mp h with rfl | h
    · have hsigma : c ≠ 'Σ' := by
        rintro rfl
        exact absurd hc (by decide)
      rw [if_neg hsigma, lowerLetter_of_isBlank hc]
      exact List.mem_cons_self
    · exact List.mem_append_right _ (ih h _)

/-- **Blanks stay in lower case.** -/
theorem mem_lower_of_isBlank (hc : isBlank c = true) (h : c ∈ s) : c ∈ lower s :=
  mem_lowerAfter_of_isBlank hc h []

/-- A text whose lower case is a word is a word. -/
theorem IsWord.of_lower (h : IsWord (lower w)) : IsWord w := by
  refine ⟨?_, fun c hc => ?_⟩
  · rintro rfl
    exact h.ne_nil rfl
  · refine Bool.eq_false_iff.mpr fun hblank => ?_
    exact ne_true_of_eq_false (h.nonblank c (mem_lower_of_isBlank hblank hc)) hblank

end Logbook.Text
