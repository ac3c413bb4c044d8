/-
# Blanks around a text

Blanks before or after a text take as many columns as they are many, whatever signs the text
begins or ends with (`countsBlanks_columns`).  This is all that alignment asks of a width, so it is
a law of its own (`CountsBlanks`); where it is used, nothing else about columns is.

A blank leaves the state that the end of the text leaves, so it cuts the reading in two.
The two parts can then be added up as integers, but the columns of a text are a natural
number: that the sum is one has to be shown, since a character may take a column back that
the sign after it was given.  `Opening.credit` is what may still be taken back, and every
step of the reading keeps the columns above it (`covered_stepWidth`).
-/
import Logbook.Text.Width

namespace Logbook.Text

/-- A width of texts to which blanks on either side add as many columns as they are many. -/
structure CountsBlanks (width : String → Nat) : Prop where
  blanks_append : ∀ (n : Nat) (s : String),
    width (String.ofList (List.replicate n ' ') ++ s) = width s + n
  append_blanks : ∀ (n : Nat) (s : String),
    width (s ++ String.ofList (List.replicate n ' ')) = width s + n

/-! ## 1. A blank cuts the reading -/

theorem stepWidth_blank (next : Follow) : stepWidth next ' ' = (1, .free) := by
  have hbase : variationBaseRanges.has ' ' = false := by decide
  simp [stepWidth, hbase]

theorem measure_cons (c : Char) (rest : List Char) :
    measure (c :: rest) =
      ((measure rest).1 + (stepWidth (measure rest).2 c).1, (stepWidth (measure rest).2 c).2) := rfl

theorem measure_blanks (n : Nat) : measure (List.replicate n ' ') = ((n : Int), Follow.free) := by
  induction n with
  | zero => rfl
  | succ n ih =>
    rw [List.replicate_succ, measure_cons, ih, stepWidth_blank]
    simp

theorem measure_blanks_append (n : Nat) (s : List Char) :
    (measure (List.replicate n ' ' ++ s)).1 = (measure s).1 + n := by
  induction n with
  | zero => simp
  | succ n ih =>
    rw [List.replicate_succ, List.cons_append, measure_cons, stepWidth_blank, ih]
    push_cast
    omega

/-- A text before one that leaves nothing to join is read as if it stood alone. -/
theorem measure_append_of_free {t : List Char} (ht : (measure t).2 = .free) (s : List Char) :
    measure (s ++ t) = ((measure s).1 + (measure t).1, (measure s).2) := by
  induction s with
  | nil =>
    have hnil : measure [] = (0, .free) := rfl
    rw [List.nil_append, hnil, ← ht]
    simp
  | cons c s ih =>
    rw [List.cons_append, measure_cons, ih, measure_cons]
    simp only [Prod.mk.injEq, and_true]
    omega

/-! ## 2. No text takes less than no columns -/

/-- The columns of a sign that a character in front of it may take back. -/
def Opening.credit : Opening → Int
  | .coeng | .tifinaghJoiner | .joinedIndicator | .joinedOddIndicators => 1
  | _ => 0

theorem Opening.credit_nonneg (o : Opening) : 0 ≤ o.credit := by
  cases o <;> simp [credit]

theorem Opening.credit_join (o : Opening) : o.join.credit = o.credit := by
  cases o <;> rfl

/-- The columns of a character, with those that may be taken back in front of it, cover
what may be taken back after it. -/
def Covered (before : Int) (r : Int × Follow) : Prop := r.2.opening.credit ≤ r.1 + before

theorem Covered.ite {p : Prop} [Decidable p] {before : Int} {r r' : Int × Follow}
    (h : Covered before r) (h' : Covered before r') : Covered before (if p then r else r') := by
  split
  · exact h
  · exact h'

theorem Covered.mono {m n : Int} {r : Int × Follow} (h : Covered m r) (hmn : m ≤ n) :
    Covered n r := by
  unfold Covered at *
  omega

theorem credit_unselected (next : Follow) :
    next.unselected.opening.credit ≤ next.opening.credit := by
  unfold Follow.unselected
  split
  · exact Int.le_refl _
  · exact next.opening.credit_nonneg

theorem credit_select (next : Follow) (s : Selector) :
    (next.select s).opening.credit ≤ next.opening.credit := by
  unfold Follow.select
  split
  · exact Int.le_refl _
  · exact next.opening.credit_nonneg

theorem covered_aloneWidth (c : Char) : Covered 0 (aloneWidth c) := by
  unfold aloneWidth
  repeat' apply Covered.ite
  all_goals simp [Covered, Opening.credit, Follow.free]

theorem covered_joinedWidth {o : Opening} {c : Char} {r : Int × Follow}
    (h : joinedWidth o c = some r) : Covered o.credit r := by
  unfold joinedWidth at h
  simp only at h
  repeat' split at h
  all_goals first
    | (obtain rfl := Option.some.inj h; simp [Covered, Opening.credit, Follow.free])
    | simp at h

theorem covered_openWidth (o : Opening) (c : Char) : Covered o.credit (openWidth o c) := by
  unfold openWidth
  split
  · simp [Covered, Opening.credit_join]
  · split
    · simp [Covered]
    · cases h : joinedWidth o c with
      | none => exact (covered_aloneWidth c).mono o.credit_nonneg
      | some r => exact covered_joinedWidth h

theorem covered_free {before : Int} (h : 0 ≤ before) {n : Int} (hn : 0 ≤ n) :
    Covered before (n, .free) := Int.add_nonneg hn h

theorem covered_unselected (next : Follow) (c : Char) :
    Covered next.opening.credit (openWidth next.unselected.opening c) :=
  (covered_openWidth _ c).mono (credit_unselected next)

/-- **A step of the reading takes back only what was given.** -/
theorem covered_stepWidth (next : Follow) (c : Char) :
    Covered next.opening.credit (stepWidth next c) := by
  have hcredit : ∀ o : Opening, 0 ≤ o.credit := Opening.credit_nonneg
  have hnext : 0 ≤ next.opening.credit := hcredit _
  unfold stepWidth
  simp only
  refine .ite ?_ ?_
  · -- an emoji with its selector opens as an emoji, of which nothing is taken back
    have hemoji : 0 ≤ (if next.opening.isJoined = true then 0 else 2 : Int) := by
      split <;> decide
    exact Int.add_nonneg hemoji hnext
  · -- the selector is dropped, which cannot add to the credit
    have hdropped :
        (if next.selector = .emoji then next.unselected else next).opening.credit
          ≤ next.opening.credit := by
      split
      · exact credit_unselected next
      · exact Int.le_refl _
    refine Covered.mono ?_ hdropped
    generalize (if next.selector = .emoji then next.unselected else next) = next'
    refine .ite (.ite ?_ (.ite ?_ ?_)) (.ite ?_ (.ite ?_ ?_))
    · exact Int.add_nonneg Int.one_nonneg (hcredit _)
    · exact covered_free (hcredit _) (by decide)
    · exact covered_free (hcredit _) (by decide)
    · exact (covered_aloneWidth c).mono (hcredit _)
    · exact Int.le_trans (credit_select next' _) (Int.le_of_eq (Int.zero_add _).symm)
    · cases next'.selector with
      | text => exact .ite (covered_free (hcredit _) (by decide)) (covered_unselected next' c)
      | fullwidth => exact .ite (covered_free (hcredit _) (by decide)) (covered_unselected next' c)
      | none => exact covered_openWidth _ c
      | emoji => exact covered_openWidth _ c

theorem credit_measure (s : List Char) : (measure s).2.opening.credit ≤ (measure s).1 := by
  induction s with
  | nil => exact Int.le_refl 0
  | cons c s ih =>
    have hstep : Covered _ (stepWidth (measure s).2 c) := covered_stepWidth (measure s).2 c
    rw [measure_cons]
    unfold Covered at hstep
    simp only
    omega

theorem measure_nonneg (s : List Char) : 0 ≤ (measure s).1 :=
  Int.le_trans (Opening.credit_nonneg _) (credit_measure s)

/-! ## 3. Blanks on either side -/

/-- **Blanks before a text take their number of columns.** -/
theorem columns_blanks_append (n : Nat) (s : String) :
    columns (String.ofList (List.replicate n ' ') ++ s) = columns s + n := by
  have hs : 0 ≤ (measure s.toList).1 := measure_nonneg _
  rw [columns, columns, String.toList_append, String.toList_ofList, measure_blanks_append]
  omega

/-- **Blanks after a text take their number of columns.** -/
theorem columns_append_blanks (n : Nat) (s : String) :
    columns (s ++ String.ofList (List.replicate n ' ')) = columns s + n := by
  have hs : 0 ≤ (measure s.toList).1 := measure_nonneg _
  have hfree : (measure (List.replicate n ' ')).2 = .free := by rw [measure_blanks]
  rw [columns, columns, String.toList_append, String.toList_ofList,
    measure_append_of_free hfree, measure_blanks]
  simp only
  omega

/-- **Columns count blanks.** -/
theorem countsBlanks_columns : CountsBlanks columns :=
  ⟨columns_blanks_append, columns_append_blanks⟩

end Logbook.Text
