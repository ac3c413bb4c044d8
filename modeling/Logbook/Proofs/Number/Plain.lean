/-
# Numbers in the plain formats

The formats `G` and `R` ask for the plain text of a number, as it is without a format: the numeral
of an integer, and the shortest decimal that is read back as a floating point datum.

A format is applied to doubles only, so a single is made the double of the same value before it
is written (`text_plain`).  The value is kept, but not the precision that the shortest decimal is
for.  The digits that tell a double from all other doubles are more than those that tell a single
from other singles: a tenth is `0.1` as a single, and `0.10000000149011612` as the double of the
same value (`texts_of_tenth`).
-/
import Logbook.Proofs.Number.Integers
import Logbook.Proofs.Number.Reading

namespace Logbook

/-! ## 1. Plain texts -/

/-- The plain text of a datum: a word, or the shortest decimal that is read back. -/
inductive Binary.IsPlain {p : Precision} : Binary p → List Char → Prop where
  | nan : IsPlain .nan "NaN".toList
  | infinity : IsPlain (.infinite false) "Infinity".toList
  | negInfinity : IsPlain (.infinite true) "-Infinity".toList
  | finite {x : Binary p} {text : List Char} (h : x.IsShortest text) : IsPlain x text

theorem Binary.isPlain_text {p : Precision} (hw : p.Within .double) (hbits : 3 ≤ p.bits)
    (x : Binary p) : x.IsPlain x.text := by
  cases x with
  | nan => exact .nan
  | infinite negative =>
    cases negative with
    | false => exact .infinity
    | true => exact .negInfinity
  | finite negative m e h => exact .finite (isShortest_text hw hbits rfl)

/-- The plain text of a number, in the precision that the number has. -/
inductive Scalar.IsPlain : Scalar → String → Prop where
  | integer (n : Integer) : IsPlain (.integer n) (toString n.value)
  | single {x : Binary .single} {text : List Char} (h : x.IsPlain text) :
      IsPlain (.single x) (String.ofList text)
  | double {x : Binary .double} {text : List Char} (h : x.IsPlain text) :
      IsPlain (.double x) (String.ofList text)

namespace Provider

/-- **Without a format** a number has its plain text. -/
theorem isPlain_scalarText {s : Scalar} (hs : s.isNumber = true) :
    s.IsPlain (invariant.scalarText s none) := by
  cases s with
  | integer n =>
    have htext : invariant.scalarText (.integer n) none = toString n.value :=
      ofList_signedDecimal n.value
    rw [htext]
    exact .integer n
  | single x => exact .single (x.isPlain_text .single_double (by decide))
  | double x => exact .double (x.isPlain_text (.refl _) (by decide))
  | _ => exact absurd hs Bool.false_ne_true

end Provider

/-! ## 2. Plain formats -/

/-- The number that a plain format writes for a number. -/
inductive Scalar.WrittenAs : Scalar → Scalar → Prop where
  | integer (n : Integer) : WrittenAs (.integer n) (.integer n)
  | double (x : Binary .double) : WrittenAs (.double x) (.double x)
  | single {x : Binary .single} {y : Binary .double} (h : x.SameValue y) :
      WrittenAs (.single x) (.double y)

namespace Provider

/-- **A plain format writes the double of a single**, and other numbers as they are. -/
theorem text_plain {s : Scalar} (hs : s.isNumber = true) {letter : Char}
    (hletter : letter ∈ ['G', 'g', 'R', 'r']) {digits : List Char} {precision : Option Nat}
    (h : NumberFormat.Asks digits precision) :
    ∃ t, s.WrittenAs t ∧ textIn s letter digits = invariant.scalarText t none ∧
      t.IsPlain (textIn s letter digits) := by
  have hstyle : NumberFormat.style? letter = some .plain := by
    simp only [List.mem_cons, List.not_mem_nil, or_false] at hletter
    rcases hletter with rfl | rfl | rfl | rfl <;> rfl
  have hformat := NumberFormat.parse?_of_asks h hstyle
  suffices hsame : ∃ t, s.WrittenAs t ∧ t.isNumber = true ∧
      textIn s letter digits = invariant.scalarText t none by
    obtain ⟨t, ht, hnumber, htext⟩ := hsame
    exact ⟨t, ht, htext, htext ▸ isPlain_scalarText hnumber⟩
  cases s with
  | integer n =>
    refine ⟨.integer n, .integer n, rfl, ?_⟩
    change String.ofList (integerText n _) = _
    rw [integerText, Option.bind_some, hformat]
    rfl
  | double x =>
    refine ⟨.double x, .double x, rfl, ?_⟩
    change String.ofList (doubleText x _) = _
    rw [doubleText, Option.bind_some, hformat]
    rfl
  | single x =>
    refine ⟨.double (x.convert .double), .single ?_, rfl, ?_⟩
    · exact Binary.sameValue_convert Precision.Within.single_double (by decide) x
    · change String.ofList (singleText x _) = _
      rw [singleText, Option.bind_some, hformat]
      rfl
  | _ => exact absurd hs Bool.false_ne_true

/-- A tenth as a single. -/
def tenth : Binary .single := .finite false 13421773 (-27) (by decide)

theorem text_plain_tenth :
    ∃ t, (Scalar.single tenth).WrittenAs t ∧
      textIn (.single tenth) 'G' [] = invariant.scalarText t none ∧
      t.IsPlain (textIn (.single tenth) 'G' []) :=
  text_plain rfl (by decide) .nothing

/-- The digits of a double, and the digits of a single. -/
theorem texts_of_tenth :
    textIn (.single tenth) 'G' [] = "0.10000000149011612" ∧
      invariant.scalarText (.single tenth) none = "0.1" := by
  decide +kernel

end Provider

end Logbook
