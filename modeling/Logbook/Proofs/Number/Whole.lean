/-
# Integers and doubles of the same value

The formats `F` and `N` write integers from their digits, and doubles from a quotient that is
rounded to the last place.  Where a double has the value of an integer, this makes no difference:
the quotient is the integer, nothing is rounded, and zeros are left for the places
(`textIn_of_represents`).  It holds for every kind of integer, up to the ends of its range, and for
every number of places.

Zero is the one integer that two doubles have the value of.  It stands for the one without a sign.
-/
import Logbook.Proofs.Number.Formats

namespace Logbook

namespace Binary

/-- A datum has the value of an integer, and its sign. -/
inductive Represents {p : Precision} : Binary p → Int → Prop where
  | finite {v : Int} {m : Nat} {e : Int} (h : p.Holds m e) (hvalue : magnitude m e = v.natAbs) :
      Represents (.finite (v < 0) m e h) v

variable {p : Precision}

/-- **Converting an integer** gives the datum of its value, if there is one. -/
theorem Represents.ofInt_eq (hbits : 1 < p.bits) {x : Binary p} {v : Int} (hx : x.Represents v) :
    ofInt p v = x := by
  obtain ⟨h, hvalue⟩ := hx
  refine ofRatio_eq_finite h hbits Nat.one_pos ?_ _
  rw [Nat.cast_one, div_one, hvalue]

/-- The quotient of a datum with a whole value. -/
theorem ratio_fst_of_whole {m : Nat} {e : Int} {k : Nat} (hvalue : magnitude m e = k) :
    (ratio m e).1 = k * (ratio m e).2 := by
  have hden : ((ratio m e).2 : ℚ) ≠ 0 := Nat.cast_ne_zero.mpr (ratio_snd_pos m e).ne'
  rw [← ratio_div, div_eq_iff hden] at hvalue
  exact_mod_cast hvalue

/-- A datum with a whole value has zeros in its places. -/
theorem fixed_of_whole {m : Nat} {e : Int} {k : Nat} (hvalue : magnitude m e = k) (places : Nat) :
    fixed (ratio m e).1 (ratio m e).2 places = Integer.withZeros (decimal k) places := by
  rw [ratio_fst_of_whole hvalue]
  exact fixed_mul (ratio_snd_pos m e) k places

theorem Represents.fixedText_eq {x : Binary p} {v : Int} (hx : x.Represents v) (places : Nat) :
    x.fixedText places = Integer.withZeros (signed (v < 0) (decimal v.natAbs)) places := by
  obtain ⟨h, hvalue⟩ := hx
  rw [withZeros_signed, ← fixed_of_whole hvalue]
  rfl

theorem Represents.groupedText_eq {x : Binary p} {v : Int} (hx : x.Represents v) (places : Nat) :
    x.groupedText places =
      Integer.withZeros (signed (v < 0) (groupThousands (decimal v.natAbs))) places := by
  obtain @⟨_, m, e, h, hvalue⟩ := hx
  have hsign : (decide (v < 0) && m != 0) = decide (v < 0) := by
    by_cases hneg : v < 0
    · have hm : m ≠ 0 := by
        rintro rfl
        rw [magnitude, Nat.cast_zero, zero_mul] at hvalue
        have hzero : v.natAbs = 0 := Nat.cast_eq_zero.mp hvalue.symm
        omega
      simp [hm]
    · simp [hneg]
  change signed (decide (v < 0) && m != 0)
    (groupInteger (fixed (ratio m e).1 (ratio m e).2 places)) = _
  rw [hsign, fixed_of_whole hvalue, groupInteger_withZeros (isRow_decimal _).point_notMem,
    withZeros_signed]

end Binary

namespace Provider

open NumberFormat

/-- **An integer and the double of its value have the same text** with a fixed number of places,
grouped or not. -/
theorem textIn_of_represents {n : Integer} {x : Binary .double} (hx : x.Represents n.value)
    {letter : Char} (hletter : letter ∈ ['F', 'f', 'N', 'n']) {digits : List Char}
    {precision : Option Nat} (h : Asks digits precision) :
    Binary.ofInt .double n.value = x ∧
      textIn (.integer n) letter digits = textIn (.double x) letter digits := by
  refine ⟨hx.ofInt_eq (by decide), ?_⟩
  have htexts : ∀ style, style? letter = some style →
      x.formatted? ⟨style, precision⟩ = some (n.formatted ⟨style, precision⟩) →
      textIn (.integer n) letter digits = textIn (.double x) letter digits := by
    intro style hstyle hsame
    have hformat := parse?_of_asks h hstyle
    change String.ofList (integerText n _) = String.ofList (doubleText x _)
    rw [integerText, doubleText, Option.bind_some, hformat, Option.bind_some, hsame]
    rfl
  have hfixed : x.formatted? ⟨.fixed, precision⟩ = some (n.formatted ⟨.fixed, precision⟩) :=
    congrArg some (hx.fixedText_eq _)
  have hgrouped :
      x.formatted? ⟨.grouped, precision⟩ = some (n.formatted ⟨.grouped, precision⟩) := by
    have hfinite : x.isFinite = true := by
      cases hx
      rfl
    change some (if x.isFinite then x.groupedText (precision.getD 2) else x.text) = _
    rw [if_pos hfinite, hx.groupedText_eq]
    rfl
  simp only [List.mem_cons, List.not_mem_nil, or_false] at hletter
  rcases hletter with rfl | rfl | rfl | rfl
  · exact htexts .fixed rfl hfixed
  · exact htexts .fixed rfl hfixed
  · exact htexts .grouped rfl hgrouped
  · exact htexts .grouped rfl hgrouped

/-- The least integer of 128 bits is a power of two, and so a double.  Its digits fill thirteen
groups. -/
theorem textIn_of_represents_least :
    let n : Integer := ⟨.signed128, -2 ^ 127, by decide, by decide⟩
    let x : Binary .double := .finite true (2 ^ 52) 75 (by decide)
    x.Represents n.value ∧ 'N' ∈ ['F', 'f', 'N', 'n'] ∧ Asks ['3'] (some 3) ∧
      textIn (.integer n) 'N' ['3'] = textIn (.double x) 'N' ['3'] ∧
      textIn (.double x) 'N' ['3'] =
        "-170,141,183,460,469,231,731,687,303,715,884,105,728.000" := by
  intro n x
  have hx : x.Represents n.value := by
    have hvalue : Binary.magnitude (2 ^ 52) 75 = (n.value.natAbs : ℚ) := by
      norm_num [Binary.magnitude, n]
    exact Binary.Represents.finite (v := n.value) (by decide) hvalue
  have hasks : Asks ['3'] (some 3) := asks_decimal (n := 3) (by decide)
  have hsame : textIn (.integer n) 'N' ['3'] = textIn (.double x) 'N' ['3'] :=
    (textIn_of_represents hx (by decide) hasks).2
  have htext : textIn (.integer n) 'N' ['3'] =
      "-170,141,183,460,469,231,731,687,303,715,884,105,728.000" := by
    decide +kernel
  exact ⟨hx, by decide, hasks, hsame, hsame.symm.trans htext⟩

end Provider

end Logbook
