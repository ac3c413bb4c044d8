/-
# Values in wider precisions

A datum of a precision has its value in any wider one too: its mantissa moves up until it uses all
its bits, or until the exponent is the least one (`exists_holds`).  The conversion finds this datum,
because it rounds a quotient that is the value of it (`sameValue_convert`).  So singles become
doubles without a loss.
-/
import Logbook.Proofs.Number.Rounding

namespace Logbook

/-! ## 1. Wider precisions -/

/-- All the mantissas and exponents of `p` are in the ranges of `q`. -/
structure Precision.Within (p q : Precision) : Prop where
  bits : p.bits ≤ q.bits
  least : q.least ≤ p.least
  greatest : p.greatest ≤ q.greatest

theorem Precision.Within.refl (p : Precision) : p.Within p := ⟨le_rfl, le_rfl, le_rfl⟩

theorem Precision.Within.single_double : Precision.Within .single .double :=
  ⟨by decide, by decide, by decide⟩

namespace Binary

variable {p q : Precision}

/-- A value keeps its place in a wider precision. -/
theorem exists_holds (hw : p.Within q) {m : Nat} {e : Int} (h : p.Holds m e) (hbits : 1 < p.bits) :
    ∃ m' e', q.Holds m' e' ∧ magnitude m' e' = magnitude m e := by
  obtain ⟨hlt, hleast, hgreatest, -⟩ := h
  have hbits_le := hw.bits
  have hleast_le := hw.least
  have hgreatest_le := hw.greatest
  rcases Nat.eq_zero_or_pos m with rfl | hm
  · exact ⟨0, q.least, ⟨Nat.pow_pos two_pos, Int.le_refl _, by omega, .inr rfl⟩,
      by simp [magnitude]⟩
  have hlog : m.log2 < p.bits := (Nat.log2_lt hm.ne').mpr hlt
  -- the places that the mantissa has in front of it, but not below the least exponent
  obtain ⟨k, hk⟩ : ∃ k, k = min (q.bits - 1 - m.log2) (e - q.least).toNat := ⟨_, rfl⟩
  refine ⟨m * 2 ^ k, e - k, ⟨?_, by omega, by omega, ?_⟩, ?_⟩
  · calc m * 2 ^ k < 2 ^ (m.log2 + 1) * 2 ^ k :=
          Nat.mul_lt_mul_of_pos_right Nat.lt_log2_self (Nat.pow_pos two_pos)
      _ = 2 ^ (m.log2 + 1 + k) := (Nat.pow_add ..).symm
      _ ≤ Nat.pow 2 q.bits := Nat.pow_le_pow_right two_pos (by omega)
  · rcases Nat.lt_or_ge k (q.bits - 1 - m.log2) with hshort | hfull
    · exact .inr (by omega)
    · left
      calc 2 ^ (q.bits - 1) = 2 ^ m.log2 * 2 ^ k := by rw [← Nat.pow_add]; congr 1; omega
        _ ≤ m * 2 ^ k := Nat.mul_le_mul_right _ (Nat.log2_self_le hm.ne')
  · rw [magnitude, magnitude, zpow_sub₀ two_ne_zero, zpow_natCast]
    push_cast
    field_simp

/-- Data of two precisions with one value, and one sign. -/
inductive SameValue : Binary p → Binary q → Prop where
  | nan : SameValue .nan .nan
  | infinite (negative : Bool) : SameValue (.infinite negative) (.infinite negative)
  | finite (negative : Bool) {m m' : Nat} {e e' : Int} {h : p.Holds m e} {h' : q.Holds m' e'}
      (hvalue : magnitude m e = magnitude m' e') :
      SameValue (.finite negative m e h) (.finite negative m' e' h')

/-- **A wider precision has the value of each datum**, and the conversion finds it. -/
theorem sameValue_convert (hw : p.Within q) (hbits : 1 < p.bits) (x : Binary p) :
    SameValue x (x.convert q) := by
  cases x with
  | nan => exact .nan
  | infinite negative => exact .infinite negative
  | finite negative m e h =>
    obtain ⟨m', e', h', hvalue⟩ := exists_holds hw h hbits
    have hround : convert q (.finite negative m e h) = .finite negative m' e' h' :=
      ofRatio_eq_finite h' (Nat.lt_of_lt_of_le hbits hw.bits) (ratio_snd_pos m e)
        ((ratio_div m e).trans hvalue.symm) negative
    rw [hround]
    exact .finite negative hvalue.symm

end Binary

end Logbook
