/-
# Which values are too large for a precision

A quotient is rounded to an infinity if it is too large for the precision.  The limit is half a
unit above the greatest datum (`Precision.limit`).  A quotient at the limit is as near to the
greatest datum as to the next multiple of the unit.  Of the two mantissas the second one is even,
so the quotient is rounded up, and there is no datum any more.

Both sides of this come down to one condition on the exponent and the mantissa that the quotient is
rounded to: it has a datum if they are in the range (`isFinite_ofRatio_iff_inRange`), and they are
if it is below the limit (`inRange_iff`).  So a quotient has a datum exactly if it is below the
limit (`isFinite_ofRatio_iff`).

The hundredfold of a double is below the limit of doubles, or it is not
(`isFinite_scale_iff`).  The hundredfold of a single is (`isFinite_scale_convert`), and so are the
integers of every kind, with what is made of them by rounding and scaling (`isFinite_scale_ofInt`).
-/
import Logbook.Number.Integer
import Logbook.Proofs.Number.Widening

namespace Logbook

/-- The least value that is too large. -/
def Precision.limit (p : Precision) : ℚ :=
  Binary.magnitude (2 * Nat.pow 2 p.bits - 1) (p.greatest - 1)

namespace Binary

variable {p : Precision}

/-! ## 1. The limit -/

/-- An exponent and a mantissa that are in the range, where a mantissa that is too long carries. -/
def InRange (p : Precision) (m : Nat) (e : Int) : Prop :=
  e < p.greatest ∨ e = p.greatest ∧ m < Nat.pow 2 p.bits

/-- A mantissa in the range does not reach up to the limit, because the greatest one is odd. -/
theorem RoundsAt.lt_limit {m : Nat} {v : ℚ} (hbits : 0 < p.bits) (hm : m < Nat.pow 2 p.bits)
    (hv : RoundsAt m p.greatest v) : v < p.limit := by
  have heven : Nat.pow 2 p.bits % 2 = 0 := by
    obtain ⟨k, hk⟩ : ∃ k, p.bits = k + 1 := ⟨p.bits - 1, by omega⟩
    rw [hk]
    exact (congrArg (· % 2) (Nat.pow_succ' (n := k))).trans (Nat.mul_mod_right 2 _)
  by_cases htop : m + 1 = Nat.pow 2 p.bits
  · exact (hv.odd (by omega)).2.trans_le (magnitude_le_iff.mpr (by omega))
  · exact hv.le_high.trans_lt (magnitude_lt_iff.mpr (by omega))

section

variable {num den : Nat} (hnum : 0 < num) (hden : 0 < den) (hbits : 1 < p.bits) {r : Int} {n : Nat}
  (hr : roundingExponent p num den = r)
include hnum hden hbits hr

/-- The quotient is below the limit exactly if it is rounded to what is in the range. -/
theorem inRange_iff (hrange : p.least ≤ p.greatest) (hn : RoundsAt n r ((num : ℚ) / den)) :
    InRange p n r ↔ (num : ℚ) / den < p.limit := by
  obtain ⟨hleast, hlt, hfull⟩ :=
    (roundingExponent_eq_iff hnum hden p (Nat.zero_lt_of_lt hbits) r).mp hr
  have hpos : 0 < Nat.pow 2 p.bits := Nat.pow_pos two_pos
  constructor
  · rintro (hlower | ⟨rfl, hfits⟩)
    · calc (num : ℚ) / den < magnitude (Nat.pow 2 p.bits) r := hlt
        _ ≤ magnitude (Nat.pow 2 p.bits) (p.greatest - 1) :=
          mul_le_mul_of_nonneg_left (zpow_le_zpow_right₀ one_le_two (by omega)) (Nat.cast_nonneg _)
        _ ≤ p.limit := magnitude_le_iff.mpr (by omega)
    · exact hn.lt_limit (Nat.zero_lt_of_lt hbits) hfits
  · intro hv
    have hgreatest : r ≤ p.greatest := by
      rcases hfull with rfl | hfull
      · exact hrange
      · have hlimit : p.limit < magnitude (2 * Nat.pow 2 p.bits) (p.greatest - 1) :=
          magnitude_lt_iff.mpr (by omega)
        rw [magnitude_half, magnitude_pow] at hlimit
        rw [magnitude_pow] at hfull
        have hpow := (zpow_lt_zpow_iff_right₀ one_lt_two).mp ((hfull.trans_lt hv).trans hlimit)
        omega
    rcases Int.lt_or_eq_of_le hgreatest with hlower | rfl
    · exact .inl hlower
    · refine .inr ⟨rfl, lt_of_le_of_ne (hn.le_of_lt hlt) ?_⟩
      rintro rfl
      exact absurd (hn.low_le.trans_lt hv) (lt_irrefl _)

/-- The quotient has a datum exactly if it is rounded to what is in the range. -/
theorem isFinite_ofRatio_iff_inRange
    (hn : roundEven (num * (powRatio 2 r).2) (den * (powRatio 2 r).1) = n) (negative : Bool) :
    (ofRatio p negative num den).isFinite = true ↔ InRange p n r := by
  obtain ⟨hleast, hlt, hfull⟩ :=
    (roundingExponent_eq_iff hnum hden p (Nat.zero_lt_of_lt hbits) r).mp hr
  have hone : Nat.pow 2 (p.bits - 1) < Nat.pow 2 p.bits :=
    Nat.pow_lt_pow_right one_lt_two (by omega)
  rw [ofRatio_eq_of_pos p negative hnum hr hn]
  rw [roundEven_powRatio_iff hden] at hn
  have hle : n ≤ Nat.pow 2 p.bits := hn.le_of_lt hlt
  have hnormal : Nat.pow 2 (p.bits - 1) ≤ n ∨ r = p.least := (hfull.imp id hn.le_of_le).symm
  by_cases hfits : p.Holds n r
  · rw [dif_pos hfits]
    exact iff_of_true rfl (hfits.2.2.1.lt_or_eq.imp id fun heq => ⟨heq, hfits.1⟩)
  · rw [dif_neg hfits]
    by_cases hcarry : p.Holds (Nat.pow 2 (p.bits - 1)) (r + 1)
    · rw [dif_pos hcarry]
      exact iff_of_true rfl (.inl (Int.lt_of_add_one_le hcarry.2.2.1))
    · rw [dif_neg hcarry]
      refine iff_of_false Bool.false_ne_true ?_
      rintro (hlower | ⟨rfl, hshort⟩)
      · exact hcarry ⟨hone, by omega, hlower, .inl le_rfl⟩
      · exact hfits ⟨hshort, hleast, le_rfl, hnormal⟩

end

theorem limit_pos (p : Precision) : 0 < p.limit := by
  have hpos : 0 < Nat.pow 2 p.bits := Nat.pow_pos two_pos
  exact magnitude_pos (by omega) _

/-- **A quotient has a datum exactly if it is below the limit.** -/
theorem isFinite_ofRatio_iff (hbits : 1 < p.bits) (hrange : p.least ≤ p.greatest) {num den : Nat}
    (hden : 0 < den) (negative : Bool) :
    (ofRatio p negative num den).isFinite = true ↔ (num : ℚ) / den < p.limit := by
  rcases Nat.eq_zero_or_pos num with rfl | hnum
  · have hzero : p.Holds 0 p.least := ⟨Nat.pow_pos two_pos, le_rfl, hrange, .inr rfl⟩
    rw [ofRatio_zero hzero hden, Nat.cast_zero, zero_div]
    exact iff_of_true rfl (limit_pos p)
  · obtain ⟨r, hr⟩ : ∃ r, roundingExponent p num den = r := ⟨_, rfl⟩
    obtain ⟨n, hn⟩ : ∃ n, roundEven (num * (powRatio 2 r).2) (den * (powRatio 2 r).1) = n :=
      ⟨_, rfl⟩
    rw [isFinite_ofRatio_iff_inRange hnum hden hbits hr hn,
      inRange_iff hnum hden hbits hr hrange ((roundEven_powRatio_iff hden n r).mp hn)]

/-- What is rounded keeps its sign, be it a datum or too large. -/
theorem ofRatio_cases (p : Precision) (negative : Bool) (num den : Nat) :
    (∃ m e h, ofRatio p negative num den = .finite negative m e h) ∨
      ofRatio p negative num den = .infinite negative := by
  obtain ⟨e, he⟩ : ∃ e, (if num = 0 then p.least else roundingExponent p num den) = e := ⟨_, rfl⟩
  rw [ofRatio_eq p negative he rfl]
  split
  · rename_i h
    exact .inl ⟨_, _, h, rfl⟩
  · split
    · rename_i h
      exact .inl ⟨_, _, h, rfl⟩
    · exact .inr rfl

/-! ## 2. Multiples -/

/-- **The multiple of a datum** has a datum exactly if it is below the limit. -/
theorem isFinite_scale_iff (hbits : 1 < p.bits) (hrange : p.least ≤ p.greatest) (negative : Bool)
    {m : Nat} {e : Int} (h : p.Holds m e) (n : Nat) :
    ((Binary.finite negative m e h).scale n).isFinite = true ↔ n * magnitude m e < p.limit := by
  have hvalue : (((ratio m e).1 * n : Nat) : ℚ) / (ratio m e).2 = n * magnitude m e := by
    rw [Nat.cast_mul, mul_comm, mul_div_assoc, ratio_div]
  rw [← hvalue]
  exact isFinite_ofRatio_iff hbits hrange (ratio_snd_pos m e) negative

theorem limit_double : Precision.double.limit = (2 ^ 54 - 1) * 2 ^ 970 := by
  norm_num [Precision.limit, Precision.double, magnitude]

/-- The hundredfold of a value of at most `2 ^ 200` is a double. -/
theorem mul_lt_limit_double {n : Nat} {v : ℚ} (hn : n ≤ 100) (hv : v ≤ 2 ^ 200) :
    n * v < Precision.double.limit := by
  have hn' : (n : ℚ) ≤ 100 := by exact_mod_cast hn
  calc (n : ℚ) * v ≤ n * 2 ^ 200 := mul_le_mul_of_nonneg_left hv (Nat.cast_nonneg n)
    _ ≤ 100 * 2 ^ 200 := mul_le_mul_of_nonneg_right hn' (by positivity)
    _ ≤ 2 ^ 250 := by norm_num
    _ ≤ 1 * 2 ^ 970 := by
      rw [one_mul]
      exact pow_le_pow_right₀ one_le_two (by decide)
    _ < (2 ^ 54 - 1) * 2 ^ 970 := mul_lt_mul_of_pos_right (by norm_num) (by positivity)
    _ = Precision.double.limit := limit_double.symm

/-- The value of a single. -/
theorem magnitude_single_le {m : Nat} {e : Int} (h : Precision.single.Holds m e) :
    magnitude m e ≤ 2 ^ 200 := by
  calc magnitude m e ≤ (2 ^ 24 : Nat) * 2 ^ (104 : Int) :=
        mul_le_mul (Nat.cast_le.mpr h.1.le) (zpow_le_zpow_right₀ one_le_two h.2.2.1)
          (zpow_pos two_pos e).le (Nat.cast_nonneg _)
    _ ≤ 2 ^ 200 := by norm_num

/-- A single is a datum of the wider precision, and so is its hundredfold. -/
theorem isFinite_scale_convert {x : Binary .single} (hx : x.isFinite = true) {n : Nat}
    (hn : n ≤ 100) :
    (x.convert .double).isFinite = true ∧ ((x.convert .double).scale n).isFinite = true := by
  have hsame := sameValue_convert Precision.Within.single_double (by decide) x
  generalize x.convert .double = y at hsame ⊢
  cases hsame with
  | nan => exact absurd hx Bool.false_ne_true
  | infinite negative => exact absurd hx Bool.false_ne_true
  | @finite negative m m' e e' h h' hvalue =>
    refine ⟨rfl, (isFinite_scale_iff (by decide) (by decide) negative h' n).mpr ?_⟩
    exact mul_lt_limit_double hn (hvalue ▸ magnitude_single_le h)

end Binary

/-! ## 3. Integers -/

/-- An integer of any kind has an absolute value of at most `2 ^ 128`. -/
theorem Integer.natAbs_value_le (n : Integer) : n.value.natAbs ≤ 2 ^ 128 := by
  obtain ⟨kind, value, hleast, hgreatest⟩ := n
  have hbounds : -2 ^ 128 ≤ kind.least ∧ kind.greatest ≤ 2 ^ 128 := by
    cases kind <;> decide
  change value.natAbs ≤ 2 ^ 128
  omega

namespace Binary

/-- A datum is at most twice the value that is rounded to it. -/
theorem magnitude_le_of_ofRatio_eq {p : Precision} (hbits : 1 < p.bits) {num den : Nat}
    (hden : 0 < den) {negative : Bool} {m : Nat} {e : Int} {h : p.Holds m e}
    (hdatum : ofRatio p negative num den = .finite negative m e h) :
    magnitude m e ≤ 2 * ((num : ℚ) / den) := by
  have hnonneg : (0 : ℚ) ≤ num / den := div_nonneg (Nat.cast_nonneg _) (Nat.cast_nonneg _)
  rcases Nat.eq_zero_or_pos m with rfl | hm
  · rw [magnitude, Nat.cast_zero, zero_mul]
    exact mul_nonneg two_pos.le hnonneg
  · have hnum : 0 < num := by
      rcases Nat.eq_zero_or_pos num with rfl | hnum
      · have hzero : p.Holds 0 p.least :=
          ⟨Nat.pow_pos two_pos, le_rfl, h.2.1.trans h.2.2.1, .inr rfl⟩
        rw [ofRatio_zero hzero hden] at hdatum
        exact absurd (Binary.finite.inj hdatum).2.1 hm.ne
      · exact hnum
    have hround := roundsTo_of_ofRatio_eq h hm hbits hnum hden negative hdatum
    have hquarters := quartersBelow_bounds p m e
    calc magnitude m e = magnitude (4 * m) (e - 2) := (magnitude_quarter m e).symm
      _ ≤ magnitude (2 * (4 * m - quartersBelow p m e)) (e - 2) := magnitude_le_iff.mpr (by omega)
      _ = 2 * magnitude (4 * m - quartersBelow p m e) (e - 2) := by
        rw [magnitude, magnitude, Nat.cast_mul, mul_assoc]
        rfl
      _ ≤ 2 * ((num : ℚ) / den) := mul_le_mul_of_nonneg_left hround.low_le two_pos.le

/-- An integer is rounded to a double, and the hundredfold of this double to another one. -/
theorem isFinite_scale_ofInt (i : Integer) {n : Nat} (hn : n ≤ 100) :
    (ofInt .double i.value).isFinite = true ∧
      ((ofInt .double i.value).scale n).isFinite = true := by
  have hvalue : ((i.value.natAbs : Nat) : ℚ) / (1 : Nat) ≤ 2 ^ 128 := by
    rw [Nat.cast_one, div_one]
    exact_mod_cast i.natAbs_value_le
  have hfinite : (ofInt .double i.value).isFinite = true := by
    refine (isFinite_ofRatio_iff (by decide) (by decide) Nat.one_pos _).mpr ?_
    have hlimit := mul_lt_limit_double (n := 1) (by decide)
      (hvalue.trans (pow_le_pow_right₀ one_le_two (by decide)))
    rwa [Nat.cast_one, one_mul] at hlimit
  refine ⟨hfinite, ?_⟩
  unfold ofInt at hfinite ⊢
  rcases ofRatio_cases .double (i.value < 0) i.value.natAbs 1 with ⟨m, e, h, hdatum⟩ | hlarge
  · rw [hdatum]
    refine (isFinite_scale_iff (by decide) (by decide) _ h n).mpr (mul_lt_limit_double hn ?_)
    calc magnitude m e ≤ 2 * ((i.value.natAbs : ℚ) / (1 : Nat)) :=
          magnitude_le_of_ofRatio_eq (by decide) Nat.one_pos hdatum
      _ ≤ 2 * 2 ^ 128 := mul_le_mul_of_nonneg_left hvalue two_pos.le
      _ ≤ 2 ^ 200 := by norm_num
  · rw [hlarge] at hfinite
    exact absurd hfinite Bool.false_ne_true

end Binary

end Logbook
