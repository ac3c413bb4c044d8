/-
# What is rounded to a datum

A datum is made by rounding a quotient of natural numbers.  This is done in two steps, and each is
one biconditional:

* the exponent of rounding is the one at which the quotient has all the bits of the mantissa in
  front of the point, or the least one (`roundingExponent_eq_iff`).  It is found from the lengths of
  the numerator and the denominator, and corrected by one comparison;
* the mantissa is the nearest multiple of the power of two, the even one of two
  (`roundEven_powRatio_iff`).

Together they say which quotients become a datum: those of its rounding interval
(`ofRatio_eq_finite_iff`).  It reaches half a unit to either side.  Below a mantissa that has only
its first bit, the unit is half as large, and the interval reaches a quarter; what is nearer than
that gets all the bits at the smaller exponent, and carries.
-/
import Logbook.Number.Binary
import Mathlib.Data.Int.Log
import Mathlib.Data.Rat.Floor
import Mathlib.Tactic.FieldSimp
import Mathlib.Tactic.Positivity
import Mathlib.Tactic.Ring

namespace Logbook

/-! ## 1. Powers as quotients -/

theorem powRatio_div (base : Nat) (e : Int) :
    ((powRatio base e).1 : ℚ) / (powRatio base e).2 = (base : ℚ) ^ e := by
  unfold powRatio
  split
  · rename_i h
    obtain ⟨n, rfl⟩ := Int.eq_ofNat_of_zero_le h
    simp
  · rename_i h
    obtain ⟨n, hn⟩ := Int.eq_ofNat_of_zero_le (show 0 ≤ -e by omega)
    obtain rfl : e = -n := by omega
    simp

/-- A quotient compared with a multiple of a power of two, without dividing. -/
theorem mul_powRatio_lt_iff {num den : Nat} (hden : 0 < den) (c : Nat) (e : Int) :
    num * (powRatio 2 e).2 < c * (den * (powRatio 2 e).1) ↔ (num : ℚ) / den < c * 2 ^ e := by
  have hdown : (0 : ℚ) < (powRatio 2 e).2 := Nat.cast_pos.mpr (powRatio_pos two_pos e).2
  have hpow : ((powRatio 2 e).1 : ℚ) / (powRatio 2 e).2 = 2 ^ e := powRatio_div 2 e
  rw [← hpow, ← mul_div_assoc, div_lt_div_iff₀ (Nat.cast_pos.mpr hden) hdown,
    ← Nat.cast_lt (α := ℚ)]
  push_cast
  rw [mul_assoc, mul_comm (den : ℚ)]

namespace Binary

/-! ## 2. Absolute values -/

/-- The absolute value of a datum with this mantissa and exponent. -/
def magnitude (m : Nat) (e : Int) : ℚ := m * 2 ^ e

theorem ratio_snd_pos (m : Nat) (e : Int) : 0 < (ratio m e).2 := (powRatio_pos two_pos e).2

theorem ratio_div (m : Nat) (e : Int) :
    ((ratio m e).1 : ℚ) / (ratio m e).2 = magnitude m e := by
  have hpow : ((powRatio 2 e).1 : ℚ) / (powRatio 2 e).2 = 2 ^ e := powRatio_div 2 e
  change ((m * (powRatio 2 e).1 : Nat) : ℚ) / (powRatio 2 e).2 = m * 2 ^ e
  rw [← hpow, Nat.cast_mul, mul_div_assoc]

theorem magnitude_pos {m : Nat} (h : 0 < m) (e : Int) : 0 < magnitude m e :=
  mul_pos (Nat.cast_pos.mpr h) (zpow_pos two_pos e)

theorem magnitude_le_iff {m n : Nat} {e : Int} : magnitude m e ≤ magnitude n e ↔ m ≤ n := by
  rw [magnitude, magnitude, mul_le_mul_iff_left₀ (zpow_pos two_pos e), Nat.cast_le]

theorem magnitude_lt_iff {m n : Nat} {e : Int} : magnitude m e < magnitude n e ↔ m < n := by
  rw [magnitude, magnitude, mul_lt_mul_iff_left₀ (zpow_pos two_pos e), Nat.cast_lt]

/-- The mantissa moves up, and the exponent down. -/
theorem magnitude_shift (m k : Nat) (e : Int) : magnitude (2 ^ k * m) (e - k) = magnitude m e := by
  rw [magnitude, magnitude, zpow_sub₀ two_ne_zero, zpow_natCast]
  push_cast
  field_simp

theorem magnitude_half (m : Nat) (e : Int) : magnitude (2 * m) (e - 1) = magnitude m e :=
  magnitude_shift m 1 e

theorem magnitude_quarter (m : Nat) (e : Int) : magnitude (4 * m) (e - 2) = magnitude m e :=
  magnitude_shift m 2 e

theorem magnitude_pow (k : Nat) (e : Int) :
    magnitude (Nat.pow 2 k) e = ((2 : Nat) : ℚ) ^ (k + e) := by
  have hcast : ((Nat.pow 2 k : Nat) : ℚ) = 2 ^ (k : Int) := by exact_mod_cast rfl
  rw [magnitude, hcast, ← zpow_add₀ two_ne_zero]
  rfl

/-! ## 3. The exponent of rounding -/

section

variable {num den : Nat} (hnum : 0 < num) (hden : 0 < den)
include hnum hden

/-- The lengths of the numerator and the denominator tell the logarithm up to one. -/
theorem log_ratio_bounds :
    (num.log2 : Int) - den.log2 - 1 ≤ Int.log 2 ((num : ℚ) / den) ∧
      Int.log 2 ((num : ℚ) / den) ≤ (num.log2 : Int) - den.log2 := by
  have hbounds : ∀ {n : Nat}, 0 < n →
      (2 : ℚ) ^ (n.log2 : Int) ≤ n ∧ (n : ℚ) < 2 ^ ((n.log2 : Int) + 1) := by
    intro n hn
    constructor
    · exact_mod_cast Nat.log2_self_le hn.ne'
    · exact_mod_cast Nat.lt_log2_self
  obtain ⟨hnumge, hnumlt⟩ := hbounds hnum
  obtain ⟨hdenge, hdenlt⟩ := hbounds hden
  have hdenpos : (0 : ℚ) < den := Nat.cast_pos.mpr hden
  have hpos : (0 : ℚ) < num / den := div_pos (Nat.cast_pos.mpr hnum) hdenpos
  constructor
  · rw [← Int.zpow_le_iff_le_log one_lt_two hpos, le_div_iff₀ hdenpos]
    calc ((2 : Nat) : ℚ) ^ ((num.log2 : Int) - den.log2 - 1) * den
        ≤ 2 ^ ((num.log2 : Int) - den.log2 - 1) * 2 ^ ((den.log2 : Int) + 1) :=
          mul_le_mul_of_nonneg_left hdenlt.le (zpow_pos two_pos _).le
      _ = 2 ^ (num.log2 : Int) := by
          rw [← zpow_add₀ two_ne_zero]
          congr 1
          omega
      _ ≤ num := hnumge
  · rw [← Int.lt_add_one_iff, ← Int.lt_zpow_iff_log_lt one_lt_two hpos, div_lt_iff₀ hdenpos]
    calc (num : ℚ) < 2 ^ ((num.log2 : Int) + 1) := hnumlt
      _ = 2 ^ ((num.log2 : Int) - den.log2 + 1) * 2 ^ (den.log2 : Int) := by
          rw [← zpow_add₀ two_ne_zero]
          congr 1
          omega
      _ ≤ ((2 : Nat) : ℚ) ^ ((num.log2 : Int) - den.log2 + 1) * den :=
          mul_le_mul_of_nonneg_left hdenge (zpow_pos two_pos _).le

theorem roundingExponent_eq_max (p : Precision) (hbits : 0 < p.bits) :
    roundingExponent p num den =
      max p.least (Int.log 2 ((num : ℚ) / den) - (p.bits - 1)) := by
  obtain ⟨hge, hle⟩ := log_ratio_bounds hnum hden
  have hpos : (0 : ℚ) < num / den := div_pos (Nat.cast_pos.mpr hnum) (Nat.cast_pos.mpr hden)
  let guess : Int := (num.log2 : Int) - den.log2 - (p.bits - 1)
  have hunit : ((Nat.pow 2 (p.bits - 1) : Nat) : ℚ) * 2 ^ guess =
      ((2 : Nat) : ℚ) ^ ((num.log2 : Int) - den.log2) := by
    refine (magnitude_pow _ guess).trans ?_
    congr 1
    omega
  -- the comparison decides which of the two logarithms it is
  have hshort : num * (powRatio 2 guess).2 < Nat.pow 2 (p.bits - 1) * (den * (powRatio 2 guess).1) ↔
      Int.log 2 ((num : ℚ) / den) < (num.log2 : Int) - den.log2 := by
    rw [mul_powRatio_lt_iff hden, hunit, Int.lt_zpow_iff_log_lt one_lt_two hpos]
  change max p.least (if num * (powRatio 2 guess).2 <
    Nat.pow 2 (p.bits - 1) * (den * (powRatio 2 guess).1) then guess - 1 else guess) = _
  rw [if_congr hshort rfl rfl]
  congr 1
  split <;> omega

/-- **At the exponent of rounding** the quotient has at most the bits of the mantissa in front of
the point, and all of them unless it is the least exponent. -/
theorem roundingExponent_eq_iff (p : Precision) (hbits : 0 < p.bits) (e : Int) :
    roundingExponent p num den = e ↔
      p.least ≤ e ∧ (num : ℚ) / den < magnitude (Nat.pow 2 p.bits) e ∧
        (e = p.least ∨ magnitude (Nat.pow 2 (p.bits - 1)) e ≤ (num : ℚ) / den) := by
  have hpos : (0 : ℚ) < num / den := div_pos (Nat.cast_pos.mpr hnum) (Nat.cast_pos.mpr hden)
  rw [roundingExponent_eq_max hnum hden p hbits, magnitude_pow, magnitude_pow,
    Int.lt_zpow_iff_log_lt one_lt_two hpos, Int.zpow_le_iff_le_log one_lt_two hpos]
  omega

end

end Binary

/-! ## 4. The nearest multiple -/

/-- What is nearest is at most half the denominator away, and less than that if it is odd. -/
theorem roundEven_eq_iff {num den : Nat} (hden : 0 < den) (m : Nat) :
    roundEven num den = m ↔
      2 * (m * den) ≤ 2 * num + den ∧ 2 * num ≤ 2 * (m * den) + den ∧
        (m % 2 = 1 → 2 * (m * den) < 2 * num + den ∧ 2 * num < 2 * (m * den) + den) := by
  have hnum : num = num / den * den + num % den := (Nat.div_add_mod' num den).symm
  have hlt : num % den < den := Nat.mod_lt num hden
  have hsucc : (num / den + 1) * den = num / den * den + den := Nat.succ_mul _ den
  -- the quotient is one of the two neighbours, and its remainder says which
  have hcases : roundEven num den = num / den ∧ 2 * (num % den) ≤ den ∧
        (2 * (num % den) = den → num / den % 2 = 0) ∨
      roundEven num den = num / den + 1 ∧ den ≤ 2 * (num % den) ∧
        (2 * (num % den) = den → num / den % 2 = 1) := by
    unfold roundEven
    dsimp only
    split
    · omega
    · split <;> omega
  constructor
  · rintro rfl
    rcases hcases with ⟨h, hle, heven⟩ | ⟨h, hle, hodd⟩
    · rw [h]
      omega
    · rw [h, hsucc]
      omega
  · rintro ⟨hlow, hhigh, hodd⟩
    have hge : num / den ≤ m := by
      by_contra hlt
      have hmul := Nat.mul_le_mul_right den (Nat.succ_le_of_lt (Nat.lt_of_not_le hlt))
      rw [Nat.succ_mul] at hmul
      omega
    have hle : m ≤ num / den + 1 := by
      by_contra hlt
      have hmul := Nat.mul_le_mul_right den (Nat.succ_le_of_lt (Nat.lt_of_not_le hlt))
      rw [Nat.succ_mul, hsucc] at hmul
      omega
    rcases Nat.eq_or_lt_of_le hge with rfl | hgt
    · omega
    · obtain rfl : m = num / den + 1 := by omega
      rw [hsucc] at hlow hhigh hodd
      omega

namespace Binary

/-- Between two bounds, which belong to it if the mantissa is even. -/
structure Rounds (m : Nat) (low high v : ℚ) : Prop where
  low_le : low ≤ v
  le_high : v ≤ high
  odd : m % 2 = 1 → low < v ∧ v < high

theorem Rounds.between {m : Nat} {low high a b v : ℚ} (ha : Rounds m low high a)
    (hb : Rounds m low high b) (hav : a ≤ v) (hvb : v ≤ b) : Rounds m low high v :=
  ⟨ha.low_le.trans hav, hvb.trans hb.le_high,
    fun hodd => ⟨(ha.odd hodd).1.trans_le hav, hvb.trans_lt (hb.odd hodd).2⟩⟩

theorem rounds_div_iff {c : ℚ} (hc : 0 < c) {m low high v : Nat} :
    Rounds m (low / c) (high / c) (v / c) ↔
      low ≤ v ∧ v ≤ high ∧ (m % 2 = 1 → low < v ∧ v < high) := by
  have hle : ∀ a b : Nat, (a / c : ℚ) ≤ b / c ↔ a ≤ b := fun a b => by
    rw [div_le_div_iff_of_pos_right hc, Nat.cast_le]
  have hlt : ∀ a b : Nat, (a / c : ℚ) < b / c ↔ a < b := fun a b => by
    rw [div_lt_div_iff_of_pos_right hc, Nat.cast_lt]
  constructor
  · rintro ⟨hlow, hhigh, hodd⟩
    rw [hle] at hlow hhigh
    rw [hlt, hlt] at hodd
    exact ⟨hlow, hhigh, hodd⟩
  · rintro ⟨hlow, hhigh, hodd⟩
    rw [← hlt, ← hlt] at hodd
    exact ⟨(hle _ _).mpr hlow, (hle _ _).mpr hhigh, hodd⟩

/-- Of the multiples of `2 ^ e`, the one by `m` is nearest to `v`. -/
def RoundsAt (m : Nat) (e : Int) (v : ℚ) : Prop :=
  Rounds m (magnitude (2 * m - 1) (e - 1)) (magnitude (2 * m + 1) (e - 1)) v

/-- **The mantissa is the nearest multiple** of the power of two. -/
theorem roundEven_powRatio_iff {num den : Nat} (hden : 0 < den) (m : Nat) (e : Int) :
    roundEven (num * (powRatio 2 e).2) (den * (powRatio 2 e).1) = m ↔
      RoundsAt m e ((num : ℚ) / den) := by
  obtain ⟨huppos, hdownpos⟩ := powRatio_pos two_pos e
  have hpow : ((powRatio 2 e).1 : ℚ) / (powRatio 2 e).2 = 2 ^ e := powRatio_div 2 e
  generalize (powRatio 2 e).1 = up at huppos hpow ⊢
  generalize (powRatio 2 e).2 = down at hdownpos hpow ⊢
  have hunit : 0 < den * up := Nat.mul_pos hden huppos
  -- everything over one denominator
  have hmagnitude : ∀ a, magnitude a (e - 1) =
      ((a * (den * up) : Nat) : ℚ) / (2 * down * den : Nat) := by
    intro a
    rw [magnitude, zpow_sub₀ two_ne_zero, ← hpow]
    push_cast
    field_simp
  have hvalue : (num : ℚ) / den = ((2 * (num * down) : Nat) : ℚ) / (2 * down * den : Nat) := by
    push_cast
    field_simp
  have hlow : (2 * m - 1) * (den * up) = 2 * (m * (den * up)) - den * up := by
    rw [Nat.sub_mul, Nat.one_mul, Nat.mul_assoc]
  have hhigh : (2 * m + 1) * (den * up) = 2 * (m * (den * up)) + den * up := by
    rw [Nat.add_mul, Nat.one_mul, Nat.mul_assoc]
  rw [roundEven_eq_iff hunit, RoundsAt, hmagnitude, hmagnitude, hvalue,
    rounds_div_iff (by positivity), hlow, hhigh]
  have hmul : m % 2 = 1 → den * up ≤ m * (den * up) := fun hodd =>
    Nat.le_mul_of_pos_left _ (by omega)
  omega

/-! ## 5. The rounding interval -/

/-- Quarters of a unit below a datum that are rounded to it: only one if the next smaller datum is
half as far away as the next larger one. -/
def quartersBelow (p : Precision) (m : Nat) (e : Int) : Nat :=
  if m = Nat.pow 2 (p.bits - 1) ∧ p.least < e then 1 else 2

theorem quartersBelow_bounds (p : Precision) (m : Nat) (e : Int) :
    1 ≤ quartersBelow p m e ∧ quartersBelow p m e ≤ 2 := by
  unfold quartersBelow
  split <;> omega

/-- The rounding interval of a datum. -/
def RoundsTo (p : Precision) (m : Nat) (e : Int) (v : ℚ) : Prop :=
  Rounds m (magnitude (4 * m - quartersBelow p m e) (e - 2)) (magnitude (4 * m + 2) (e - 2)) v

theorem magnitude_half_below (m : Nat) (e : Int) :
    magnitude (4 * m - 2) (e - 2) = magnitude (2 * m - 1) (e - 1) := by
  rw [← magnitude_half (2 * m - 1), show 2 * (2 * m - 1) = 4 * m - 2 by omega,
    show e - 1 - 1 = e - 2 by omega]

theorem magnitude_half_above (m : Nat) (e : Int) :
    magnitude (4 * m + 2) (e - 2) = magnitude (2 * m + 1) (e - 1) := by
  rw [← magnitude_half (2 * m + 1), show 2 * (2 * m + 1) = 4 * m + 2 by omega,
    show e - 1 - 1 = e - 2 by omega]

/-- Where the interval is not short, it is that of the nearest multiple. -/
theorem roundsTo_iff_roundsAt {p : Precision} {m : Nat} {e : Int} {v : ℚ}
    (h : ¬ (m = Nat.pow 2 (p.bits - 1) ∧ p.least < e)) : RoundsTo p m e v ↔ RoundsAt m e v := by
  rw [RoundsTo, RoundsAt, quartersBelow, if_neg h, magnitude_half_below, magnitude_half_above]

/-- The part of the interval that is not below the datum is that of the nearest multiple. -/
theorem roundsTo_iff_roundsAt_of_le {p : Precision} {m : Nat} {e : Int} {v : ℚ} (hm : 0 < m)
    (h : magnitude m e ≤ v) : RoundsTo p m e v ↔ RoundsAt m e v := by
  have hlow : ∀ k, 0 < k → magnitude (4 * m - k) (e - 2) < v := by
    intro k hk
    rw [← magnitude_quarter] at h
    exact (magnitude_lt_iff.mpr (by omega)).trans_le h
  have hbelow := hlow _ (quartersBelow_bounds p m e).1
  have hhalf := hlow 2 two_pos
  rw [magnitude_half_below] at hhalf
  rw [RoundsTo, RoundsAt, magnitude_half_above]
  constructor
  · exact fun h => ⟨hhalf.le, h.le_high, fun hodd => ⟨hhalf, (h.odd hodd).2⟩⟩
  · exact fun h => ⟨hbelow.le, h.le_high, fun hodd => ⟨hbelow, (h.odd hodd).2⟩⟩

/-- The part of a short interval below the datum is that of the carry. -/
theorem roundsTo_iff_roundsAt_of_lt {p : Precision} {m : Nat} {e : Int} {v : ℚ}
    (hshort : m = Nat.pow 2 (p.bits - 1) ∧ p.least < e) (heven : m % 2 = 0)
    (h : v < magnitude m e) : RoundsTo p m e v ↔ RoundsAt (2 * m) (e - 1) v := by
  have hhigh : ∀ k, v < magnitude (4 * m + k) (e - 2) := by
    intro k
    rw [← magnitude_quarter] at h
    exact h.trans_le (magnitude_le_iff.mpr (by omega))
  rw [RoundsTo, RoundsAt, quartersBelow, if_pos hshort, show 2 * (2 * m) = 4 * m by omega,
    show e - 1 - 1 = e - 2 by omega]
  constructor
  · exact fun h => ⟨h.low_le, (hhigh 1).le, fun hodd => absurd hodd (by omega)⟩
  · exact fun h => ⟨h.low_le, (hhigh 2).le, fun hodd => absurd hodd (by omega)⟩

theorem RoundsAt.le_of_lt {m n : Nat} {e : Int} {v : ℚ} (h : RoundsAt m e v)
    (hv : v < magnitude n e) : m ≤ n := by
  rw [← magnitude_half] at hv
  have hlt := magnitude_lt_iff.mp (h.low_le.trans_lt hv)
  omega

theorem RoundsAt.le_of_le {m n : Nat} {e : Int} {v : ℚ} (h : RoundsAt m e v)
    (hv : magnitude n e ≤ v) : n ≤ m := by
  rw [← magnitude_half] at hv
  have hle := magnitude_le_iff.mp (hv.trans h.le_high)
  omega

theorem ofRatio_eq (p : Precision) (negative : Bool) {num den : Nat} {e : Int}
    (he : (if num = 0 then p.least else roundingExponent p num den) = e) {m : Nat}
    (hm : roundEven (num * (powRatio 2 e).2) (den * (powRatio 2 e).1) = m) :
    ofRatio p negative num den =
      if h : p.Holds m e then .finite negative m e h
      else if h : p.Holds (Nat.pow 2 (p.bits - 1)) (e + 1) then .finite negative _ _ h
      else .infinite negative := by
  subst he hm
  rfl

theorem ofRatio_eq_of_pos (p : Precision) (negative : Bool) {num den : Nat} (hnum : 0 < num)
    {e : Int} (he : roundingExponent p num den = e) {m : Nat}
    (hm : roundEven (num * (powRatio 2 e).2) (den * (powRatio 2 e).1) = m) :
    ofRatio p negative num den =
      if h : p.Holds m e then .finite negative m e h
      else if h : p.Holds (Nat.pow 2 (p.bits - 1)) (e + 1) then .finite negative _ _ h
      else .infinite negative :=
  ofRatio_eq p negative ((if_neg hnum.ne').trans he) hm

/-- The mantissa with only its first bit, and the one that is too long for the precision. -/
theorem first_bit {p : Precision} (hbits : 1 < p.bits) :
    2 * Nat.pow 2 (p.bits - 1) = Nat.pow 2 p.bits ∧ Nat.pow 2 (p.bits - 1) % 2 = 0 := by
  obtain ⟨k, hk⟩ : ∃ k, p.bits = k + 2 := ⟨p.bits - 2, by omega⟩
  rw [hk]
  exact ⟨(Nat.pow_succ' (n := k + 1)).symm,
    (congrArg (· % 2) (Nat.pow_succ' (n := k))).trans (Nat.mul_mod_right 2 _)⟩

section

variable {p : Precision} {m : Nat} {e : Int} (h : p.Holds m e) (hm : 0 < m) (hbits : 1 < p.bits)
  {num den : Nat} (hnum : 0 < num) (hden : 0 < den) (negative : Bool)
include hm hbits hnum hden

/-- What becomes a datum lies in its interval: the mantissa was nearest, or it was too long by no
more than the carry. -/
theorem roundsTo_of_ofRatio_eq (hdatum : ofRatio p negative num den = .finite negative m e h) :
    RoundsTo p m e ((num : ℚ) / den) := by
  obtain ⟨htop, heven⟩ := first_bit hbits
  obtain ⟨r, hr⟩ : ∃ r, roundingExponent p num den = r := ⟨_, rfl⟩
  obtain ⟨n, hn⟩ : ∃ n, roundEven (num * (powRatio 2 r).2) (den * (powRatio 2 r).1) = n := ⟨_, rfl⟩
  rw [ofRatio_eq_of_pos p negative hnum hr hn] at hdatum
  rw [roundEven_powRatio_iff hden] at hn
  obtain ⟨hleast, hlt, hfull⟩ :=
    (roundingExponent_eq_iff hnum hden p (Nat.zero_lt_of_lt hbits) r).mp hr
  split at hdatum
  · obtain ⟨-, rfl, rfl⟩ := Binary.finite.inj hdatum
    by_cases hshort : n = Nat.pow 2 (p.bits - 1) ∧ p.least < r
    · have hle : magnitude n r ≤ (num : ℚ) / den := hshort.1 ▸ hfull.resolve_left (by omega)
      exact (roundsTo_iff_roundsAt_of_le hm hle).mpr hn
    · exact (roundsTo_iff_roundsAt hshort).mpr hn
  · rename_i hnot
    split at hdatum
    · obtain ⟨-, rfl, rfl⟩ := Binary.finite.inj hdatum
      have hgreatest : r + 1 ≤ p.greatest := h.2.2.1
      have hnle : n ≤ Nat.pow 2 p.bits := hn.le_of_lt hlt
      have hnge : Nat.pow 2 p.bits ≤ n := by
        by_contra hfits
        exact hnot ⟨Nat.lt_of_not_le hfits, hleast, by omega, (hfull.imp id hn.le_of_le).symm⟩
      obtain rfl : n = 2 * Nat.pow 2 (p.bits - 1) := by omega
      refine (roundsTo_iff_roundsAt_of_lt ⟨rfl, by omega⟩ heven ?_).mpr ?_
      · rwa [← magnitude_half, htop, Int.add_sub_cancel]
      · rwa [Int.add_sub_cancel]
    · exact absurd hdatum (by simp)

theorem ofRatio_eq_of_roundsTo (hv : RoundsTo p m e ((num : ℚ) / den)) :
    ofRatio p negative num den = .finite negative m e h := by
  obtain ⟨htop, heven⟩ := first_bit hbits
  have hround := fun r => (roundingExponent_eq_iff hnum hden p (Nat.zero_lt_of_lt hbits) r).mpr
  have hnearest : ∀ n r, RoundsAt n r ((num : ℚ) / den) →
      roundEven (num * (powRatio 2 r).2) (den * (powRatio 2 r).1) = n := fun n r =>
    (roundEven_powRatio_iff hden n r).mpr
  generalize (num : ℚ) / den = v at hv hround hnearest
  obtain ⟨hlt, hleast, -, hnormal⟩ := id h
  by_cases hcarry : (m = Nat.pow 2 (p.bits - 1) ∧ p.least < e) ∧ v < magnitude m e
  · obtain ⟨⟨rfl, hleast⟩, hbelow⟩ := hcarry
    obtain ⟨r, rfl⟩ : ∃ r, e = r + 1 := ⟨e - 1, by omega⟩
    have hat := (roundsTo_iff_roundsAt_of_lt ⟨rfl, hleast⟩ heven hbelow).mp hv
    rw [← magnitude_half, htop] at hbelow
    rw [Int.add_sub_cancel] at hat hbelow
    have hfull : magnitude (Nat.pow 2 (p.bits - 1)) r ≤ v := by
      rw [← magnitude_half]
      exact (magnitude_le_iff.mpr (by omega)).trans hat.low_le
    rw [ofRatio_eq_of_pos p negative hnum (hround _ ⟨by omega, hbelow, .inr hfull⟩)
      (hnearest _ _ hat), dif_neg, dif_pos h]
    rintro ⟨hfits, -⟩
    omega
  · have hat : RoundsAt m e v := by
      by_cases hshort : m = Nat.pow 2 (p.bits - 1) ∧ p.least < e
      · exact (roundsTo_iff_roundsAt_of_le hm (not_lt.mp fun hlt => hcarry ⟨hshort, hlt⟩)).mp hv
      · exact (roundsTo_iff_roundsAt hshort).mp hv
    have hbelow : v < magnitude (Nat.pow 2 p.bits) e := by
      rw [← magnitude_half]
      exact hat.le_high.trans_lt (magnitude_lt_iff.mpr (by omega))
    have hfull : e = p.least ∨ magnitude (Nat.pow 2 (p.bits - 1)) e ≤ v := by
      rcases Int.lt_or_eq_of_le hleast with hhigher | heq
      · rcases Nat.eq_or_lt_of_le (hnormal.resolve_right hhigher.ne') with hfirst | hmore
        · rw [hfirst]
          exact .inr (not_lt.mp fun hlt => hcarry ⟨⟨hfirst.symm, hhigher⟩, hlt⟩)
        · rw [← magnitude_half]
          exact .inr ((magnitude_le_iff.mpr (by omega)).trans hat.low_le)
      · exact .inl heq.symm
    rw [ofRatio_eq_of_pos p negative hnum (hround _ ⟨hleast, hbelow, hfull⟩) (hnearest _ _ hat),
      dif_pos h]

/-- **What is rounded to a datum** is its rounding interval. -/
theorem ofRatio_eq_finite_iff :
    ofRatio p negative num den = .finite negative m e h ↔ RoundsTo p m e ((num : ℚ) / den) :=
  ⟨roundsTo_of_ofRatio_eq h hm hbits hnum hden negative,
    ofRatio_eq_of_roundsTo h hm hbits hnum hden negative⟩

end

/-! ## 6. Exact quotients -/

theorem roundsTo_magnitude (p : Precision) {m : Nat} (hm : 0 < m) (e : Int) :
    RoundsTo p m e (magnitude m e) := by
  refine (roundsTo_iff_roundsAt_of_le hm le_rfl).mpr ?_
  rw [RoundsAt, ← magnitude_half m e]
  exact ⟨magnitude_le_iff.mpr (by omega), magnitude_le_iff.mpr (by omega),
    fun hodd => ⟨magnitude_lt_iff.mpr (by omega), magnitude_lt_iff.mpr (by omega)⟩⟩

/-- Zero is at the least exponent. -/
theorem ofRatio_zero {p : Precision} {e : Int} (h : p.Holds 0 e) {den : Nat} (hden : 0 < den)
    (negative : Bool) : ofRatio p negative 0 den = .finite negative 0 e h := by
  obtain rfl : e = p.least := h.2.2.2.resolve_left (Nat.not_le.mpr (Nat.pow_pos two_pos))
  have hunit : 0 < den * (powRatio 2 p.least).1 := Nat.mul_pos hden (powRatio_pos two_pos _).1
  have hm : roundEven (0 * (powRatio 2 p.least).2) (den * (powRatio 2 p.least).1) = 0 := by
    rw [Nat.zero_mul]
    simpa using roundEven_mul hunit 0
  rw [ofRatio_eq p negative (if_pos rfl) hm, dif_pos h]

/-- **A quotient that is the value of a datum becomes this datum.** -/
theorem ofRatio_eq_finite {p : Precision} {m : Nat} {e : Int} (h : p.Holds m e)
    (hbits : 1 < p.bits) {num den : Nat} (hden : 0 < den)
    (hvalue : (num : ℚ) / den = magnitude m e) (negative : Bool) :
    ofRatio p negative num den = .finite negative m e h := by
  have hdenpos : (0 : ℚ) < den := Nat.cast_pos.mpr hden
  rcases Nat.eq_zero_or_pos m with rfl | hm
  · have hnum : (num : ℚ) = 0 := by
      rw [magnitude, Nat.cast_zero, zero_mul] at hvalue
      exact (div_eq_zero_iff.mp hvalue).resolve_right hdenpos.ne'
    obtain rfl : num = 0 := Nat.cast_eq_zero.mp hnum
    exact ofRatio_zero h hden negative
  · have hpos : (0 : ℚ) < num := by
      have hdiv : (0 : ℚ) < num / den := by
        rw [hvalue]
        exact magnitude_pos hm e
      exact (div_pos_iff_of_pos_right hdenpos).mp hdiv
    refine ofRatio_eq_of_roundsTo h hm hbits (Nat.cast_pos.mp hpos) hden negative ?_
    rw [hvalue]
    exact roundsTo_magnitude p hm e

end Binary

end Logbook
