/-
# The shortest decimal

The search for the digits of a datum `m * 2 ^ e` goes from grid to grid, each ten times as fine as
the one before, and looks at the two neighbours of the datum only.  That is enough:

* the first grid is that of the leading digit, whose exponent is computed without a logarithm
  (`decade_eq_log`);
* a grid point is in the interval of the search if it is rounded to the datum
  (`Interval.has_ofBinary_iff`), and if any grid point is, a neighbour is (`nearest?_isSome`);
* the last grid is as fine as a quarter of a unit, so the search does not fail (`fine_of_bits`).

Hence the decimal that is found becomes the datum when it is rounded (`roundsTo_shortest`), and no
decimal with fewer digits does (`shortest_digits_lt`).  A decimal with few digits and a small
exponent need not be on the grid of its length, but then the first grid point above it, at the power
of ten that begins the decade, is in the interval too.
-/
import Logbook.Proofs.Number.Digits
import Logbook.Proofs.Number.Numeral
import Logbook.Proofs.Number.Rounding

namespace Logbook

/-! ## 1. Decades -/

theorem digitCount_bounds {n : Nat} (h : 0 < n) :
    ∃ k, digitCount n = k + 1 ∧ 10 ^ k ≤ n ∧ n < 10 ^ (k + 1) := by
  refine ⟨Nat.log 10 n, ?_, Nat.pow_log_le_self 10 h.ne', Nat.lt_pow_succ_log_self (by decide) n⟩
  rw [digitCount, if_neg h.ne', length_toDigits (by decide)]

/-- **The decade of a quotient** is its logarithm. -/
theorem decade_eq_log {num den : Nat} (hnum : 0 < num) (hden : 0 < den) :
    decade num den = Int.log 10 ((num : ℚ) / den) := by
  have hdenpos : (0 : ℚ) < den := Nat.cast_pos.mpr hden
  have hpos : (0 : ℚ) < num / den := div_pos (Nat.cast_pos.mpr hnum) hdenpos
  suffices h : ((10 : Nat) : ℚ) ^ decade num den ≤ num / den ∧
      (num : ℚ) / den < ((10 : Nat) : ℚ) ^ (decade num den + 1) by
    have hge := (Int.zpow_le_iff_le_log (by decide) hpos).mp h.1
    have hlt := (Int.lt_zpow_iff_log_lt (by decide) hpos).mp h.2
    omega
  rw [le_div_iff₀ hdenpos, div_lt_iff₀ hdenpos]
  unfold decade
  split
  · rename_i hle
    obtain ⟨k, hk, hlow, hhigh⟩ := digitCount_bounds (Nat.div_pos hle hden)
    rw [hk]
    have hdiv : num / den * den ≤ num := Nat.div_mul_le_self num den
    have hmod : num < (num / den + 1) * den := by
      rw [Nat.succ_mul]
      exact Nat.lt_div_mul_add hden
    have h1 : 10 ^ k * den ≤ num := (Nat.mul_le_mul_right _ hlow).trans hdiv
    have h2 : num < 10 ^ (k + 1) * den := hmod.trans_le (Nat.mul_le_mul_right _ hhigh)
    have hexp : ((k + 1 : Nat) : Int) - 1 = k := by omega
    rw [hexp]
    constructor
    · exact_mod_cast h1
    · exact_mod_cast h2
  · rename_i hlt
    have hcount : (den + num - 1) / num - 1 = (den - 1) / num := by
      rw [show den + num - 1 = den - 1 + num by omega, Nat.add_div_right _ hnum,
        Nat.succ_sub_one]
    obtain ⟨k, hk, hlow, hhigh⟩ :=
      digitCount_bounds (Nat.div_pos (show num ≤ den - 1 by omega) hnum)
    rw [hcount, hk]
    have hdiv : (den - 1) / num * num ≤ den - 1 := Nat.div_mul_le_self _ num
    have hmod : den - 1 < ((den - 1) / num + 1) * num := by
      rw [Nat.succ_mul]
      exact Nat.lt_div_mul_add hnum
    have h1 : 10 ^ k * num ≤ den - 1 := (Nat.mul_le_mul_right _ hlow).trans hdiv
    have h2 : den - 1 < 10 ^ (k + 1) * num := hmod.trans_le (Nat.mul_le_mul_right _ hhigh)
    have hexp : -((k + 1 : Nat) : Int) + 1 = -k := by omega
    rw [hexp, zpow_neg, zpow_neg, zpow_natCast, zpow_natCast]
    constructor
    · rw [inv_mul_le_iff₀ (by positivity)]
      exact_mod_cast show den ≤ 10 ^ (k + 1) * num by omega
    · rw [lt_inv_mul_iff₀ (by positivity)]
      exact_mod_cast show 10 ^ k * num < den by omega

/-! ## 2. Rounding intervals on decimal grids -/

namespace Decimal

/-- The number that a decimal stands for. -/
def value (d : Decimal) : ℚ := d.digits * 10 ^ d.exponent

theorem value_dropZero (d : Decimal) : d.dropZero.value = d.value := by
  unfold dropZero
  split
  · rename_i h
    have hdigits : ((10 * (d.digits / 10) : Nat) : ℚ) = d.digits := by
      rw [Nat.mul_div_cancel' (Nat.dvd_of_mod_eq_zero h)]
    rw [value, value, ← hdigits, zpow_add_one₀ (by decide)]
    push_cast
    ring
  · rfl

/-- A power of ten loses a digit. -/
theorem dropZero_digits_lt {d : Decimal} {n : Nat} (h : d.digits ≤ 10 ^ (n + 1)) :
    d.dropZero.digits < 10 ^ (n + 1) := by
  have hpow : 10 ^ (n + 1) = 10 ^ n * 10 := pow_succ 10 n
  have hpos : 0 < 10 ^ n := Nat.pow_pos (by decide)
  unfold dropZero
  split
  · change d.digits / 10 < 10 ^ (n + 1)
    omega
  · rename_i hlast
    omega

end Decimal

namespace Interval

variable (p : Precision) (m : Nat) (e k : Int)

theorem ofBinary_eq : ofBinary p m e k =
    { step := (powRatio 10 k).1 * (powRatio 2 (e - 2)).2
      low := (4 * m - Binary.quartersBelow p m e) * ((powRatio 2 (e - 2)).1 * (powRatio 10 k).2)
      value := 4 * m * ((powRatio 2 (e - 2)).1 * (powRatio 10 k).2)
      high := (4 * m + 2) * ((powRatio 2 (e - 2)).1 * (powRatio 10 k).2)
      closed := m % 2 = 0 } := rfl

theorem has_iff (i : Interval) (d : Nat) :
    i.has d = true ↔ i.low ≤ d * i.step ∧ d * i.step ≤ i.high ∧
      (i.closed = false → i.low < d * i.step ∧ d * i.step < i.high) := by
  unfold has
  cases i.closed with
  | true => simp
  | false =>
    simp only [Bool.false_eq_true, if_false, Bool.and_eq_true, decide_eq_true_eq, true_implies]
    exact ⟨fun h => ⟨h.1.le, h.2.le, h⟩, fun h => h.2.2⟩

/-- The ends of the interval and the points of the grid, over one denominator. -/
theorem exists_unit : ∃ (unit : Nat) (c : ℚ), 0 < unit ∧ 0 < c ∧
    (ofBinary p m e k).low = (4 * m - Binary.quartersBelow p m e) * unit ∧
    (ofBinary p m e k).value = 4 * m * unit ∧ (ofBinary p m e k).high = (4 * m + 2) * unit ∧
    (∀ a, Binary.magnitude a (e - 2) = ((a * unit : Nat) : ℚ) / c) ∧
    ∀ d : Nat, (d : ℚ) * 10 ^ k = ((d * (ofBinary p m e k).step : Nat) : ℚ) / c := by
  have h2 : ((powRatio 2 (e - 2)).1 : ℚ) / (powRatio 2 (e - 2)).2 = 2 ^ (e - 2) := powRatio_div 2 _
  have h10 : ((powRatio 10 k).1 : ℚ) / (powRatio 10 k).2 = 10 ^ k := powRatio_div 10 k
  obtain ⟨hup2, hdown2⟩ := powRatio_pos (show 0 < 2 by decide) (e - 2)
  obtain ⟨-, hdown10⟩ := powRatio_pos (show 0 < 10 by decide) k
  refine ⟨(powRatio 2 (e - 2)).1 * (powRatio 10 k).2, (powRatio 2 (e - 2)).2 * (powRatio 10 k).2,
    Nat.mul_pos hup2 hdown10, by positivity, rfl, rfl, rfl, fun a => ?_, fun d => ?_⟩
  · rw [Binary.magnitude, ← h2]
    push_cast
    field_simp
  · rw [ofBinary_eq, ← h10]
    push_cast
    field_simp

theorem step_pos : 0 < (ofBinary p m e k).step :=
  Nat.mul_pos (powRatio_pos (by decide) k).1 (powRatio_pos (by decide) (e - 2)).2

/-- **A grid point is in the interval** if it is rounded to the datum. -/
theorem has_ofBinary_iff (d : Nat) :
    (ofBinary p m e k).has d = true ↔ Binary.RoundsTo p m e (d * 10 ^ k) := by
  obtain ⟨unit, c, -, hc, hlow, -, hhigh, hmagnitude, hpoint⟩ := exists_unit p m e k
  rw [has_iff, hlow, hhigh, Binary.RoundsTo, hmagnitude, hmagnitude, hpoint,
    Binary.rounds_div_iff hc]
  simp [ofBinary_eq]

/-- The grid points above the datum. -/
theorem value_lt_iff (d : Nat) : (ofBinary p m e k).value < d * (ofBinary p m e k).step ↔
    Binary.magnitude m e < d * 10 ^ k := by
  obtain ⟨unit, c, -, hc, -, hvalue, -, hmagnitude, hpoint⟩ := exists_unit p m e k
  rw [hvalue, ← Binary.magnitude_quarter, hmagnitude, hpoint, div_lt_div_iff_of_pos_right hc,
    Nat.cast_lt]

variable {m} (hm : 0 < m)
include hm

theorem ofBinary_bounds : (ofBinary p m e k).low < (ofBinary p m e k).value ∧
    (ofBinary p m e k).value < (ofBinary p m e k).high := by
  obtain ⟨unit, -, hunit, -, hlow, hvalue, hhigh, -, -⟩ := exists_unit p m e k
  have hquarters := Binary.quartersBelow_bounds p m e
  rw [hlow, hvalue, hhigh]
  exact ⟨Nat.mul_lt_mul_of_pos_right (by omega) hunit,
    Nat.mul_lt_mul_of_pos_right (by omega) hunit⟩

/-- On a grid as fine as a quarter of a unit, the lower neighbour is in the interval. -/
theorem has_of_fine (h : (10 : ℚ) ^ k ≤ Binary.magnitude 1 (e - 2)) :
    (ofBinary p m e k).has ((ofBinary p m e k).value / (ofBinary p m e k).step) = true := by
  obtain ⟨unit, c, -, hc, hlow, hvalue, -, hmagnitude, hpoint⟩ := exists_unit p m e k
  obtain ⟨-, hhigh⟩ := ofBinary_bounds p e k hm
  have hstep := step_pos p m e k
  have hfine : (ofBinary p m e k).step ≤ unit := by
    have hone := hpoint 1
    rw [Nat.cast_one, one_mul, Nat.one_mul] at hone
    rw [hone, hmagnitude, Nat.one_mul, div_le_div_iff_of_pos_right hc, Nat.cast_le] at h
    exact h
  have hbelow : (ofBinary p m e k).low + unit ≤ (ofBinary p m e k).value := by
    have hquarters := Binary.quartersBelow_bounds p m e
    rw [hlow, hvalue, ← Nat.succ_mul]
    exact Nat.mul_le_mul_right unit (by omega)
  have hfloor := Nat.div_mul_le_self (ofBinary p m e k).value (ofBinary p m e k).step
  have hceil := Nat.lt_div_mul_add (a := (ofBinary p m e k).value) hstep
  rw [has_iff]
  omega

omit hm

/-- If a grid point is in the interval, one of the neighbours is. -/
theorem nearest?_isSome {i : Interval} (hlow : i.low < i.value) (hhigh : i.value < i.high)
    (hstep : 0 < i.step) {d : Nat} (h : i.has d = true) (tie : Tie) :
    (i.nearest? tie).isSome = true := by
  have hfloor : i.value / i.step * i.step ≤ i.value := Nat.div_mul_le_self _ _
  have hceil : i.value < (i.value / i.step + 1) * i.step := by
    rw [Nat.succ_mul]
    exact Nat.lt_div_mul_add hstep
  have hnear : i.has (i.value / i.step) = true ∨ i.has (i.value / i.step + 1) = true := by
    obtain ⟨hle, hge, hopen⟩ := (has_iff i d).mp h
    rcases Nat.lt_or_ge (i.value / i.step) d with habove | hbelow
    · have hmul : (i.value / i.step + 1) * i.step ≤ d * i.step := Nat.mul_le_mul_right _ habove
      refine .inr ((has_iff i _).mpr ⟨by omega, by omega, fun h => ?_⟩)
      have := hopen h
      omega
    · have hmul : d * i.step ≤ i.value / i.step * i.step := Nat.mul_le_mul_right _ hbelow
      refine .inl ((has_iff i _).mpr ⟨by omega, by omega, fun h => ?_⟩)
      have := hopen h
      omega
  unfold nearest?
  dsimp only
  split
  · rename_i hbelow habove
    rw [hbelow, habove] at hnear
    exact absurd hnear (by decide)
  · rfl
  · rfl
  · split
    · rfl
    · split
      · rfl
      · cases tie <;> rfl

end Interval

/-! ## 3. The search -/

namespace Binary

/-- The exponent of the leading decimal digit. -/
def leading (m : Nat) (e : Int) : Int := Int.log 10 (magnitude m e)

variable {m : Nat} (hm : 0 < m) (e : Int)
include hm

theorem decade_ratio : decade (ratio m e).1 (ratio m e).2 = leading m e := by
  have hnum : 0 < (ratio m e).1 := Nat.mul_pos hm (powRatio_pos two_pos e).1
  rw [decade_eq_log hnum (ratio_snd_pos m e), ratio_div]
  rfl

theorem leading_bounds :
    (10 : ℚ) ^ leading m e ≤ magnitude m e ∧ magnitude m e < 10 ^ (leading m e + 1) :=
  ⟨Int.zpow_log_le_self (b := 10) (by decide) (magnitude_pos hm e),
    Int.lt_zpow_succ_log_self (b := 10) (by decide) _⟩

/-- The last grid that is tried is as fine as a quarter of a unit. -/
theorem fine_of_bits {p : Precision} (hbits : 3 ≤ p.bits) (h : p.Holds m e) :
    (10 : ℚ) ^ (leading m e - (p.bits - 1 : Nat)) ≤ magnitude 1 (e - 2) := by
  have hpow : ∀ b, 3 ≤ b → 4 * Nat.pow 2 b ≤ 10 ^ (b - 1) := by
    intro b hb
    obtain ⟨k, rfl⟩ := Nat.exists_eq_add_of_le' hb
    have hbase : (2 : Nat) ^ k ≤ 10 ^ k := Nat.pow_le_pow_left (by decide) k
    change 4 * 2 ^ (k + 3) ≤ 10 ^ (k + 2)
    rw [Nat.pow_add, Nat.pow_add]
    omega
  rw [zpow_sub₀ (by decide), zpow_natCast, div_le_iff₀ (by positivity)]
  calc (10 : ℚ) ^ leading m e ≤ magnitude m e := (leading_bounds hm e).1
    _ ≤ magnitude (Nat.pow 2 p.bits) e := magnitude_le_iff.mpr h.1.le
    _ = magnitude (4 * Nat.pow 2 p.bits) (e - 2) := (magnitude_quarter _ e).symm
    _ ≤ magnitude (10 ^ (p.bits - 1)) (e - 2) := magnitude_le_iff.mpr (hpow _ hbits)
    _ = magnitude 1 (e - 2) * 10 ^ (p.bits - 1) := by
      rw [magnitude, magnitude, Nat.cast_one, one_mul, mul_comm]
      push_cast
      rfl

end Binary

theorem exists_of_findSome?_range {β : Type} {f : Nat → Option β} {b : β} {n : Nat}
    (h : (List.range n).findSome? f = some b) : ∃ k < n, f k = some b ∧ ∀ j < k, f j = none := by
  induction n with
  | zero => exact absurd h (by simp)
  | succ n ih =>
    rw [List.range_succ, List.findSome?_append] at h
    cases hfirst : (List.range n).findSome? f with
    | some c =>
      rw [hfirst] at h
      obtain ⟨k, hk, hfound, hbefore⟩ := ih (hfirst.trans h)
      exact ⟨k, Nat.lt_succ_of_lt hk, hfound, hbefore⟩
    | none =>
      rw [hfirst, Option.none_or] at h
      refine ⟨n, Nat.lt_succ_self n, by simpa using h, fun j hj => ?_⟩
      exact List.findSome?_eq_none_iff.mp hfirst j (List.mem_range.mpr hj)

section

variable {p : Precision} {m : Nat} {e : Int} (hm : 0 < m)
include hm

/-- A grid with a point in the interval is not passed over. -/
theorem isSome_of_roundsTo {k : Int} {d : Nat} (h : Binary.RoundsTo p m e (d * 10 ^ k))
    (tie : Tie) :
    ((Interval.ofBinary p m e k).nearest? tie).isSome = true := by
  obtain ⟨hlow, hhigh⟩ := Interval.ofBinary_bounds p e k hm
  exact Interval.nearest?_isSome hlow hhigh (Interval.step_pos p m e k)
    ((Interval.has_ofBinary_iff p m e k d).mpr h) tie

/-- What is found on the grid of the `n`-th digit has that many digits, or is a power of ten. -/
theorem le_of_nearest? {n d : Nat} {tie : Tie}
    (h : (Interval.ofBinary p m e (Binary.leading m e - n)).nearest? tie = some d) :
    d ≤ 10 ^ (n + 1) := by
  have hdigits : (Interval.ofBinary p m e (Binary.leading m e - n)).value <
      10 ^ (n + 1) * (Interval.ofBinary p m e (Binary.leading m e - n)).step := by
    rw [Interval.value_lt_iff]
    push_cast
    rw [← zpow_natCast, ← zpow_add₀ (by decide)]
    refine (Binary.leading_bounds hm e).2.trans_eq ?_
    congr 1
    push_cast
    omega
  have hdiv := (Nat.div_lt_iff_lt_mul (Interval.step_pos p m e _)).mpr hdigits
  have hle := (Interval.has_of_nearest? h).2
  omega

/-- **The search stops at the first grid** that has a point in the interval. -/
theorem exists_shortest (hbits : 3 ≤ p.bits) (h : p.Holds m e) (tie : Tie) :
    ∃ n d : Nat, shortest p tie m e = Decimal.dropZero ⟨d, Binary.leading m e - n⟩ ∧
      Binary.RoundsTo p m e (d * 10 ^ (Binary.leading m e - n)) ∧ d ≤ 10 ^ (n + 1) ∧
      ∀ k < n, ∀ d' : Nat, ¬ Binary.RoundsTo p m e (d' * 10 ^ (Binary.leading m e - k)) := by
  obtain ⟨f, hf⟩ : ∃ f, f = fun n : Nat =>
      ((Interval.ofBinary p m e (Binary.leading m e - n)).nearest? tie).map
        fun d => Decimal.dropZero ⟨d, Binary.leading m e - n⟩ := ⟨_, rfl⟩
  have hshortest : shortest p tie m e = ((List.range p.bits).findSome? f).getD ⟨m, 0⟩ := by
    rw [hf, ← Binary.decade_ratio hm]
    rfl
  cases hfound : (List.range p.bits).findSome? f with
  | none =>
    -- the last grid is fine enough
    have hfine := Interval.has_of_fine p e _ hm (Binary.fine_of_bits hm e hbits h)
    have hsome := isSome_of_roundsTo hm ((Interval.has_ofBinary_iff p m e _ _).mp hfine) tie
    have hlast := List.findSome?_eq_none_iff.mp hfound (p.bits - 1) (List.mem_range.mpr (by omega))
    rw [hf, Option.map_eq_none_iff] at hlast
    rw [hlast] at hsome
    exact absurd hsome (by decide)
  | some decimal =>
    obtain ⟨n, -, hn, hbefore⟩ := exists_of_findSome?_range hfound
    rw [hf] at hn hbefore
    obtain ⟨d, hd, rfl⟩ := Option.map_eq_some_iff.mp hn
    refine ⟨n, d, by rw [hshortest, hfound, Option.getD_some],
      (Interval.has_ofBinary_iff p m e _ d).mp (Interval.has_of_nearest? hd).1,
      le_of_nearest? hm hd, fun k hk d' hd' => ?_⟩
    have hsome := isSome_of_roundsTo hm hd' tie
    rw [Option.map_eq_none_iff.mp (hbefore k hk)] at hsome
    exact absurd hsome (by decide)

/-- **The shortest decimal** becomes the datum when it is rounded. -/
theorem roundsTo_shortest (hbits : 3 ≤ p.bits) (h : p.Holds m e) (tie : Tie) :
    Binary.RoundsTo p m e (shortest p tie m e).value := by
  obtain ⟨n, d, hshortest, hround, -, -⟩ := exists_shortest hm hbits h tie
  rw [hshortest, Decimal.value_dropZero]
  exact hround

/-- A decimal that becomes the datum has company on the grid of its last digit. -/
theorem exists_grid_point {d : Decimal} (hd : Binary.RoundsTo p m e d.value) {s : Nat}
    (hs : d.digits < 10 ^ (s + 1)) :
    ∃ d' : Nat, Binary.RoundsTo p m e (d' * 10 ^ (Binary.leading m e - s)) := by
  rcases lt_or_ge d.exponent (Binary.leading m e - s) with hfine | hcoarse
  · -- the decimal is below the power of ten at the leading digit, and this is below the datum
    refine ⟨10 ^ s, ?_⟩
    have hpower : ((10 ^ s : Nat) : ℚ) * 10 ^ (Binary.leading m e - s) =
        10 ^ Binary.leading m e := by
      push_cast
      rw [← zpow_natCast, ← zpow_add₀ (by decide)]
      congr 1
      omega
    have hbelow : d.value ≤ 10 ^ Binary.leading m e := by
      calc d.value ≤ ((10 ^ (s + 1) : Nat) : ℚ) * 10 ^ d.exponent :=
            mul_le_mul_of_nonneg_right (Nat.cast_le.mpr hs.le) (zpow_pos (by decide) _).le
        _ = 10 ^ ((s + 1 : Nat) + d.exponent) := by
            push_cast
            rw [zpow_add₀ (by decide), ← zpow_natCast]
            push_cast
            rfl
        _ ≤ 10 ^ Binary.leading m e := zpow_le_zpow_right₀ (by decide) (by omega)
    rw [hpower]
    exact hd.between (Binary.roundsTo_magnitude p hm e) hbelow (Binary.leading_bounds hm e).1
  · refine ⟨d.digits * 10 ^ (d.exponent - (Binary.leading m e - s)).toNat, ?_⟩
    have hsame : ((d.digits * 10 ^ (d.exponent - (Binary.leading m e - s)).toNat : Nat) : ℚ) *
        10 ^ (Binary.leading m e - s) = d.value := by
      push_cast
      rw [mul_assoc, ← zpow_natCast, ← zpow_add₀ (by decide), Decimal.value]
      congr 2
      omega
    rw [hsame]
    exact hd

/-- **No decimal with fewer digits** than the shortest one becomes the datum. -/
theorem shortest_digits_lt (hbits : 3 ≤ p.bits) (h : p.Holds m e) (tie : Tie) {d : Decimal}
    (hd : Binary.RoundsTo p m e d.value) {s : Nat} (hs : d.digits < 10 ^ (s + 1)) :
    (shortest p tie m e).digits < 10 ^ (s + 1) := by
  obtain ⟨n, found, hshortest, -, hle, hbefore⟩ := exists_shortest hm hbits h tie
  have hn : n ≤ s := by
    by_contra hlt
    obtain ⟨d', hd'⟩ := exists_grid_point hm hd hs
    exact hbefore s (Nat.lt_of_not_le hlt) d' hd'
  rw [hshortest]
  exact (Decimal.dropZero_digits_lt hle).trans_le (Nat.pow_le_pow_right (by decide) (by omega))

end

end Logbook
