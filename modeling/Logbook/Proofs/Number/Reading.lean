/-
# Floating point texts are read back

The plain text of a finite datum is read as this datum again (`read?_text`), and no decimal with
fewer digits is (`isShortest_text`).

* Reading a row of digits with a point gives the decimal that was written: its digits, and an
  exponent that counts the places behind the point (`read?_positional`).
* Decimals far outside the range are settled without computing a power.  A decimal in the rounding
  interval of a datum is not among them, so reading it is rounding it (`ofDecimal_eq_finite_iff`).
-/
import Logbook.Proofs.Number.Shortest
import Logbook.Proofs.Number.Widening

namespace Logbook

namespace Binary

/-! ## 1. Reading decimals -/

section

variable {p : Precision} {m : Nat} {e : Int}

/-- The interval of a datum does not reach the decimals that are settled at once. -/
theorem RoundsTo.bounds (hw : p.Within .double) (h : p.Holds m e) (hm : 0 < m) {v : ℚ}
    (hv : RoundsTo p m e v) : (10 : ℚ) ^ (-400 : Int) < v ∧ v < 10 ^ (400 : Int) := by
  have hbits : p.bits ≤ 53 := hw.bits
  have hleast : -1074 ≤ e := hw.least.trans h.2.1
  have hgreatest : e ≤ 971 := h.2.2.1.trans hw.greatest
  have hquarters := quartersBelow_bounds p m e
  constructor
  · calc (10 : ℚ) ^ (-400 : Int) < 2 ^ (-1076 : Int) := by
          have hpow : (2 : Nat) ^ 1076 < 10 ^ 400 := by decide +kernel
          rw [zpow_neg, zpow_neg, inv_lt_inv₀ (zpow_pos (by decide) _) (zpow_pos two_pos _)]
          exact_mod_cast hpow
      _ ≤ 2 ^ (e - 2) := zpow_le_zpow_right₀ one_le_two (by omega)
      _ = magnitude 1 (e - 2) := by rw [magnitude, Nat.cast_one, one_mul]
      _ ≤ magnitude (4 * m - quartersBelow p m e) (e - 2) := magnitude_le_iff.mpr (by omega)
      _ ≤ v := hv.low_le
  · calc v ≤ magnitude (4 * m + 2) (e - 2) := hv.le_high
      _ ≤ magnitude (4 * Nat.pow 2 p.bits) (e - 2) := by
          have hlt := h.1
          exact magnitude_le_iff.mpr (by omega)
      _ = 2 ^ (p.bits + e) := by
          rw [magnitude_quarter, magnitude_pow]
          rfl
      _ ≤ 2 ^ (1024 : Int) := zpow_le_zpow_right₀ one_le_two (by omega)
      _ < 10 ^ (400 : Int) := by
          have hpow : (2 : Nat) ^ 1024 < 10 ^ 400 := by decide +kernel
          exact_mod_cast hpow

/-- The length of the digits and the exponent tell the size of a decimal. -/
theorem digitCount_add_bounds {digits : Nat} (h : 0 < digits) (exponent : Int) :
    (10 : ℚ) ^ (digitCount digits + exponent - 1) ≤ digits * 10 ^ exponent ∧
      (digits : ℚ) * 10 ^ exponent < 10 ^ (digitCount digits + exponent) := by
  obtain ⟨k, hk, hlow, hhigh⟩ := digitCount_bounds h
  have hunit : (0 : ℚ) < 10 ^ exponent := zpow_pos (by decide) exponent
  rw [hk]
  constructor
  · rw [show ((k + 1 : Nat) : Int) + exponent - 1 = k + exponent by omega,
      zpow_add₀ (by decide), zpow_natCast]
    exact mul_le_mul_of_nonneg_right (by exact_mod_cast hlow) hunit.le
  · rw [zpow_add₀ (by decide), zpow_natCast]
    exact mul_lt_mul_of_pos_right (by exact_mod_cast hhigh) hunit

/-- **Reading is rounding.** -/
theorem ofDecimal_eq_finite_iff (hw : p.Within .double) (hbits : 1 < p.bits) (h : p.Holds m e)
    (hm : 0 < m) (negative : Bool) (digits : Nat) (exponent : Int) :
    ofDecimal p negative digits exponent = .finite negative m e h ↔
      RoundsTo p m e (digits * 10 ^ exponent) := by
  obtain ⟨hup, hdown⟩ := powRatio_pos (show 0 < 10 by decide) exponent
  have hvalue : ((digits * (powRatio 10 exponent).1 : Nat) : ℚ) / (powRatio 10 exponent).2 =
      digits * 10 ^ exponent := by
    have hpow : ((powRatio 10 exponent).1 : ℚ) / (powRatio 10 exponent).2 = 10 ^ exponent :=
      powRatio_div 10 exponent
    rw [← hpow]
    push_cast
    rw [mul_div_assoc]
  have hzero : ofRatio p negative 0 1 ≠ .finite negative m e h := by
    have hholds : p.Holds 0 p.least :=
      ⟨Nat.pow_pos two_pos, Int.le_refl _, h.2.1.trans h.2.2.1, .inr rfl⟩
    rw [ofRatio_zero hholds Nat.one_pos]
    exact fun heq => hm.ne (Binary.finite.inj heq).2.1
  have hround : 0 < digits → (ofRatio p negative (digits * (powRatio 10 exponent).1)
      (powRatio 10 exponent).2 = .finite negative m e h ↔
        RoundsTo p m e (digits * 10 ^ exponent)) := fun hdigits => by
    rw [ofRatio_eq_finite_iff h hm hbits (Nat.mul_pos hdigits hup) hdown, hvalue]
  -- what lies in the interval is written with digits, and in the range that is not settled at once
  have hrange : RoundsTo p m e (digits * 10 ^ exponent) →
      0 < digits ∧ -400 ≤ digitCount digits + exponent ∧ digitCount digits + exponent ≤ 400 := by
    intro hv
    obtain ⟨hlow, hhigh⟩ := hv.bounds hw h hm
    have hdigits : 0 < digits := by
      rcases Nat.eq_zero_or_pos digits with rfl | hdigits
      · rw [Nat.cast_zero, zero_mul] at hlow
        exact absurd hlow (zpow_pos (by decide) _).not_gt
      · exact hdigits
    obtain ⟨hge, hlt⟩ := digitCount_add_bounds hdigits exponent
    have hfirst := (zpow_lt_zpow_iff_right₀ (by decide)).mp (hlow.trans hlt)
    have hlast := (zpow_lt_zpow_iff_right₀ (by decide)).mp (hge.trans_lt hhigh)
    omega
  unfold ofDecimal
  dsimp only
  split
  · refine ⟨fun heq => absurd heq hzero, fun hv => ?_⟩
    have := hrange hv
    omega
  · split
    · refine ⟨fun heq => absurd heq (by simp), fun hv => ?_⟩
      have := hrange hv
      omega
    · exact hround (by omega)

end

/-! ## 2. Texts of decimals -/

theorem splitDecimal?_of_whole {whole : List Char} (hne : whole ≠ [])
    (hwhole : ∀ c ∈ whole, c.isDigit = true) : splitDecimal? whole = some (whole, [], 0) := by
  have htake : whole.takeWhile Char.isDigit = whole := List.takeWhile_eq_self_iff.mpr hwhole
  have hdrop : whole.dropWhile Char.isDigit = [] := List.dropWhile_eq_nil_iff.mpr hwhole
  simp [splitDecimal?, htake, hdrop, hne]

theorem splitDecimal?_of_fraction {whole fraction : List Char} (hne : whole ≠ [])
    (hwhole : ∀ c ∈ whole, c.isDigit = true) (hfraction : ∀ c ∈ fraction, c.isDigit = true) :
    splitDecimal? (whole ++ '.' :: fraction) = some (whole, fraction, 0) := by
  have htake : (whole ++ '.' :: fraction).takeWhile Char.isDigit = whole := by
    rw [List.takeWhile_append_of_pos hwhole, List.takeWhile_cons_of_neg (by decide),
      List.append_nil]
  have hdrop : (whole ++ '.' :: fraction).dropWhile Char.isDigit = '.' :: fraction := by
    rw [List.dropWhile_append_of_pos hwhole, List.dropWhile_cons_of_neg (by decide)]
  have hall : fraction.takeWhile Char.isDigit = fraction := List.takeWhile_eq_self_iff.mpr hfraction
  have hnone : fraction.dropWhile Char.isDigit = [] := List.dropWhile_eq_nil_iff.mpr hfraction
  simp [splitDecimal?, htake, hdrop, hall, hnone, hne]

/-- The sign is set apart from what begins with a digit. -/
theorem read?_signed (p : Precision) (negative : Bool) {unsigned : List Char}
    (h : ∃ c rest, unsigned = c :: rest ∧ c.isDigit = true) :
    read? p (if negative then '-' :: unsigned else unsigned) =
      (splitDecimal? unsigned).map fun (whole, fraction, e) =>
        ofDecimal p negative (readDigits (readDigits 0 whole) fraction) (e - fraction.length) := by
  obtain ⟨c, rest, rfl, hc⟩ := h
  cases negative with
  | true => rfl
  | false =>
    have hminus : c ≠ '-' := by
      rintro rfl
      exact absurd hc (by decide)
    have hplus : c ≠ '+' := by
      rintro rfl
      exact absurd hc (by decide)
    simp [read?, hminus, hplus]

section

variable (p : Precision) (negative : Bool) {whole fraction : List Char} {n : Nat}
  (hne : whole ≠ [])
include hne

theorem exists_first_digit (hdigits : ∀ c ∈ whole, c.isDigit = true) (rest : List Char) :
    ∃ c tail, whole ++ rest = c :: tail ∧ c.isDigit = true := by
  obtain ⟨c, tail, rfl⟩ := List.exists_cons_of_ne_nil hne
  exact ⟨c, tail ++ rest, rfl, hdigits c List.mem_cons_self⟩

theorem read?_of_whole (h : WrittenIn decimalDigits whole n) :
    read? p (if negative then '-' :: whole else whole) = some (ofDecimal p negative n 0) := by
  have hdigits : ∀ c ∈ whole, c.isDigit = true := fun c hc =>
    isDigit_of_mem_decimalDigits (h.mem c hc)
  have hfirst : ∃ c tail, whole = c :: tail ∧ c.isDigit = true := by
    have h := exists_first_digit hne hdigits []
    rwa [List.append_nil] at h
  rw [read?_signed p negative hfirst, splitDecimal?_of_whole hne hdigits, Option.map_some]
  change some (ofDecimal p negative (Binary.readDigits 0 whole) 0) = _
  rw [h.readDigits]

theorem read?_of_fraction (h : WrittenIn decimalDigits (whole ++ fraction) n) :
    read? p (if negative then '-' :: (whole ++ '.' :: fraction) else whole ++ '.' :: fraction) =
      some (ofDecimal p negative n (-fraction.length)) := by
  have hwhole : ∀ c ∈ whole, c.isDigit = true := fun c hc =>
    isDigit_of_mem_decimalDigits (h.mem c (List.mem_append_left _ hc))
  have hfraction : ∀ c ∈ fraction, c.isDigit = true := fun c hc =>
    isDigit_of_mem_decimalDigits (h.mem c (List.mem_append_right _ hc))
  have hread : readDigits (readDigits 0 whole) fraction = n :=
    List.foldl_append.symm.trans h.readDigits
  rw [read?_signed p negative (exists_first_digit hne hwhole _),
    splitDecimal?_of_fraction hne hwhole hfraction, Option.map_some]
  dsimp only
  rw [hread, Int.zero_sub]

end

/-- **A decimal is read from its text**, with zeros where the text has them. -/
theorem read?_positional (p : Precision) (negative : Bool) (d : Decimal) :
    ∃ (n : Nat) (exponent : Int), (n : ℚ) * 10 ^ exponent = d.value ∧
      read? p (if negative then '-' :: d.positional else d.positional) =
        some (ofDecimal p negative n exponent) := by
  have hdigits : WrittenIn decimalDigits (decimal d.digits) d.digits := writtenIn_decimal d.digits
  by_cases hexponent : 0 ≤ d.exponent
  · have htext : d.positional = decimal d.digits ++ List.replicate d.exponent.toNat '0' :=
      if_pos hexponent
    have hne : decimal d.digits ++ List.replicate d.exponent.toNat '0' ≠ [] :=
      List.append_ne_nil_of_left_ne_nil Nat.toDigits_ne_nil _
    rw [htext]
    refine ⟨_, 0, ?_, read?_of_whole p negative hne (hdigits.append_zeros rfl _)⟩
    obtain ⟨k, hk⟩ := Int.eq_ofNat_of_zero_le hexponent
    rw [Decimal.value, hk, zpow_zero, mul_one, zpow_natCast, Int.toNat_natCast]
    push_cast
    rfl
  · have htext : d.positional =
        let ds := padZeros ((-d.exponent).toNat + 1) (decimal d.digits)
        ds.take (ds.length - (-d.exponent).toNat) ++
          '.' :: ds.drop (ds.length - (-d.exponent).toNat) := if_neg hexponent
    rw [htext]
    dsimp only
    generalize hplaces : (-d.exponent).toNat = places
    have hpadded := hdigits.padZeros (places + 1) rfl
    have hlength := length_padZeros (places + 1) (decimal d.digits)
    generalize padZeros (places + 1) (decimal d.digits) = ds at hpadded hlength
    rw [← List.take_append_drop (ds.length - places) ds] at hpadded
    have hne : ds.take (ds.length - places) ≠ [] := by
      intro hnil
      have := congrArg List.length hnil
      rw [List.length_take, List.length_nil] at this
      omega
    refine ⟨d.digits, _, ?_, read?_of_fraction p negative hne hpadded⟩
    rw [Decimal.value, List.length_drop]
    congr 2
    omega

/-! ## 3. Texts of data -/

/-- A text is a decimal that is read as the datum, and no decimal with fewer digits is. -/
structure IsShortest {p : Precision} (x : Binary p) (text : List Char) : Prop where
  read : read? p text = some x
  shortest : ∃ (negative : Bool) (d : Decimal),
    text = (if negative then '-' :: d.positional else d.positional) ∧
      ∀ (n : Nat) (exponent : Int) (k : Nat), ofDecimal p negative n exponent = x → n < 10 ^ k →
        d.digits < 10 ^ k

section

variable {p : Precision} (hw : p.Within .double) (hbits : 3 ≤ p.bits)
include hw hbits

/-- **The text of a finite datum is read back.** -/
theorem read?_text {x : Binary p} (hx : x.isFinite = true) : read? p x.text = some x := by
  cases x with
  | nan => exact absurd hx Bool.false_ne_true
  | infinite negative => exact absurd hx Bool.false_ne_true
  | finite negative m e h =>
    rw [text_finite]
    rcases Nat.eq_zero_or_pos m with rfl | hm
    · have hzero : WrittenIn decimalDigits ['0'] 0 := decimal_zero ▸ writtenIn_decimal 0
      rw [if_pos rfl, read?_of_whole p negative (by decide) hzero]
      exact congrArg some (ofRatio_zero h Nat.one_pos negative)
    · obtain ⟨n, exponent, hvalue, hread⟩ := read?_positional p negative (shortest p .up m e)
      have hround : RoundsTo p m e (n * 10 ^ exponent) := by
        rw [hvalue]
        exact roundsTo_shortest hm hbits h .up
      rw [if_neg hm.ne', hread,
        (ofDecimal_eq_finite_iff hw (by omega) h hm negative n exponent).mpr hround]

/-- **The text of a finite datum is the shortest** that is read back. -/
theorem isShortest_text {x : Binary p} (hx : x.isFinite = true) : x.IsShortest x.text := by
  refine ⟨read?_text hw hbits hx, ?_⟩
  cases x with
  | nan => exact absurd hx Bool.false_ne_true
  | infinite negative => exact absurd hx Bool.false_ne_true
  | finite negative m e h =>
    rw [text_finite]
    rcases Nat.eq_zero_or_pos m with rfl | hm
    · exact ⟨negative, ⟨0, 0⟩, rfl, fun n exponent k _ _ => Nat.pow_pos (by decide)⟩
    · refine ⟨negative, shortest p .up m e, by rw [if_neg hm.ne'], fun n exponent k hread hk => ?_⟩
      have hround := (ofDecimal_eq_finite_iff hw (by omega) h hm negative n exponent).mp hread
      cases k with
      | zero =>
        obtain rfl : n = 0 := Nat.lt_one_iff.mp hk
        have hpos := (zpow_pos (by decide) _).trans (hround.bounds hw h hm).1
        rw [Nat.cast_zero, zero_mul] at hpos
        exact absurd hpos (lt_irrefl 0)
      | succ k => exact shortest_digits_lt hm hbits h .up (d := ⟨n, exponent⟩) hround hk

end

end Binary

end Logbook
