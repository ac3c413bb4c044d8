/-
# Rounding quotients

The quotient of two natural numbers, rounded to the nearest natural number.  Of two
numbers at the same distance the even one is taken.  All conversions between binary and
decimal in this library round by this one function.
-/

namespace Logbook

/-- The natural number nearest to `num / den`, a half going to the even neighbour. -/
def roundEven (num den : Nat) : Nat :=
  let q := num / den
  let r := num % den
  if 2 * r < den then q
  else if den < 2 * r then q + 1
  else q + q % 2

/-- The number of digits before the decimal point, where zero has none. -/
def digitCount (n : Nat) : Nat := if n = 0 then 0 else (Nat.toDigits 10 n).length

/-- The exponent of the leading decimal digit of a positive quotient: the `k` with
`10 ^ k ≤ num / den < 10 ^ (k + 1)`. -/
def decade (num den : Nat) : Int :=
  if den ≤ num then (digitCount (num / den) : Int) - 1
  else -(digitCount ((den + num - 1) / num - 1) : Int)

/-- A power of an integer exponent, as a quotient. -/
def powRatio (base : Nat) (exponent : Int) : Nat × Nat :=
  if 0 ≤ exponent then (Nat.pow base exponent.toNat, 1) else (1, Nat.pow base (-exponent).toNat)

theorem powRatio_pos {base : Nat} (h : 0 < base) (exponent : Int) :
    0 < (powRatio base exponent).1 ∧ 0 < (powRatio base exponent).2 := by
  unfold powRatio
  split
  · exact ⟨Nat.pow_pos h, Nat.one_pos⟩
  · exact ⟨Nat.one_pos, Nat.pow_pos h⟩

theorem roundEven_mul {den : Nat} (h : 0 < den) (n : Nat) : roundEven (n * den) den = n := by
  simp [roundEven, Nat.mul_div_cancel n h, h]

end Logbook
