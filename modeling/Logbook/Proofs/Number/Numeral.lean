/-
# Numbers are written as numerals

The text of an integer and the text of a finite datum are numbers by the grammar of JSON
(`isNumeral_signedDecimal`, `isNumeral_text`): an optional minus sign, digits without a leading
zero, and at most a point with digits behind it.

For floating point data this rests on the shortest decimal having a digit other than zero.
Its grid point lies in the rounding interval of the datum, and that interval is above zero
(`nearest?_pos`), so no row of zeros is ever put in front of the point.
-/
import Logbook.Json
import Logbook.Number.Integer
import Logbook.Number.Shortest
import Mathlib.Data.List.TakeWhile

namespace Logbook

/-! ## 1. The parts of a numeral -/

/-- Digits without a leading zero, or zero. -/
def IsWhole (s : List Char) : Prop :=
  s = ['0'] ∨ ∃ d ds, s = d :: ds ∧ d ≠ '0' ∧ ∀ c ∈ s, c.isDigit = true

/-- Nothing, or a point with digits behind it. -/
def IsFraction (s : List Char) : Prop :=
  s = [] ∨ ∃ ds, s = '.' :: ds ∧ ds ≠ [] ∧ ∀ c ∈ ds, c.isDigit = true

namespace Json

theorem afterDigits?_append {ds rest : List Char} (hne : ds ≠ [])
    (h : ∀ c ∈ ds, c.isDigit = true) (hrest : rest.dropWhile Char.isDigit = rest) :
    afterDigits? (ds ++ rest) = some rest := by
  cases ds with
  | nil => exact absurd rfl hne
  | cons d ds =>
    have htail : ∀ c ∈ ds, c.isDigit = true := fun c hc => h c (List.mem_cons_of_mem _ hc)
    rw [List.cons_append, afterDigits?, if_pos (h d List.mem_cons_self),
      List.dropWhile_append_of_pos htail, hrest]

/-- What begins with a digit, a whole and a fraction, is a number from there on. -/
theorem unsigned_of_parts {whole fraction : List Char} (hwhole : IsWhole whole)
    (hfraction : IsFraction fraction) :
    (afterWhole? (whole ++ fraction) >>= afterFraction? >>= afterExponent?) = some [] := by
  have hstop : fraction.dropWhile Char.isDigit = fraction := by
    rcases hfraction with rfl | ⟨ds, rfl, -, -⟩ <;> rfl
  have hfirst : afterWhole? (whole ++ fraction) = some fraction := by
    rcases hwhole with rfl | ⟨d, ds, rfl, hd, hdigits⟩
    · rfl
    · have hnone : ∀ rest, d :: ds ++ fraction = '0' :: rest → False :=
        fun rest h => hd (List.cons.inj h).1
      rw [afterWhole?.eq_2 _ hnone]
      exact afterDigits?_append (by simp) hdigits hstop
  have hsecond : afterFraction? fraction = some [] := by
    rcases hfraction with rfl | ⟨ds, rfl, hne, hdigits⟩
    · rfl
    · have h : afterDigits? (ds ++ []) = some [] := afterDigits?_append hne hdigits rfl
      rw [List.append_nil] at h
      exact h
  rw [hfirst, Option.bind_eq_bind, Option.bind_some, hsecond]
  rfl

theorem isNumeral_of_parts {whole fraction : List Char} (hwhole : IsWhole whole)
    (hfraction : IsFraction fraction) : isNumeral (whole ++ fraction) = true := by
  have hsign : ∀ rest, whole ++ fraction = '-' :: rest → False := by
    rintro rest h
    rcases hwhole with rfl | ⟨d, ds, rfl, -, hdigits⟩
    · exact absurd (List.cons.inj h).1 (by decide)
    · have hd := hdigits d List.mem_cons_self
      rw [(List.cons.inj h).1] at hd
      exact absurd hd (by decide)
  unfold isNumeral
  split
  · rename_i rest h
    exact (hsign rest h).elim
  · exact beq_iff_eq.mpr (unsigned_of_parts hwhole hfraction)

theorem isNumeral_neg_of_parts {whole fraction : List Char} (hwhole : IsWhole whole)
    (hfraction : IsFraction fraction) : isNumeral ('-' :: (whole ++ fraction)) = true :=
  beq_iff_eq.mpr (unsigned_of_parts hwhole hfraction)

end Json

/-! ## 2. Integers -/

theorem isDigit_of_mem_decimal {n : Nat} {c : Char} (h : c ∈ decimal n) : c.isDigit = true :=
  Nat.isDigit_of_mem_toDigits (by decide) (by decide) h

theorem decimal_zero : decimal 0 = ['0'] := Nat.toDigits_zero 10

/-- The first digit of a positive number is not zero. -/
theorem decimal_of_pos {n : Nat} (h : 0 < n) : ∃ d ds, decimal n = d :: ds ∧ d ≠ '0' := by
  induction n using Nat.strongRecOn with
  | ind n ih =>
    have hsmall : ∀ k < 10, 0 < k → Nat.digitChar k ≠ '0' := by decide
    rw [decimal, Nat.toDigits_eq_if (by decide)]
    split
    · rename_i hlt
      exact ⟨_, [], rfl, hsmall n hlt h⟩
    · rename_i hge
      obtain ⟨d, ds, hds, hd⟩ := ih (n / 10) (by omega) (by omega)
      refine ⟨d, ds ++ [(n % 10).digitChar], ?_, hd⟩
      rw [decimal] at hds
      rw [hds, List.cons_append]

theorem isWhole_decimal (n : Nat) : IsWhole (decimal n) := by
  rcases Nat.eq_zero_or_pos n with rfl | h
  · exact .inl decimal_zero
  · obtain ⟨d, ds, hds, hd⟩ := decimal_of_pos h
    exact .inr ⟨d, ds, hds, hd, fun c hc => isDigit_of_mem_decimal hc⟩

/-- **The text of an integer is a numeral.** -/
theorem isNumeral_signedDecimal (n : Int) : Json.isNumeral (signedDecimal n) = true := by
  have hwhole : IsWhole (decimal n.natAbs) := isWhole_decimal _
  unfold signedDecimal
  split
  · have h := Json.isNumeral_neg_of_parts hwhole (.inl rfl)
    rwa [List.append_nil] at h
  · have h := Json.isNumeral_of_parts hwhole (.inl rfl)
    rwa [List.append_nil] at h

theorem ofList_signedDecimal (n : Int) : String.ofList (signedDecimal n) = toString n := by
  rw [← String.toList_inj, String.toList_ofList]
  cases n with
  | ofNat n =>
    have hneg : ¬ Int.ofNat n < 0 := Int.not_lt.mpr (Int.natCast_nonneg n)
    rw [signedDecimal, if_neg hneg]
    exact (Nat.toList_repr (n := n)).symm
  | negSucc n =>
    have hneg : Int.negSucc n < 0 := Int.negSucc_lt_zero n
    rw [signedDecimal, if_pos hneg]
    change _ = ("-" ++ Nat.repr (n + 1)).toList
    rw [String.toList_append, Nat.toList_repr]
    rfl

/-! ## 3. Decimals -/

namespace Decimal

theorem isFraction_of_drop {places : Nat} {ds : List Char} (hplaces : 0 < places)
    (hlength : places ≤ ds.length) (hdigits : ∀ c ∈ ds, c.isDigit = true) :
    IsFraction ('.' :: ds.drop (ds.length - places)) := by
  refine .inr ⟨_, rfl, ?_, fun c hc => hdigits c (List.mem_of_mem_drop hc)⟩
  intro hnil
  have hdrop := congrArg List.length hnil
  rw [List.length_drop, List.length_nil] at hdrop
  omega

/-- In front of the point stand the digits of the whole part, or one zero. -/
theorem isWhole_take_padZeros (n : Nat) {places : Nat} (hplaces : 0 < places) :
    let ds := padZeros (places + 1) (decimal n)
    IsWhole (ds.take (ds.length - places)) := by
  intro ds
  have hlength : ds.length = max (places + 1) (decimal n).length := length_padZeros _ _
  rcases Nat.lt_or_ge (decimal n).length (places + 1) with hshort | hlong
  · obtain ⟨k, hk⟩ : ∃ k, places + 1 - (decimal n).length = k + 1 :=
      ⟨places - (decimal n).length, by omega⟩
    have hds : ds = '0' :: (List.replicate k '0' ++ decimal n) := by
      change List.replicate _ _ ++ _ = _
      rw [hk, List.replicate_succ, List.cons_append]
    have hone : ds.length - places = 1 := by omega
    rw [hone, hds]
    exact .inl rfl
  · have hn : 0 < n := by
      rcases Nat.eq_zero_or_pos n with rfl | h
      · rw [decimal_zero, List.length_singleton] at hlong
        omega
      · exact h
    obtain ⟨d, rest, hrest, hd⟩ := decimal_of_pos hn
    have hds : ds = decimal n := by
      change List.replicate _ _ ++ _ = _
      rw [Nat.sub_eq_zero_of_le hlong]
      rfl
    obtain ⟨k, hk⟩ : ∃ k, ds.length - places = k + 1 := ⟨ds.length - places - 1, by omega⟩
    refine .inr ⟨d, rest.take k, ?_, hd, fun c hc => ?_⟩
    · rw [hk, hds, hrest, List.take_succ_cons]
    · rw [hds] at hc
      exact isDigit_of_mem_decimal (List.mem_of_mem_take hc)

/-- The text of a positive decimal without an exponent. -/
theorem exists_positional {d : Decimal} (h : 0 < d.digits) :
    ∃ whole fraction, d.positional = whole ++ fraction ∧ IsWhole whole ∧ IsFraction fraction := by
  unfold positional
  split
  · obtain ⟨c, ds, hds, hc⟩ := decimal_of_pos h
    refine ⟨_, [], (List.append_nil _).symm,
      .inr ⟨c, ds ++ List.replicate d.exponent.toNat '0', ?_, hc, ?_⟩, .inl rfl⟩
    · rw [hds, List.cons_append]
    · intro c hc
      rcases List.mem_append.mp hc with hc | hc
      · exact isDigit_of_mem_decimal hc
      · rw [List.eq_of_mem_replicate hc]
        decide
  · rename_i hexponent
    have hplaces : 0 < (-d.exponent).toNat := by omega
    refine ⟨_, _, rfl, isWhole_take_padZeros d.digits hplaces, isFraction_of_drop hplaces ?_ ?_⟩
    · rw [length_padZeros]
      omega
    · intro c hc
      rcases List.mem_append.mp hc with hc | hc
      · rw [List.eq_of_mem_replicate hc]
        decide
      · exact isDigit_of_mem_decimal hc

theorem dropZero_pos {d : Decimal} (h : 0 < d.digits) : 0 < d.dropZero.digits := by
  unfold dropZero
  split
  · change 0 < d.digits / 10
    omega
  · exact h

end Decimal

/-! ## 4. Shortest decimals -/

namespace Interval

/-- The interval of a positive datum is above zero. -/
theorem low_ofBinary_pos {p : Precision} {m : Nat} (h : 0 < m) (e k : Int) :
    0 < (ofBinary p m e k).low := by
  have h2 : 0 < (powRatio 2 (e - 2)).1 := (powRatio_pos (by decide) _).1
  have h10 : 0 < (powRatio 10 k).2 := (powRatio_pos (by decide) _).2
  refine Nat.mul_pos ?_ (Nat.mul_pos h2 h10)
  split <;> omega

theorem pos_of_has {i : Interval} (hlow : 0 < i.low) {d : Nat} (h : i.has d = true) : 0 < d := by
  rcases Nat.eq_zero_or_pos d with rfl | hd
  · have hle : i.low ≤ 0 := by
      unfold has at h
      split at h
      · simpa using (Bool.and_eq_true_iff.mp h).1
      · exact absurd (Bool.and_eq_true_iff.mp h).1 (by simp)
    omega
  · exact hd

/-- What is found is one of the neighbours of the datum, and in the interval. -/
theorem has_of_nearest? {i : Interval} {tie : Tie} {d : Nat} (h : i.nearest? tie = some d) :
    i.has d = true ∧ d ≤ i.value / i.step + 1 := by
  unfold nearest? at h
  dsimp only at h
  split at h
  · exact absurd h (by simp)
  · rename_i hbelow _
    obtain rfl := Option.some.inj h
    exact ⟨hbelow, Nat.le_succ _⟩
  · rename_i _ habove
    obtain rfl := Option.some.inj h
    exact ⟨habove, Nat.le_refl _⟩
  · rename_i hbelow habove
    split at h
    · obtain rfl := Option.some.inj h
      exact ⟨hbelow, Nat.le_succ _⟩
    · split at h
      · obtain rfl := Option.some.inj h
        exact ⟨habove, Nat.le_refl _⟩
      · cases tie with
        | up =>
          obtain rfl := Option.some.inj h
          exact ⟨habove, Nat.le_refl _⟩
        | even =>
          obtain rfl := Option.some.inj h
          rcases Nat.mod_two_eq_zero_or_one (i.value / i.step) with heven | hodd
          · rw [heven]
            exact ⟨hbelow, Nat.le_succ _⟩
          · rw [hodd]
            exact ⟨habove, Nat.le_refl _⟩

/-- **A grid point in the interval of a positive datum is positive.** -/
theorem nearest?_pos {i : Interval} (hlow : 0 < i.low) {tie : Tie} {d : Nat}
    (h : i.nearest? tie = some d) : 0 < d :=
  pos_of_has hlow (has_of_nearest? h).1

end Interval

theorem shortest_digits_pos (p : Precision) {m : Nat} (h : 0 < m) (e : Int) :
    0 < (shortest p .up m e).digits := by
  unfold shortest
  dsimp only
  cases hfound : (List.range p.bits).findSome? _ with
  | none => exact h
  | some d =>
    obtain ⟨n, -, hn⟩ := List.exists_of_findSome?_eq_some hfound
    obtain ⟨g, hg, rfl⟩ := Option.map_eq_some_iff.mp hn
    exact Decimal.dropZero_pos (Interval.nearest?_pos (Interval.low_ofBinary_pos h e _) hg)

namespace Binary

theorem text_finite {p : Precision} (s : Bool) (m : Nat) (e : Int) (h : p.Holds m e) :
    (finite s m e h).text =
      if s then '-' :: (if m = 0 then ['0'] else (shortest p .up m e).positional)
      else (if m = 0 then ['0'] else (shortest p .up m e).positional) := rfl

theorem exists_unsigned (p : Precision) (m : Nat) (e : Int) :
    ∃ whole fraction,
      (if m = 0 then ['0'] else (shortest p .up m e).positional) = whole ++ fraction ∧
        IsWhole whole ∧ IsFraction fraction := by
  by_cases hm : m = 0
  · rw [if_pos hm]
    exact ⟨['0'], [], rfl, .inl rfl, .inl rfl⟩
  · rw [if_neg hm]
    exact Decimal.exists_positional (shortest_digits_pos p (Nat.pos_of_ne_zero hm) e)

/-- **The text of a finite datum is a numeral.** -/
theorem isNumeral_text {p : Precision} {x : Binary p} (h : x.isFinite = true) :
    Json.isNumeral x.text = true := by
  cases x with
  | nan => exact absurd h Bool.false_ne_true
  | infinite s => exact absurd h Bool.false_ne_true
  | finite s m e hholds =>
    obtain ⟨whole, fraction, hunsigned, hwhole, hfraction⟩ := exists_unsigned p m e
    rw [text_finite, hunsigned]
    cases s with
    | true => exact Json.isNumeral_neg_of_parts hwhole hfraction
    | false => exact Json.isNumeral_of_parts hwhole hfraction

end Binary

end Logbook
