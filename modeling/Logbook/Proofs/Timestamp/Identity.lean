/-
# Round-trip texts identify timestamps

The round-trip text shows all of a timestamp down to a tenth of a microsecond.  From the text the
fields can be found again, since each one ends in a mark that is no digit:

* the year, though it may have a sign of its own, the same as the mark behind it, and any number of
  digits (`year_append_inj`);
* month, day and time of day, in columns (`columns_inj`);
* the fraction, whose seven digits stand for tenths of a microsecond (`writtenIn_fraction`);
* the offset, which is a sign in front of whole hours and minutes (`offset_inj`).

A leap second is shown as the last fraction of the second before it.  This, what is finer than the
fraction, and the seconds of an offset are all that the text leaves open (`roundTrip_eq_iff`).
-/
import Logbook.Proofs.Timestamp.Columns

namespace Logbook

namespace Pattern

/-! ## 1. The fields -/

theorem cons_ne_padZeros (width n : Nat) {c : Char} (hc : c ∉ decimalDigits)
    (rest rest' : List Char) (hwidth : 0 < width) :
    c :: rest ≠ Logbook.padZeros width (decimal n) ++ c :: rest' := by
  intro h
  have hnil : WrittenIn decimalDigits [] 0 := ⟨by simp, rfl⟩
  obtain ⟨hrow, -, -⟩ := hnil.row_inj (writtenIn_padZeros width n) hc hc h
  have hlength := length_padZeros width (decimal n)
  rw [← hrow, List.length_nil] at hlength
  omega

/-- **The year ends at the mark behind its digits**, with or without a sign in front of them. -/
theorem year_append_inj {y z : Int} {rest rest' : List Char}
    (h : year 4 y ++ '-' :: rest = year 4 z ++ '-' :: rest') : y = z ∧ rest = rest' := by
  have hmark : '-' ∉ decimalDigits := by decide
  rcases lt_or_ge y 0 with hy | hy
  · rcases lt_or_ge z 0 with hz | hz
    · rw [year_of_neg hy, year_of_neg hz] at h
      obtain ⟨habs, -, hrest⟩ := (writtenIn_padZeros 3 y.natAbs).append_inj
        (writtenIn_padZeros 3 z.natAbs) hmark hmark (List.cons.inj h).2
      exact ⟨by omega, hrest⟩
    · rw [year_of_neg hy, year_of_nonneg hz] at h
      exact absurd h (cons_ne_padZeros 4 _ hmark _ _ (by decide))
  · rcases lt_or_ge z 0 with hz | hz
    · rw [year_of_nonneg hy, year_of_neg hz] at h
      exact absurd h.symm (cons_ne_padZeros 4 _ hmark _ _ (by decide))
    · rw [year_of_nonneg hy, year_of_nonneg hz] at h
      obtain ⟨habs, -, hrest⟩ := (writtenIn_padZeros 4 y.natAbs).append_inj
        (writtenIn_padZeros 4 z.natAbs) hmark hmark h
      exact ⟨by omega, hrest⟩

/-- Nine digits hold the nanoseconds of a second, and seven of them are shown. -/
theorem writtenIn_fraction (nanos : Nat) :
    WrittenIn decimalDigits (fraction 7 nanos) (min nanos 999999999 / 100) ∧
      (fraction 7 nanos).length = 7 := by
  have hfit : FitsColumn (9, '.') (min nanos 999999999) := by
    refine ⟨by decide, ?_⟩
    norm_num
  have htake := (writtenIn_padZeros 9 (min nanos 999999999)).take 7
  rw [hfit.length] at htake
  refine ⟨htake, ?_⟩
  rw [fraction, List.length_take, hfit.length]
  rfl

/-- **An offset of whole minutes can be found from its text.** -/
theorem offset_inj {a b : Int} (ha : 60 ∣ a) (hb : 60 ∣ b) (h : offset 3 a = offset 3 b) :
    a = b := by
  have hshown : ∀ s, offset 3 s = (if s < 0 then '-' else '+') ::
      (Logbook.padZeros 2 (decimal (s.natAbs / 3600)) ++
        ':' :: Logbook.padZeros 2 (decimal (s.natAbs % 3600 / 60))) := fun _ => rfl
  rw [hshown, hshown] at h
  obtain ⟨hsign, h⟩ := List.cons.inj h
  obtain ⟨hhours, -, h⟩ := (writtenIn_padZeros 2 (a.natAbs / 3600)).append_inj
    (writtenIn_padZeros 2 (b.natAbs / 3600)) (by decide) (by decide) h
  have hminutes : a.natAbs % 3600 / 60 = b.natAbs % 3600 / 60 := by
    rw [← (writtenIn_padZeros 2 (a.natAbs % 3600 / 60)).read,
      ← (writtenIn_padZeros 2 (b.natAbs % 3600 / 60)).read, h]
  have hnegative : a < 0 ↔ b < 0 := by
    by_cases ha0 : a < 0
    · by_cases hb0 : b < 0
      · exact iff_of_true ha0 hb0
      · exact absurd hsign (by simp [ha0, hb0])
    · by_cases hb0 : b < 0
      · exact absurd hsign (by simp [ha0, hb0])
      · exact iff_of_false ha0 hb0
  omega

end Pattern

/-! ## 2. Timestamps -/

namespace Timestamp

theorem roundTrip_eq_columns (t : Timestamp) :
    t.roundTrip = Pattern.year 4 t.clock.date.year ++
      '-' :: Pattern.columns (Pattern.timeColumns 'T' '.') t.clock.numbers
        (Pattern.fraction 7 t.nanos ++ Pattern.offset 3 t.offset) :=
  Pattern.render_roundTrip t.clock

/-- **Round-trip texts identify timestamps.**  If the offsets are whole minutes, two timestamps
have the same text if and only if their clocks show the same date and time of day, with the same
fraction of the second, at the same offset. -/
theorem roundTrip_eq_iff (a b : Timestamp) (ha : 60 ∣ a.offset) (hb : 60 ∣ b.offset) :
    a.roundTrip = b.roundTrip ↔
      a.clock.date = b.clock.date ∧ a.clock.hour = b.clock.hour ∧
        a.clock.minute = b.clock.minute ∧ a.clock.second = b.clock.second ∧
        min a.nanos 999999999 / 100 = min b.nanos 999999999 / 100 ∧ a.offset = b.offset := by
  obtain ⟨hfraction, hlength⟩ := Pattern.writtenIn_fraction a.nanos
  obtain ⟨hfraction', hlength'⟩ := Pattern.writtenIn_fraction b.nanos
  constructor
  · intro h
    rw [roundTrip_eq_columns, roundTrip_eq_columns] at h
    obtain ⟨hyear, h⟩ := Pattern.year_append_inj h
    obtain ⟨hnumbers, h⟩ := Pattern.columns_inj (by decide) rfl rfl h
    obtain ⟨hshown, hoffset⟩ := List.append_inj h (hlength.trans hlength'.symm)
    simp only [Clock.numbers, List.cons.injEq, and_true] at hnumbers
    obtain ⟨hmonth, hday, hhour, hminute, hsecond⟩ := hnumbers
    have hdate : a.clock.date = b.clock.date := by
      rcases hdate : a.clock.date with ⟨y, m, d⟩
      rcases hdate' : b.clock.date with ⟨y', m', d'⟩
      rw [hdate, hdate'] at hyear hmonth hday
      rw [Date.mk.injEq]
      exact ⟨hyear, hmonth, hday⟩
    have hnanos : min a.nanos 999999999 / 100 = min b.nanos 999999999 / 100 := by
      rw [← hfraction.read, ← hfraction'.read, hshown]
    exact ⟨hdate, hhour, hminute, hsecond, hnanos, Pattern.offset_inj ha hb hoffset⟩
  · rintro ⟨hdate, hhour, hminute, hsecond, hnanos, hoffset⟩
    have hshown : Pattern.fraction 7 a.nanos = Pattern.fraction 7 b.nanos := by
      rw [← hnanos] at hfraction'
      exact hfraction.eq_of_length (by decide) hfraction' (hlength.trans hlength'.symm)
    rw [roundTrip_eq_columns, roundTrip_eq_columns, Clock.numbers, Clock.numbers, hdate, hhour,
      hminute, hsecond, hshown, hoffset]

/-- A leap second and the end of the second before it, in a year before the year zero. -/
theorem roundTrip_eq_iff_leap_second :
    let a : Timestamp := ⟨-62198755201, 1000000123, -12600⟩
    let b : Timestamp := ⟨-62198755201, 999999999, -12600⟩
    60 ∣ a.offset ∧ 60 ∣ b.offset ∧ a ≠ b ∧
      (a.roundTrip = b.roundTrip ↔
        a.clock.date = b.clock.date ∧ a.clock.hour = b.clock.hour ∧
          a.clock.minute = b.clock.minute ∧ a.clock.second = b.clock.second ∧
          min a.nanos 999999999 / 100 = min b.nanos 999999999 / 100 ∧ a.offset = b.offset) ∧
      a.roundTrip = b.roundTrip := by
  intro a b
  have ha : 60 ∣ a.offset := by decide
  have hb : 60 ∣ b.offset := by decide
  have hiff := roundTrip_eq_iff a b ha hb
  exact ⟨ha, hb, by decide, hiff, hiff.mpr (by decide)⟩

end Timestamp

end Logbook
