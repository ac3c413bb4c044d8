/-
# Universal texts sort by time

Under the universal sortable pattern a timestamp is written in UTC, in columns of fixed width from
the year down to the second.  So texts are compared as their rows of numbers are (`columns_lt`), and
these come in the order of the instants (`numbers_lt`): either the days differ, and dates come in
the order of their days, or the times of one day do.

The columns hold the year only from 0 to 9999.  Before and after, the year has a sign or a digit
more, and the order is another one; `universal_le_iff` is about the years between.
-/
import Logbook.Proofs.Timestamp.Calendar
import Logbook.Proofs.Timestamp.Columns
import Mathlib.Data.Char

namespace Logbook

namespace Timestamp

/-- The year and the other numbers that the clock shows. -/
def numbers (t : Timestamp) : List Nat := t.clock.date.year.toNat :: t.clock.numbers

/-- The columns of the universal pattern. -/
def universalColumns : List (Nat × Char) := (4, '-') :: Pattern.timeColumns ' ' 'Z'

theorem text_u (t : Timestamp) :
    t.text ['u'] = Pattern.year 4 t.utc.clock.date.year ++
      '-' :: Pattern.columns (Pattern.timeColumns ' ' 'Z') t.utc.clock.numbers [] :=
  Pattern.render_universal t.utc.clock

theorem text_universal {t : Timestamp} (h : 0 ≤ t.utc.clock.date.year) :
    t.text ['u'] = Pattern.columns universalColumns t.utc.numbers [] := by
  have habs : t.utc.clock.date.year.natAbs = t.utc.clock.date.year.toNat := by omega
  rw [text_u, Pattern.year_of_nonneg h, habs]
  rfl

/-- The numbers of a clock fit into their columns. -/
theorem fitsColumns_numbers {t : Timestamp} (h : t.clock.date.year ≤ 9999) :
    List.Forall₂ Pattern.FitsColumn universalColumns t.numbers := by
  have hdate : Date.IsDate t.clock.date := Date.isDate_ofDays _
  have hday := hdate.day_le
  obtain ⟨-, hmonth, -, -⟩ := hdate
  have hsecond : ((t.seconds + t.offset) % 86400).toNat < 86400 := by omega
  have htime : t.clock.hour < 100 ∧ t.clock.minute < 100 ∧ t.clock.second < 100 := by
    simp only [clock]
    omega
  obtain ⟨hhour, hminute, hsecond⟩ := htime
  refine .cons ⟨by decide, ?_⟩ (.cons ⟨by decide, ?_⟩ (.cons ⟨by decide, ?_⟩
    (.cons ⟨by decide, ?_⟩ (.cons ⟨by decide, ?_⟩ (.cons ⟨by decide, ?_⟩ .nil)))))
  all_goals norm_num
  all_goals omega

/-- **The numbers of clocks come in the order of what the clocks show.** -/
theorem numbers_lt {a b : Timestamp} (hyear : 0 ≤ a.clock.date.year)
    (h : a.seconds + a.offset < b.seconds + b.offset) : a.numbers < b.numbers := by
  have hdays : (a.seconds + a.offset) / 86400 ≤ (b.seconds + b.offset) / 86400 := by omega
  simp only [numbers, Clock.numbers, List.cons_lt_cons_iff, List.not_lt_nil, and_false, or_false]
  rcases Int.lt_or_eq_of_le hdays with hlt | heq
  · have hdate := Date.key_lt_iff.mp (Date.key_lt_key hlt)
    change a.clock.date.year < b.clock.date.year ∨ a.clock.date.year = b.clock.date.year ∧
      (a.clock.date.month < b.clock.date.month ∨ a.clock.date.month = b.clock.date.month ∧
        a.clock.date.day < b.clock.date.day) at hdate
    omega
  · have hdate : a.clock.date = b.clock.date := congrArg Date.ofDays heq
    have hsecond : ((a.seconds + a.offset) % 86400).toNat <
        ((b.seconds + b.offset) % 86400).toNat := by omega
    have htime : a.clock.hour < b.clock.hour ∨ a.clock.hour = b.clock.hour ∧
        (a.clock.minute < b.clock.minute ∨ a.clock.minute = b.clock.minute ∧
          a.clock.second < b.clock.second) := by
      simp only [clock]
      omega
    rw [hdate]
    omega

theorem universal_lt {a b : Timestamp}
    (ha : 0 ≤ a.utc.clock.date.year ∧ a.utc.clock.date.year ≤ 9999)
    (hb : 0 ≤ b.utc.clock.date.year ∧ b.utc.clock.date.year ≤ 9999) (h : a.seconds < b.seconds) :
    a.text ['u'] < b.text ['u'] := by
  rw [text_universal ha.1, text_universal hb.1]
  exact Pattern.columns_lt (fitsColumns_numbers ha.2) (fitsColumns_numbers hb.2)
    (numbers_lt ha.1 (Int.add_lt_add_right h 0)) [] []

theorem universal_eq {a b : Timestamp} (h : a.seconds = b.seconds) :
    a.text ['u'] = b.text ['u'] := by
  rw [text_u, text_u]
  unfold Clock.numbers clock utc
  rw [h]

/-- **Universal texts are ordered as the instants are.**  Whatever offsets the timestamps have, if
their years in UTC are from 0 to 9999, their texts come in the order of their whole seconds, and
are the same if and only if these are the same. -/
theorem universal_le_iff (a b : Timestamp)
    (ha : 0 ≤ a.utc.clock.date.year ∧ a.utc.clock.date.year ≤ 9999)
    (hb : 0 ≤ b.utc.clock.date.year ∧ b.utc.clock.date.year ≤ 9999) :
    (a.text ['u'] ≤ b.text ['u'] ↔ a.seconds ≤ b.seconds) ∧
      (a.text ['u'] = b.text ['u'] ↔ a.seconds = b.seconds) := by
  rcases Int.lt_trichotomy a.seconds b.seconds with h | h | h
  · have hlt := universal_lt ha hb h
    exact ⟨iff_of_true (le_of_lt hlt) (Int.le_of_lt h),
      iff_of_false (ne_of_lt hlt) (Int.ne_of_lt h)⟩
  · have heq := universal_eq h
    exact ⟨iff_of_true (le_of_eq heq) (Int.le_of_eq h), iff_of_true heq h⟩
  · have hgt := universal_lt hb ha h
    exact ⟨iff_of_false (not_le_of_gt hgt) (Int.not_le.mpr h),
      iff_of_false (ne_of_gt hgt) (Int.ne_of_gt h)⟩

/-- The last second of February in a year that ends a century, and the first one of March.  At
their places the clocks show them in the other order. -/
theorem universal_le_iff_end_of_february :
    let a : Timestamp := ⟨-2203891201, 999999999, 50400⟩
    let b : Timestamp := ⟨-2203891200, 0, -43200⟩
    (0 ≤ a.utc.clock.date.year ∧ a.utc.clock.date.year ≤ 9999) ∧
      (0 ≤ b.utc.clock.date.year ∧ b.utc.clock.date.year ≤ 9999) ∧
      (a.text ['u'] ≤ b.text ['u'] ↔ a.seconds ≤ b.seconds) ∧
      (a.text ['u'] = b.text ['u'] ↔ a.seconds = b.seconds) := by
  intro a b
  have ha : 0 ≤ a.utc.clock.date.year ∧ a.utc.clock.date.year ≤ 9999 := by decide
  have hb : 0 ≤ b.utc.clock.date.year ∧ b.utc.clock.date.year ≤ 9999 := by decide
  exact ⟨ha, hb, universal_le_iff a b ha hb⟩

end Timestamp

end Logbook
