/-
# One day after another

The calendar is computed from the number of days by a few divisions (`Date.ofDays`).  Here it is
compared with the calendar that people know: months have their lengths, leap years their leap day,
and after the last day of a month or a year comes the first day of the next one (`Date.next`).

* `ofDays_next`: the next number of days is the next day.
* `key_lt_key`: so dates come in the order of their days, by year, month and day.
* `isDate_ofDays`: each number of days gives a date that exists.

For the first of these, a number of days is split as the computation splits it: into an era, a year
of the era that begins in March, a month of that year, and a day (`dayOf`).  The parts are in range
(`Fits`), each number of days has such parts (`exists_dayOf`), and from them the computation finds
the date (`ofDays_dayOf`).  The day after is then a matter of which part is at its end.
-/
import Logbook.Timestamp.Calendar
import Mathlib.Data.Prod.Lex
import Mathlib.Order.SuccPred.Basic
import Mathlib.Tactic.IntervalCases

namespace Logbook

namespace Date

/-! ## 1. The civil calendar -/

/-- Each fourth year is a leap year, but of the years that end a century only each fourth one. -/
def IsLeapYear (year : Int) : Prop := year % 4 = 0 ∧ (year % 100 ≠ 0 ∨ year % 400 = 0)

instance (year : Int) : Decidable (IsLeapYear year) := inferInstanceAs (Decidable (_ ∧ _))

/-- The number of days of a month. -/
def monthLength (year : Int) (month : Nat) : Nat :=
  if month = 2 then if IsLeapYear year then 29 else 28
  else if month = 4 ∨ month = 6 ∨ month = 9 ∨ month = 11 then 30
  else 31

/-- A date that exists. -/
def IsDate (d : Date) : Prop :=
  1 ≤ d.month ∧ d.month ≤ 12 ∧ 1 ≤ d.day ∧ d.day ≤ monthLength d.year d.month

instance (d : Date) : Decidable (IsDate d) := inferInstanceAs (Decidable (_ ∧ _))

/-- The day after a date. -/
def next (d : Date) : Date :=
  if d.day < monthLength d.year d.month then ⟨d.year, d.month, d.day + 1⟩
  else if d.month < 12 then ⟨d.year, d.month + 1, 1⟩
  else ⟨d.year + 1, 1, 1⟩

/-- What dates are ordered by: the year, then the month, then the day. -/
def key (d : Date) : Int ×ₗ Nat ×ₗ Nat := toLex (d.year, toLex (d.month, d.day))

theorem key_lt_iff {d e : Date} :
    d.key < e.key ↔
      d.year < e.year ∨
        d.year = e.year ∧ (d.month < e.month ∨ d.month = e.month ∧ d.day < e.day) := by
  rw [key, key, Prod.Lex.toLex_lt_toLex, Prod.Lex.toLex_lt_toLex]

theorem key_lt_next (d : Date) : d.key < d.next.key := by
  rw [key_lt_iff, next]
  split
  · exact .inr ⟨rfl, .inr ⟨rfl, Nat.lt_succ_self _⟩⟩
  · split
    · exact .inr ⟨rfl, .inl (Nat.lt_succ_self _)⟩
    · exact .inl (Int.lt_succ _)

/-! ## 2. Years and months of an era -/

/-- The number of days of a year of an era.  The leap day is the last one, and belongs by its name
to the year after. -/
def yearLength (y : Nat) : Nat := if IsLeapYear (y + 1) then 366 else 365

theorem lt_yearLength_iff {y d : Nat} (hy : y < 400) :
    d < yearLength y ↔ d < 365 ∨ d = 365 ∧ y % 4 = 3 ∧ (y % 100 ≠ 99 ∨ y = 399) := by
  unfold yearLength
  split
  · rename_i h
    obtain ⟨h4, h100⟩ := h
    omega
  · rename_i h
    unfold IsLeapYear at h
    omega

theorem yearStart_succ {y : Nat} (hy : y < 399) :
    yearStart (y + 1) = yearStart y + yearLength y := by
  unfold yearLength yearStart
  split
  · rename_i h
    obtain ⟨h4, h100⟩ := h
    omega
  · rename_i h
    unfold IsLeapYear at h
    omega

/-- **The year of a day of an era.**  Of the days before it, a leap day stands in each 1460, none
at the end of a century, and one at the end of the era. -/
theorem yearOfEra_eq {y d : Nat} (hy : y < 400) (hd : d < yearLength y) :
    yearOfEra (yearStart y + d) = y := by
  rw [lt_yearLength_iff hy] at hd
  obtain ⟨n, hn⟩ : ∃ n, yearStart y + d = n := ⟨_, rfl⟩
  obtain ⟨c, hc⟩ : ∃ c, y / 100 = c := ⟨_, rfl⟩
  obtain ⟨q, hq⟩ : ∃ q, y / 4 = q := ⟨_, rfl⟩
  have hday : n + c = 365 * y + q + d := by
    unfold yearStart at hn
    omega
  have hcentury : 36524 * c ≤ n ∧ (n < 36524 * c + 36524 ∨ n = 146096 ∧ c = 3) := by omega
  have hterms : n / 36524 = c + n / 146096 := by
    clear hq hday hd
    rcases hcentury with ⟨hle, hlt | ⟨rfl, rfl⟩⟩
    · have hfirst : n / 36524 = c := by omega
      have hsecond : n / 146096 = 0 := by omega
      omega
    · rfl
  have hearly : n / 1460 = q ∨ n / 1460 = q + 1 ∧ 0 < d := by omega
  have hlate : n / 1460 = q + 1 ∨ d < 365 := by omega
  rw [hn]
  unfold yearOfEra
  omega

theorem monthOfYear_eq {m d : Nat} (h : monthStart m + d < monthStart (m + 1)) :
    monthOfYear (monthStart m + d) = m := by
  unfold monthOfYear monthStart at *
  omega

/-- Each day of an era lies in a year of the era. -/
theorem exists_year {n : Nat} (hn : n < 146097) :
    ∃ y d, y < 400 ∧ d < yearLength y ∧ n = yearStart y + d := by
  induction n with
  | zero => exact ⟨0, 0, by decide, by decide, rfl⟩
  | succ n ih =>
    obtain ⟨y, d, hy, hd, rfl⟩ := ih (by omega)
    by_cases hlast : d + 1 < yearLength y
    · exact ⟨y, d + 1, hy, hlast, rfl⟩
    · have hend : d + 1 = yearLength y := by omega
      have hy' : y < 399 := by
        rcases Nat.lt_or_ge y 399 with h | h
        · exact h
        · obtain rfl : y = 399 := by omega
          have hlength : yearStart 399 + yearLength 399 = 146097 := by decide
          omega
      refine ⟨y + 1, 0, by omega, ?_, ?_⟩
      · rw [lt_yearLength_iff (by omega)]
        omega
      · rw [yearStart_succ hy']
        omega

/-- Each day of a year lies in a month. -/
theorem exists_month {n : Nat} (hn : n < 366) :
    ∃ m d, m < 12 ∧ monthStart m + d < monthStart (m + 1) ∧ n = monthStart m + d := by
  have hm : monthStart (monthOfYear n) ≤ n ∧ n < monthStart (monthOfYear n + 1) := by
    unfold monthStart monthOfYear
    omega
  refine ⟨monthOfYear n, n - monthStart (monthOfYear n), ?_, ?_, ?_⟩
  · unfold monthOfYear
    omega
  · omega
  · omega

/-! ## 3. The parts of a number of days -/

/-- The parts of a day of an era are in range. -/
structure Fits (y m d : Nat) : Prop where
  year : y < 400
  month : m < 12
  inMonth : monthStart m + d < monthStart (m + 1)
  inYear : monthStart m + d < yearLength y

/-- The number of days with the given parts. -/
def dayOf (era : Int) (y m d : Nat) : Int :=
  era * eraDays + (yearStart y + (monthStart m + d) : Nat) - epochOffset

/-- The date with the given parts. -/
def ofParts (era : Int) (y m d : Nat) : Date :=
  if m < 10 then ⟨era * 400 + y, m + 3, d + 1⟩ else ⟨era * 400 + y + 1, m - 9, d + 1⟩

/-- An era ends with the last day of its last year. -/
theorem Fits.lt_eraDays {y m d : Nat} (h : Fits y m d) :
    yearStart y + (monthStart m + d) < 146097 := by
  have hd := (lt_yearLength_iff h.year).mp h.inYear
  have hy := h.year
  unfold yearStart
  omega

/-- **From its parts the date is found.** -/
theorem ofDays_dayOf {y m d : Nat} (h : Fits y m d) (era : Int) :
    ofDays (dayOf era y m d) = ofParts era y m d := by
  have hn : (yearStart y + (monthStart m + d) : Nat) < eraDays := by
    have := h.lt_eraDays
    unfold eraDays
    omega
  have hera : (dayOf era y m d + epochOffset) / eraDays = era ∧
      ((dayOf era y m d + epochOffset) % eraDays).toNat = yearStart y + (monthStart m + d) := by
    unfold dayOf
    rw [Int.sub_add_cancel]
    unfold eraDays at hn ⊢
    omega
  unfold ofDays
  simp only [hera, yearOfEra_eq h.year h.inYear, Nat.add_sub_cancel_left, monthOfYear_eq h.inMonth]
  unfold ofParts
  have hm := h.month
  by_cases h10 : m < 10
  · have h2 : ¬ m + 3 ≤ 2 := by omega
    simp [h10, h2]
  · have h2 : m - 9 ≤ 2 := by omega
    simp [h10, h2]

/-- Each number of days has parts that are in range. -/
theorem exists_dayOf (n : Int) : ∃ era y m d, Fits y m d ∧ n = dayOf era y m d := by
  obtain ⟨y, k, hy, hk, hn⟩ := exists_year (n := ((n + epochOffset) % eraDays).toNat) (by
    unfold eraDays
    omega)
  have hk' := (lt_yearLength_iff hy).mp hk
  obtain ⟨m, d, hm, hd, rfl⟩ := exists_month (n := k) (by omega)
  refine ⟨(n + epochOffset) / eraDays, y, m, d, ⟨hy, hm, hd, hk⟩, ?_⟩
  unfold dayOf
  unfold eraDays at hn ⊢
  omega

/-! ## 4. The day after -/

theorem isLeapYear_ofParts (era : Int) (y : Nat) :
    IsLeapYear (era * 400 + y + 1) ↔ IsLeapYear (y + 1) := by
  unfold IsLeapYear
  omega

theorem yearLength_eq (era : Int) (y : Nat) :
    yearLength y = if IsLeapYear (era * 400 + y + 1) then 366 else 365 := by
  simp only [yearLength, isLeapYear_ofParts]

theorem yearLength_bounds (y : Nat) : 365 ≤ yearLength y ∧ yearLength y ≤ 366 := by
  unfold yearLength
  split <;> omega

/-- A month ends where the next one begins, or at the end of the year: February is the last month
of a year that begins in March. -/
theorem monthLength_ofParts {m : Nat} (hm : m < 12) (era : Int) (y d : Nat) :
    monthLength (ofParts era y m d).year (ofParts era y m d).month =
      min (monthStart (m + 1)) (yearLength y) - monthStart m := by
  have hyear := yearLength_eq era y
  by_cases hlast : m = 11
  · subst hlast
    change (if IsLeapYear (era * 400 + y + 1) then 29 else 28) = min 367 (yearLength y) - 337
    rw [hyear]
    split <;> rfl
  · have hstart : monthStart (m + 1) ≤ 337 := by
      unfold monthStart
      omega
    have hmin : min (monthStart (m + 1)) (yearLength y) = monthStart (m + 1) := by
      rw [hyear]
      split <;> omega
    rw [hmin]
    interval_cases m <;> first | rfl | exact absurd rfl hlast

theorem day_ofParts (era : Int) (y m d : Nat) : (ofParts era y m d).day = d + 1 := by
  unfold ofParts
  split <;> rfl

/-- A day that is not the last one of its month. -/
theorem next_ofParts {y m d : Nat} (h : Fits y m (d + 1)) (era : Int) :
    (ofParts era y m d).next = ofParts era y m (d + 1) := by
  have hmonth := h.inMonth
  have hyear := h.inYear
  have hday : (ofParts era y m d).day <
      monthLength (ofParts era y m d).year (ofParts era y m d).month := by
    rw [day_ofParts, monthLength_ofParts h.month]
    omega
  rw [next, if_pos hday]
  unfold ofParts
  split <;> rfl

/-- The last day of a month, before the first day of the next one. -/
theorem next_ofParts_of_end {y m d : Nat} (hm : m < 12)
    (hend : monthStart m + (d + 1) = min (monthStart (m + 1)) (yearLength y)) (era : Int) :
    (ofParts era y m d).next =
      if m = 11 then ofParts era (y + 1) 0 0 else ofParts era y (m + 1) 0 := by
  have hday : ¬ (ofParts era y m d).day <
      monthLength (ofParts era y m d).year (ofParts era y m d).month := by
    rw [day_ofParts, monthLength_ofParts hm]
    omega
  rw [next, if_neg hday]
  unfold ofParts
  interval_cases m <;> simp [add_assoc]

theorem ofDays_month_end {y m d : Nat} (h : Fits y m d) (hm : m ≠ 11)
    (hend : monthStart m + (d + 1) = monthStart (m + 1)) (era : Int) :
    ofDays (dayOf era y m d + 1) = ofParts era y (m + 1) 0 := by
  have hlast := h.month
  have hlength := yearLength_bounds y
  have hstart : monthStart (m + 1) ≤ 337 ∧ monthStart (m + 1) < monthStart (m + 1 + 1) := by
    unfold monthStart
    omega
  have h' : Fits y (m + 1) 0 := ⟨h.year, by omega, hstart.2, by omega⟩
  have hnext : dayOf era y m d + 1 = dayOf era y (m + 1) 0 := by
    unfold dayOf
    omega
  rw [hnext, ofDays_dayOf h']

theorem ofDays_year_end {y d : Nat} (h : Fits y 11 d)
    (hend : monthStart 11 + (d + 1) = yearLength y) (era : Int) :
    ofDays (dayOf era y 11 d + 1) = ofParts era (y + 1) 0 0 := by
  rcases Nat.lt_or_ge y 399 with hy | hy
  · have hlength := yearLength_bounds (y + 1)
    have h' : Fits (y + 1) 0 0 :=
      ⟨by omega, by decide, by decide, Nat.lt_of_lt_of_le (by decide) hlength.1⟩
    have hnext : dayOf era y 11 d + 1 = dayOf era (y + 1) 0 0 := by
      unfold dayOf
      rw [yearStart_succ hy]
      change _ = era * eraDays + (_ + 0 : Nat) - epochOffset
      omega
    rw [hnext, ofDays_dayOf h']
  · -- the last year of an era, before the first year of the next one
    obtain rfl : y = 399 := Nat.le_antisymm (Nat.le_of_lt_succ h.year) hy
    have h' : Fits 0 0 0 := ⟨by decide, by decide, by decide, by decide⟩
    have hera : yearStart 399 + yearLength 399 = 146097 := by decide
    have hnext : dayOf era 399 11 d + 1 = dayOf (era + 1) 0 0 0 := by
      unfold dayOf
      rw [Int.add_mul]
      change _ = era * eraDays + 1 * 146097 + (0 : Nat) - epochOffset
      omega
    have hyear : (era + 1) * 400 + ((0 : Nat) : Int) = era * 400 + ((399 + 1 : Nat) : Int) := by
      omega
    rw [hnext, ofDays_dayOf h']
    exact congrArg (Date.mk · 3 1) hyear

/-- **The next number of days is the next day.**  Either the day is not the last one of its month,
or the month or the year is at its end and the next one begins. -/
theorem ofDays_next (n : Int) : ofDays (n + 1) = (ofDays n).next := by
  obtain ⟨era, y, m, d, h, rfl⟩ := exists_dayOf n
  have hmonth := h.inMonth
  have hyear := h.inYear
  have hlength := yearLength_bounds y
  rw [ofDays_dayOf h]
  by_cases hlast : monthStart m + (d + 1) < min (monthStart (m + 1)) (yearLength y)
  · have h' : Fits y m (d + 1) := ⟨h.year, h.month, by omega, by omega⟩
    have hnext : dayOf era y m d + 1 = dayOf era y m (d + 1) := by
      unfold dayOf
      omega
    rw [hnext, ofDays_dayOf h', next_ofParts h']
  · have hend : monthStart m + (d + 1) = min (monthStart (m + 1)) (yearLength y) := by omega
    rw [next_ofParts_of_end h.month hend]
    by_cases hm : m = 11
    · subst hm
      have hstart : monthStart (11 + 1) = 367 := rfl
      rw [if_pos rfl, ofDays_year_end h (by omega)]
    · have hlt := h.month
      have hstart : monthStart (m + 1) ≤ 337 := by
        unfold monthStart
        omega
      rw [if_neg hm, ofDays_month_end h hm (by omega)]

/-! ## 5. Order and range -/

/-- **Dates come in the order of their days.** -/
theorem key_lt_key {m n : Int} (h : m < n) : (ofDays m).key < (ofDays n).key := by
  have hmono : StrictMono fun n => (ofDays n).key := by
    refine strictMono_int_of_lt_succ fun n => ?_
    rw [ofDays_next]
    exact key_lt_next _
  exact hmono h

/-- **Each number of days gives a date that exists.** -/
theorem isDate_ofDays (n : Int) : IsDate (ofDays n) := by
  obtain ⟨era, y, m, d, h, rfl⟩ := exists_dayOf n
  have hmonth := h.inMonth
  have hyear := h.inYear
  have hm := h.month
  rw [ofDays_dayOf h, IsDate, monthLength_ofParts hm, day_ofParts]
  refine ⟨?_, ?_, by omega, by omega⟩
  · unfold ofParts
    split <;> dsimp only <;> omega
  · unfold ofParts
    split <;> dsimp only <;> omega

theorem IsDate.day_le {d : Date} (h : IsDate d) : d.day ≤ 31 := by
  obtain ⟨-, -, -, hday⟩ := h
  unfold monthLength at hday
  split_ifs at hday <;> omega

/-- Days are counted from the start of 1970, so `ofDays_next` tells all dates. -/
example : ofDays 0 = ⟨1970, 1, 1⟩ := by decide

end Date

end Logbook
