/-
# Fields in columns

The sortable patterns write the fields of a clock in columns: each field is a numeral with zeros in
front, up to its width, and a mark that is no digit stands behind it (`columns`).

* The marks tell the columns apart, whatever their widths: the text determines the numbers and what
  stands behind the last mark (`columns_inj`).
* If no number is too wide for its column, texts are ordered like their rows of numbers, the first
  column before the second one (`columns_lt`).

`render_universal` and `render_roundTrip` show two standard patterns as columns.  The year of the
second one may have a sign, and any number of digits (`year_append_inj`).
-/
import Logbook.Proofs.Number.Digits
import Logbook.Proofs.Timestamp.Quotations

namespace Logbook

namespace Pattern

/-! ## 1. Columns -/

/-- Numbers in columns, given by their widths and the marks behind them, in front of a text. -/
def columns : List (Nat × Char) → List Nat → List Char → List Char
  | (width, mark) :: cols, n :: ns, rest =>
    padZeros width (decimal n) ++ mark :: columns cols ns rest
  | _, _, rest => rest

theorem writtenIn_padZeros (width n : Nat) :
    WrittenIn decimalDigits (padZeros width (decimal n)) n :=
  (writtenIn_decimal n).padZeros width rfl

/-- **The text determines the numbers in its columns.** -/
theorem columns_inj {cols : List (Nat × Char)} (hmarks : ∀ col ∈ cols, col.2 ∉ decimalDigits)
    {ns ms : List Nat} (hns : ns.length = cols.length) (hms : ms.length = cols.length)
    {rest rest' : List Char} (h : columns cols ns rest = columns cols ms rest') :
    ns = ms ∧ rest = rest' := by
  induction cols generalizing ns ms with
  | nil =>
    rw [List.length_eq_zero_iff.mp hns, List.length_eq_zero_iff.mp hms]
    exact ⟨rfl, h⟩
  | cons col cols ih =>
    obtain ⟨width, mark⟩ := col
    obtain ⟨n, ns, rfl⟩ := List.exists_cons_of_length_eq_add_one hns
    obtain ⟨m, ms, rfl⟩ := List.exists_cons_of_length_eq_add_one hms
    have hmark : mark ∉ decimalDigits := hmarks _ List.mem_cons_self
    obtain ⟨rfl, -, hcolumns⟩ := (writtenIn_padZeros width n).append_inj
      (writtenIn_padZeros width m) hmark hmark h
    obtain ⟨rfl, hrest⟩ := ih (fun c hc => hmarks c (List.mem_cons_of_mem _ hc))
      (Nat.succ.inj hns) (Nat.succ.inj hms) hcolumns
    exact ⟨rfl, hrest⟩

/-- A number that fits into a column. -/
def FitsColumn (col : Nat × Char) (n : Nat) : Prop := 0 < col.1 ∧ n < 10 ^ col.1

instance (col : Nat × Char) (n : Nat) : Decidable (FitsColumn col n) :=
  inferInstanceAs (Decidable (_ ∧ _))

theorem FitsColumn.length {col : Nat × Char} {n : Nat} (h : FitsColumn col n) :
    (Logbook.padZeros col.1 (decimal n)).length = col.1 := by
  have hle : (decimal n).length ≤ col.1 := (Nat.length_toDigits_le_iff (by decide) h.1).mpr h.2
  rw [length_padZeros]
  omega

/-- A smaller row of the same length decides, whatever follows. -/
theorem append_lt_append {s t : List Char} (hlength : s.length = t.length) (h : s < t)
    (rest rest' : List Char) : s ++ rest < t ++ rest' := by
  induction s generalizing t with
  | nil =>
    obtain rfl : t = [] := List.length_eq_zero_iff.mp hlength.symm
    exact absurd h (List.lt_irrefl _)
  | cons c s ih =>
    obtain ⟨d, t, rfl⟩ := List.exists_cons_of_length_eq_add_one hlength.symm
    rcases List.cons_lt_cons_iff.mp h with hcd | ⟨rfl, hst⟩
    · exact List.cons_lt_cons_iff.mpr (.inl hcd)
    · exact List.cons_lt_cons_iff.mpr (.inr ⟨rfl, ih (Nat.succ.inj hlength) hst⟩)

/-- **Numbers that fit are ordered as their columns are.** -/
theorem columns_lt {cols : List (Nat × Char)} {ns ms : List Nat}
    (hns : List.Forall₂ FitsColumn cols ns) (hms : List.Forall₂ FitsColumn cols ms) (h : ns < ms)
    (rest rest' : List Char) : columns cols ns rest < columns cols ms rest' := by
  induction hns generalizing ms with
  | nil =>
    cases hms
    exact absurd h (List.lt_irrefl _)
  | @cons col n cols ns hn hns ih =>
    cases hms with
    | @cons _ m _ ms hm hms =>
      rcases List.cons_lt_cons_iff.mp h with hlt | ⟨rfl, hlt⟩
      · have hlength := hn.length.trans hm.length.symm
        have hrow := ((writtenIn_padZeros col.1 n).lt_iff (by decide)
          (writtenIn_padZeros col.1 m) hlength).mpr hlt
        exact append_lt_append hlength hrow _ _
      · exact List.append_left_lt (List.cons_lt_cons_iff.mpr (.inr ⟨rfl, ih hms hlt⟩))

/-! ## 2. Two standard patterns -/

theorem year_of_nonneg {y : Int} (h : 0 ≤ y) :
    year 4 y = Logbook.padZeros 4 (decimal y.natAbs) := by
  simp [year, padSigned, Int.not_lt.mpr h]

theorem year_of_neg {y : Int} (h : y < 0) :
    year 4 y = '-' :: Logbook.padZeros 3 (decimal y.natAbs) := by
  simp [year, padSigned, h]

/-- The month, the day and the time of day, with the marks before the time and behind it. -/
def timeColumns (between last : Char) : List (Nat × Char) :=
  [(2, '-'), (2, between), (2, ':'), (2, ':'), (2, last)]

end Pattern

/-- The month, the day and the time of day. -/
def Clock.numbers (c : Clock) : List Nat := [c.date.month, c.date.day, c.hour, c.minute, c.second]

namespace Pattern

theorem render_universal (c : Clock) :
    render c "yyyy'-'MM'-'dd HH':'mm':'ss'Z'".toList =
      year 4 c.date.year ++ '-' :: columns (timeColumns ' ' 'Z') c.numbers [] := by
  simp [render, field?, columns, timeColumns, Clock.numbers, numberOrName, oneOrTwo]

theorem render_roundTrip (c : Clock) :
    render c "yyyy'-'MM'-'dd'T'HH':'mm':'ss.fffffffzzz".toList =
      year 4 c.date.year ++ '-' :: columns (timeColumns 'T' '.') c.numbers
        (fraction 7 c.nanos ++ offset 3 c.offset) := by
  simp [render, field?, columns, timeColumns, Clock.numbers, numberOrName, oneOrTwo]

end Pattern

end Logbook
