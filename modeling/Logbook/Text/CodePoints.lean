/-
# Sets of code points

Character classes of a standard are given as lists of closed intervals of code points.
`CodePoints.has` decides membership, and `has_iff` says that it does: a character is in
the set when some interval of the list holds its code point.
-/

namespace Logbook.Text

/-- A set of code points, as closed intervals. -/
abbrev CodePoints := List (Nat × Nat)

/-- Whether some interval holds the character. -/
def CodePoints.has (ranges : CodePoints) (c : Char) : Bool :=
  ranges.any fun (low, high) => low ≤ c.toNat && c.toNat ≤ high

theorem CodePoints.has_iff {ranges : CodePoints} {c : Char} :
    ranges.has c = true ↔ ∃ r ∈ ranges, r.1 ≤ c.toNat ∧ c.toNat ≤ r.2 := by
  simp [CodePoints.has]

end Logbook.Text
