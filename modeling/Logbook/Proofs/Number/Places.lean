/-
# Numerals with places

A number is written with places by counting units of the last place.  The count is a natural
number, and the point is put in front of its last digits.  So there is always a digit in front of
the point, and behind it there are as many as were asked for (`hasPlaces_withPoint`).

Grouping takes the digits in front of the point apart.  The commas stand between groups of three
digits, of which the first one may be shorter but not empty (`groupThousands_eq`); the places are
left as they are (`groupInteger_append`).
-/
import Logbook.Number.Format
import Logbook.Proofs.Number.Digits

namespace Logbook

/-! ## 1. Rows and places -/

/-- One or more digits. -/
structure IsRow (s : List Char) : Prop where
  ne_nil : s ≠ []
  mem : ∀ c ∈ s, c ∈ decimalDigits

/-- A point and a number of digits, or nothing for no places. -/
inductive IsPlaces : Nat → List Char → Prop where
  | none : IsPlaces 0 []
  | point {places : Nat} {ds : List Char} (hpos : 0 < places) (hlength : ds.length = places)
      (h : ∀ c ∈ ds, c ∈ decimalDigits) : IsPlaces places ('.' :: ds)

/-- What stands in front of the places, and the places. -/
def HasPlaces (Whole : List Char → Prop) (places : Nat) (s : List Char) : Prop :=
  ∃ whole fraction, s = whole ++ fraction ∧ Whole whole ∧ IsPlaces places fraction

theorem isRow_decimal (n : Nat) : IsRow (decimal n) :=
  ⟨Nat.toDigits_ne_nil, (writtenIn_decimal n).mem⟩

theorem length_decimal_le {places n : Nat} (hplaces : 0 < places) (h : n < Nat.pow 10 places) :
    (decimal n).length ≤ places :=
  (Nat.length_toDigits_le_iff (by decide) hplaces).mpr h

theorem isPlaces_padZeros {places n : Nat} (hplaces : 0 < places) (h : n < Nat.pow 10 places) :
    IsPlaces places ('.' :: padZeros places (decimal n)) := by
  refine .point hplaces ?_ ((writtenIn_decimal n).padZeros places rfl).mem
  rw [length_padZeros, max_eq_left (length_decimal_le hplaces h)]

/-- **A count of units in the last place has a row in front of its places.** -/
theorem hasPlaces_withPoint (places n : Nat) : HasPlaces IsRow places (withPoint places n) := by
  unfold withPoint
  split
  · rename_i hzero
    exact ⟨_, [], (List.append_nil _).symm, isRow_decimal n, hzero ▸ .none⟩
  · rename_i hplaces
    have hlt : n % Nat.pow 10 places < Nat.pow 10 places := Nat.mod_lt n (Nat.pow_pos (by decide))
    exact ⟨_, _, rfl, isRow_decimal _, isPlaces_padZeros (Nat.pos_of_ne_zero hplaces) hlt⟩

theorem hasPlaces_fixed (num den places : Nat) : HasPlaces IsRow places (fixed num den places) :=
  hasPlaces_withPoint _ _

theorem hasPlaces_scientific (num den places : Nat) :
    HasPlaces IsRow places (scientific num den places).1 := by
  unfold scientific
  dsimp only
  split
  · exact hasPlaces_withPoint _ _
  · split
    · exact hasPlaces_withPoint _ _
    · exact hasPlaces_withPoint _ _

/-! ## 2. Groups -/

/-- Rows of digits with commas between them. -/
inductive IsSeparated : List Char → Prop where
  | row {s : List Char} (h : IsRow s) : IsSeparated s
  | comma {s t : List Char} (h : IsSeparated s) (ht : IsRow t) : IsSeparated (s ++ ',' :: t)

/-- **The commas cut the digits into groups of three**, with a first group of one to three. -/
theorem groupThousands_eq {digits : List Char} (hne : digits ≠ []) :
    ∃ (first : List Char) (groups : List (List Char)), digits = first ++ groups.flatten ∧
      groupThousands digits = first ++ groups.flatMap (',' :: ·) ∧
      first ≠ [] ∧ first.length ≤ 3 ∧ ∀ g ∈ groups, g.length = 3 := by
  induction digits with
  | nil => exact absurd rfl hne
  | cons d rest ih =>
    rcases eq_or_ne rest [] with rfl | hrest
    · exact ⟨[d], [], rfl, rfl, by simp, by simp, by simp⟩
    · obtain ⟨first, groups, hdigits, htext, hfirst, hshort, hthree⟩ := ih hrest
      -- the rest is in groups of three exactly if its first group is
      have hmod : rest.length % 3 = first.length % 3 := by
        have hsum : groups.flatten.length % 3 = 0 := by
          rw [List.length_flatten, List.map_congr_left hthree, List.map_const',
            List.sum_replicate_nat]
          exact Nat.mul_mod_left _ 3
        rw [hdigits, List.length_append]
        omega
      have hpos : 0 < first.length := List.length_pos_of_ne_nil hfirst
      unfold groupThousands
      split
      · rename_i hfull
        have hlength : first.length = 3 := by omega
        refine ⟨[d], first :: groups, by simp [hdigits], by simp [htext], by simp, by simp, ?_⟩
        intro g hg
        rcases List.mem_cons.mp hg with rfl | hg
        · exact hlength
        · exact hthree g hg
      · rename_i hnot
        have hlength : first.length ≠ 3 := fun h => hnot ⟨by omega, hrest⟩
        refine ⟨d :: first, groups, by simp [hdigits], by simp [htext], by simp, ?_, hthree⟩
        rw [List.length_cons]
        omega

theorem IsSeparated.append_groups {s : List Char} (h : IsSeparated s) {groups : List (List Char)}
    (hgroups : ∀ g ∈ groups, IsRow g) : IsSeparated (s ++ groups.flatMap (',' :: ·)) := by
  induction groups generalizing s with
  | nil => simpa using h
  | cons g groups ih =>
    have hrest := ih (h.comma (hgroups g List.mem_cons_self))
      fun x hx => hgroups x (List.mem_cons_of_mem g hx)
    simpa using hrest

/-- **Grouped digits are rows with commas between them.** -/
theorem isSeparated_groupThousands {digits : List Char} (h : IsRow digits) :
    IsSeparated (groupThousands digits) := by
  obtain ⟨first, groups, hdigits, htext, hfirst, -, hthree⟩ := groupThousands_eq h.ne_nil
  have hmem := h.mem
  rw [hdigits] at hmem
  rw [htext]
  refine (IsSeparated.row ⟨hfirst, fun c hc => ?_⟩).append_groups fun g hg => ⟨?_, fun c hc => ?_⟩
  · exact hmem c (List.mem_append_left _ hc)
  · rintro rfl
    exact absurd (hthree [] hg) (by decide)
  · exact hmem c (List.mem_append_right _ (List.mem_flatten_of_mem hg hc))

/-- Grouping stops at the point. -/
theorem groupInteger_append {whole fraction : List Char} {places : Nat} (hwhole : '.' ∉ whole)
    (h : IsPlaces places fraction) :
    groupInteger (whole ++ fraction) = groupThousands whole ++ fraction := by
  have hpoint : ∀ c ∈ whole, (c != '.') = true := fun c hc =>
    bne_iff_ne.mpr fun heq => hwhole (heq ▸ hc)
  have hcut : fraction.takeWhile (· != '.') = [] ∧ fraction.dropWhile (· != '.') = fraction := by
    cases h with
    | none => exact ⟨rfl, rfl⟩
    | point => exact ⟨rfl, rfl⟩
  rw [groupInteger, List.takeWhile_append_of_pos hpoint, List.dropWhile_append_of_pos hpoint,
    hcut.1, hcut.2, List.append_nil]

theorem IsRow.point_notMem {s : List Char} (h : IsRow s) : '.' ∉ s := fun hmem =>
  absurd (h.mem _ hmem) (by decide)

theorem HasPlaces.groupInteger {places : Nat} {s : List Char} (h : HasPlaces IsRow places s) :
    HasPlaces IsSeparated places (groupInteger s) := by
  obtain ⟨whole, fraction, rfl, hwhole, hfraction⟩ := h
  exact ⟨_, fraction, groupInteger_append hwhole.point_notMem hfraction,
    isSeparated_groupThousands hwhole, hfraction⟩

/-! ## 3. Whole numbers -/

/-- The sign stands in front of all of it. -/
theorem withZeros_signed (negative : Bool) (numeral : List Char) (places : Nat) :
    Integer.withZeros (signed negative numeral) places =
      signed negative (Integer.withZeros numeral places) := by
  unfold Integer.withZeros
  split
  · rfl
  · cases negative <;> rfl

theorem isPlaces_zeros {places : Nat} (h : 0 < places) :
    IsPlaces places ('.' :: List.replicate places '0') :=
  .point h List.length_replicate fun _ hc => List.eq_of_mem_replicate hc ▸ List.mem_cons_self

/-- A whole number has zeros in its places. -/
theorem hasPlaces_withZeros {Whole : List Char → Prop} {numeral : List Char} (h : Whole numeral)
    (places : Nat) : HasPlaces Whole places (Integer.withZeros numeral places) := by
  unfold Integer.withZeros
  split
  · rename_i hzero
    exact ⟨numeral, [], (List.append_nil _).symm, h, hzero ▸ .none⟩
  · rename_i hplaces
    exact ⟨numeral, _, rfl, h, isPlaces_zeros (Nat.pos_of_ne_zero hplaces)⟩

theorem groupInteger_withZeros {numeral : List Char} (h : '.' ∉ numeral) (places : Nat) :
    groupInteger (Integer.withZeros numeral places) =
      Integer.withZeros (groupThousands numeral) places := by
  unfold Integer.withZeros
  split
  · have hgroup := groupInteger_append h .none
    rwa [List.append_nil, List.append_nil] at hgroup
  · rename_i hplaces
    exact groupInteger_append h (isPlaces_zeros (Nat.pos_of_ne_zero hplaces))

theorem withPoint_mul_pow (places k : Nat) :
    withPoint places (k * Nat.pow 10 places) = Integer.withZeros (decimal k) places := by
  have hpos : 0 < Nat.pow 10 places := Nat.pow_pos (by decide)
  unfold withPoint Integer.withZeros
  split
  · rename_i hzero
    rw [hzero]
    exact congrArg decimal (Nat.mul_one k)
  · rename_i hplaces
    obtain ⟨n, rfl⟩ : ∃ n, places = n + 1 := ⟨places - 1, by omega⟩
    rw [Nat.mul_div_cancel k hpos, Nat.mul_mod_left]
    have hzeros : padZeros (n + 1) (decimal 0) = List.replicate (n + 1) '0' := by
      rw [List.replicate_succ']
      rfl
    rw [hzeros]

/-- **A quotient that is a whole number** has zeros in its places. -/
theorem fixed_mul {den : Nat} (hden : 0 < den) (k places : Nat) :
    fixed (k * den) den places = Integer.withZeros (decimal k) places := by
  have hunits : k * den * Nat.pow 10 places = k * Nat.pow 10 places * den := by ring
  rw [fixed, hunits, roundEven_mul hden, withPoint_mul_pow]

end Logbook
