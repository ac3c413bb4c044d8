/-
# Grouped and fixed texts

The formats `N` and `F` write a number with the same places, the one with its integer part grouped
and the other without (`GroupsInteger`).  They get there in different ways.  The digits of an integer
are grouped first and given zeros for their places afterwards; of a double or a single the finished
numeral is taken apart at its point.  The sign is set apart in both, since the groups would be
counted from it otherwise, and is put back at the end.

It is put back by another rule than the one that the fixed text has.  A number that is rounded to
zero keeps it, but zero itself has no sign when it is grouped, and has one when it is not.  So the
two texts of a zero below zero differ in more than commas.  They do for no other number
(`textIn_grouped`).
-/
import Logbook.Proofs.Number.Formats

namespace Logbook

/-! ## 1. Groups in a text -/

/-- A row of digits, and the same in groups of three from the right, with commas between them.  The
first group has one to three. -/
inductive Grouped : List Char → List Char → Prop where
  | groups {first : List Char} {groups : List (List Char)} (hfirst : IsRow first)
      (hshort : first.length ≤ 3) (hgroups : ∀ g ∈ groups, IsRow g ∧ g.length = 3) :
      Grouped (first ++ groups.flatten) (first ++ groups.flatMap (',' :: ·))

/-- Two texts of a number with places, of which the second one has its integer part grouped. -/
inductive GroupsInteger (places : Nat) : List Char → List Char → Prop where
  | parts {sign whole grouped fraction : List Char} (hsign : sign = [] ∨ sign = ['-'])
      (hwhole : Grouped whole grouped) (hfraction : IsPlaces places fraction) :
      GroupsInteger places (sign ++ whole ++ fraction) (sign ++ grouped ++ fraction)

/-- If one of two neighbours is a comma, the other one is a digit. -/
def BesideDigits (c d : Char) : Prop :=
  (c = ',' → d ∈ decimalDigits) ∧ (d = ',' → c ∈ decimalDigits)

theorem comma_notMem_digits : ',' ∉ decimalDigits := by decide

theorem IsRow.comma_notMem {s : List Char} (h : IsRow s) : ',' ∉ s := fun hmem =>
  comma_notMem_digits (h.mem _ hmem)

theorem IsPlaces.comma_notMem {places : Nat} {s : List Char} (h : IsPlaces places s) : ',' ∉ s := by
  cases h with
  | none => exact List.not_mem_nil
  | point _ _ hdigits =>
    intro hmem
    rcases List.mem_cons.mp hmem with heq | hmem
    · exact absurd heq (by decide)
    · exact comma_notMem_digits (hdigits _ hmem)

/-- **Grouping gives groups.** -/
theorem grouped_groupThousands {digits : List Char} (h : IsRow digits) :
    Grouped digits (groupThousands digits) := by
  obtain ⟨first, groups, rfl, htext, hfirst, hshort, hthree⟩ := groupThousands_eq h.ne_nil
  rw [htext]
  refine .groups ⟨hfirst, fun c hc => h.mem c (List.mem_append_left _ hc)⟩ hshort fun g hg => ?_
  have hne : g ≠ [] := by
    rintro rfl
    exact absurd (hthree [] hg) (by decide)
  exact ⟨⟨hne, fun c hc => h.mem c (List.mem_append_right _ (List.mem_flatten_of_mem hg hc))⟩,
    hthree g hg⟩

theorem filter_of_no_comma {s : List Char} (h : ',' ∉ s) : s.filter (· != ',') = s :=
  List.filter_eq_self.mpr fun _ hc => bne_iff_ne.mpr fun heq => h (heq ▸ hc)

theorem Grouped.filter_eq {whole grouped : List Char} (h : Grouped whole grouped) :
    grouped.filter (· != ',') = whole := by
  obtain @⟨first, groups, hfirst, -, hgroups⟩ := h
  have hrest : (groups.flatMap (',' :: ·)).filter (· != ',') = groups.flatten := by
    induction groups with
    | nil => rfl
    | cons g groups ih =>
      have hg : g.filter (· != ',') = g :=
        filter_of_no_comma (hgroups g List.mem_cons_self).1.comma_notMem
      rw [List.flatMap_cons, List.filter_append, List.filter_cons_of_neg (by decide), hg,
        ih fun x hx => hgroups x (List.mem_cons_of_mem g hx), List.flatten_cons]
  rw [List.filter_append, filter_of_no_comma hfirst.comma_notMem, hrest]

/-- **Commas are all that grouping puts in.** -/
theorem GroupsInteger.filter_eq {places : Nat} {fixed grouped : List Char}
    (h : GroupsInteger places fixed grouped) : grouped.filter (· != ',') = fixed := by
  obtain @⟨sign, whole, groups, fraction, hsign, hwhole, hfraction⟩ := h
  have hbare : ',' ∉ sign := by
    rcases hsign with rfl | rfl <;> decide
  rw [List.filter_append, List.filter_append, filter_of_no_comma hbare, hwhole.filter_eq,
    filter_of_no_comma hfraction.comma_notMem]

/-- **The groups of a numeral** stand between its sign and its places. -/
theorem groupsInteger_signed (negative : Bool) {places : Nat} {body : List Char}
    (h : HasPlaces IsRow places body) :
    GroupsInteger places (signed negative body) (signed negative (groupInteger body)) := by
  obtain ⟨whole, fraction, rfl, hwhole, hfraction⟩ := h
  rw [groupInteger_append hwhole.point_notMem hfraction]
  have hgrouped := grouped_groupThousands hwhole
  cases negative with
  | false => exact .parts (.inl rfl) hgrouped hfraction
  | true => exact .parts (.inr rfl) hgrouped hfraction

/-! ## 2. Commas and their neighbours -/

theorem besideDigits_left {c d : Char} (hc : c ∈ decimalDigits) : BesideDigits c d :=
  ⟨fun h => absurd (h ▸ hc) comma_notMem_digits, fun _ => hc⟩

theorem besideDigits_right {c d : Char} (hd : d ∈ decimalDigits) : BesideDigits c d :=
  ⟨fun _ => hd, fun h => absurd (h ▸ hd) comma_notMem_digits⟩

theorem isChain_of_no_comma {s : List Char} (h : ',' ∉ s) : s.IsChain BesideDigits := by
  have hne : ∀ c ∈ s, c ≠ ',' := fun c hc heq => h (heq ▸ hc)
  exact (List.pairwise_of_forall_mem_list fun c hc d hd =>
    ⟨fun heq => absurd heq (hne c hc), fun heq => absurd heq (hne d hd)⟩).isChain

theorem IsSeparated.getLast_mem {s : List Char} (h : IsSeparated s) :
    ∀ c ∈ s.getLast?, c ∈ decimalDigits := by
  cases h with
  | row h => exact fun c hc => h.mem c (List.mem_of_getLast? hc)
  | @comma s t _ ht =>
    intro c hc
    rw [List.append_cons, List.getLast?_append_of_ne_nil _ ht.ne_nil] at hc
    exact ht.mem c (List.mem_of_getLast? hc)

/-- **The commas of a grouped row** stand between digits. -/
theorem IsSeparated.isChain {s : List Char} (h : IsSeparated s) : s.IsChain BesideDigits := by
  induction h with
  | row h => exact isChain_of_no_comma h.comma_notMem
  | @comma s t hs ht ih =>
    obtain ⟨d, rest, rfl⟩ := List.exists_cons_of_ne_nil ht.ne_nil
    have hrow : (',' :: d :: rest).IsChain BesideDigits :=
      List.isChain_cons_cons.mpr
        ⟨besideDigits_right (ht.mem d List.mem_cons_self), isChain_of_no_comma ht.comma_notMem⟩
    exact List.isChain_append.mpr
      ⟨ih, hrow, fun c hc _ _ => besideDigits_left (hs.getLast_mem c hc)⟩

theorem HasPlaces.isChain_signed (negative : Bool) {places : Nat} {body : List Char}
    (h : HasPlaces IsSeparated places body) : (signed negative body).IsChain BesideDigits := by
  obtain ⟨whole, fraction, rfl, hwhole, hfraction⟩ := h
  have hbody : (whole ++ fraction).IsChain BesideDigits :=
    List.isChain_append.mpr ⟨hwhole.isChain, isChain_of_no_comma hfraction.comma_notMem,
      fun c hc _ _ => besideDigits_left (hwhole.getLast_mem c hc)⟩
  cases negative with
  | false => exact hbody
  | true =>
    obtain ⟨d, rest, rfl, hd⟩ := hwhole.exists_digit
    exact List.isChain_cons_cons.mpr ⟨besideDigits_right hd, hbody⟩

/-! ## 3. Zero below zero -/

namespace Binary

variable {p : Precision}

/-- Zero with a minus sign. -/
def IsNegativeZero (x : Binary p) : Prop := ∃ e h, x = .finite true 0 e h

theorem isNegativeZero_finite_iff {negative : Bool} {m : Nat} {e : Int} {h : p.Holds m e} :
    (finite negative m e h).IsNegativeZero ↔ negative = true ∧ m = 0 := by
  constructor
  · rintro ⟨e', h', heq⟩
    injection heq with hsign hm
    exact ⟨hsign, hm⟩
  · rintro ⟨rfl, rfl⟩
    exact ⟨e, h, rfl⟩

theorem magnitude_eq_zero_iff {m : Nat} {e : Int} : magnitude m e = 0 ↔ m = 0 := by
  constructor
  · intro h
    by_contra hm
    exact (magnitude_pos (Nat.pos_of_ne_zero hm) e).ne' h
  · rintro rfl
    rw [magnitude, Nat.cast_zero, zero_mul]

/-- A datum of the same value is a zero below zero if the other one is. -/
theorem SameValue.isNegativeZero_iff {q : Precision} {x : Binary p} {y : Binary q}
    (h : x.SameValue y) : y.IsNegativeZero ↔ x.IsNegativeZero := by
  cases h with
  | nan => exact iff_of_false (fun ⟨_, _, h⟩ => nomatch h) (fun ⟨_, _, h⟩ => nomatch h)
  | infinite => exact iff_of_false (fun ⟨_, _, h⟩ => nomatch h) (fun ⟨_, _, h⟩ => nomatch h)
  | finite negative hvalue =>
    rw [isNegativeZero_finite_iff, isNegativeZero_finite_iff, ← magnitude_eq_zero_iff, ← hvalue,
      magnitude_eq_zero_iff]

end Binary

/-- The number is a zero with a minus sign. -/
inductive Scalar.IsNegativeZero : Scalar → Prop where
  | single {x : Binary .single} (h : x.IsNegativeZero) : IsNegativeZero (.single x)
  | double {x : Binary .double} (h : x.IsNegativeZero) : IsNegativeZero (.double x)

theorem Scalar.isNegativeZero_single_iff {x : Binary .single} :
    (Scalar.single x).IsNegativeZero ↔ x.IsNegativeZero :=
  ⟨fun | .single h => h, .single⟩

theorem Scalar.isNegativeZero_double_iff {x : Binary .double} :
    (Scalar.double x).IsNegativeZero ↔ x.IsNegativeZero :=
  ⟨fun | .double h => h, .double⟩

/-! ## 4. The two texts of a number -/

/-- The fixed and the grouped text of a number.  Only a zero below zero has its sign in one of
them. -/
inductive WrittenTwice (negativeZero : Prop) (places : Nat) : List Char → List Char → Prop where
  | alike {negative : Bool} {body : List Char} (hbody : HasPlaces IsRow places body)
      (h : ¬ negativeZero) :
      WrittenTwice negativeZero places (signed negative body) (signed negative (groupInteger body))
  | zero {body : List Char} (hbody : HasPlaces IsRow places body) (h : negativeZero) :
      WrittenTwice negativeZero places ('-' :: body) (groupInteger body)

/-- A datum is written with the same numeral both times. -/
theorem Binary.writtenTwice {p : Precision} {x : Binary p} (hx : x.isFinite = true)
    (places : Nat) : WrittenTwice x.IsNegativeZero places (x.fixedText places)
      (x.groupedText places) := by
  cases x with
  | nan => exact absurd hx Bool.false_ne_true
  | infinite negative => exact absurd hx Bool.false_ne_true
  | finite negative m e h =>
    have hbody := hasPlaces_fixed (ratio m e).1 (ratio m e).2 places
    by_cases hzero : negative = true ∧ m = 0
    · obtain ⟨rfl, rfl⟩ := hzero
      exact .zero hbody (isNegativeZero_finite_iff.mpr ⟨rfl, rfl⟩)
    · have hsign : (negative && m != 0) = negative := by
        cases negative with
        | false => rfl
        | true => exact bne_iff_ne.mpr fun hm => hzero ⟨rfl, hm⟩
      have hgrouped : (finite negative m e h).groupedText places =
          signed negative (groupInteger (fixed (ratio m e).1 (ratio m e).2 places)) :=
        congrArg (signed · _) hsign
      rw [hgrouped]
      exact .alike hbody (mt isNegativeZero_finite_iff.mp hzero)

/-- An integer is grouped before its places are there, which makes no difference. -/
theorem Integer.writtenTwice (n : Integer) (precision : Option Nat) :
    WrittenTwice (Scalar.integer n).IsNegativeZero (precision.getD 2)
      (n.formatted ⟨.fixed, precision⟩) (n.formatted ⟨.grouped, precision⟩) := by
  have hrow := isRow_decimal n.value.natAbs
  change WrittenTwice _ _ (withZeros (signed (n.value < 0) _) _)
    (withZeros (signed (n.value < 0) (groupThousands _)) _)
  rw [withZeros_signed, withZeros_signed, ← groupInteger_withZeros hrow.point_notMem]
  exact .alike (hasPlaces_withZeros hrow _) fun h => nomatch h

namespace Provider

open NumberFormat

variable {s : Scalar} {plain grouped : Char} {digits : List Char} {precision : Option Nat}

/-- **A finite number is written twice** with one numeral, in the fixed and in the grouped format. -/
theorem writtenTwice_textIn (hs : s.isFinite = true) (hplain : style? plain = some .fixed)
    (hgrouped : style? grouped = some .grouped) (h : Asks digits precision) :
    WrittenTwice s.IsNegativeZero (precision.getD 2) (textIn s plain digits).toList
      (textIn s grouped digits).toList := by
  have hformatted : ∀ {x : Binary .double}, x.isFinite = true → ∀ text,
      WrittenTwice x.IsNegativeZero (precision.getD 2)
        ((x.formatted? ⟨.fixed, precision⟩).getD text)
        ((x.formatted? ⟨.grouped, precision⟩).getD text) := by
    intro x hx text
    have htwice := x.writtenTwice hx (precision.getD 2)
    change WrittenTwice _ _ (x.fixedText _) (if x.isFinite then x.groupedText _ else x.text)
    rwa [if_pos hx]
  cases s with
  | integer n =>
    have htext := n.writtenTwice precision
    rw [← n.textIn_eq h hplain, ← n.textIn_eq h hgrouped] at htext
    exact htext
  | single x =>
    have hsame := Binary.sameValue_convert Precision.Within.single_double (by decide) x
    rw [toList_textIn_single h hplain, toList_textIn_single h hgrouped,
      Scalar.isNegativeZero_single_iff, ← hsame.isNegativeZero_iff]
    exact hformatted (Binary.isFinite_scale_convert hs (le_refl 100)).1 _
  | double x =>
    rw [toList_textIn_double h hplain, toList_textIn_double h hgrouped,
      Scalar.isNegativeZero_double_iff]
    exact hformatted hs _
  | _ => exact absurd hs Bool.false_ne_true

/-- **The grouped text of a finite number is its fixed text with the integer part grouped**, so that
the fixed text is left without the commas, unless the number is a zero below zero.  In any grouped
text the neighbours of a comma are digits. -/
theorem textIn_grouped (hs : s.isFinite = true) (hplain : plain ∈ ['F', 'f'])
    (hgrouped : grouped ∈ ['N', 'n']) (h : Asks digits precision) :
    (GroupsInteger (precision.getD 2) (textIn s plain digits).toList
        (textIn s grouped digits).toList ↔ ¬ s.IsNegativeZero) ∧
      ((textIn s grouped digits).toList.filter (· != ',') = (textIn s plain digits).toList ↔
        ¬ s.IsNegativeZero) ∧
      (textIn s grouped digits).toList.IsChain BesideDigits := by
  have hfixedStyle : style? plain = some .fixed := by
    rcases List.mem_pair.mp hplain with rfl | rfl <;> rfl
  have hgroupedStyle : style? grouped = some .grouped := by
    rcases List.mem_pair.mp hgrouped with rfl | rfl <;> rfl
  have htwice := writtenTwice_textIn hs hfixedStyle hgroupedStyle h
  generalize (textIn s plain digits).toList = fixedText at htwice
  generalize (textIn s grouped digits).toList = groupedText at htwice
  cases htwice with
  | @alike negative body hbody hzero =>
    have hgroups := groupsInteger_signed negative hbody
    exact ⟨iff_of_true hgroups hzero, iff_of_true hgroups.filter_eq hzero,
      hbody.groupInteger.isChain_signed negative⟩
  | @zero body hbody hzero =>
    have hbare : (groupInteger body).filter (· != ',') = body :=
      (groupsInteger_signed false hbody).filter_eq
    have hne : (groupInteger body).filter (· != ',') ≠ '-' :: body := by
      rw [hbare]
      exact (List.cons_ne_self '-' body).symm
    exact ⟨iff_of_false (fun hgroups => hne hgroups.filter_eq) (not_not_intro hzero),
      iff_of_false hne (not_not_intro hzero), hbody.groupInteger.isChain_signed false⟩

/-- The least number below zero is rounded to zero and keeps its sign. -/
theorem textIn_grouped_least :
    let s : Scalar := .double (.finite true 1 (-1074) (by decide))
    s.isFinite = true ∧ 'F' ∈ ['F', 'f'] ∧ 'N' ∈ ['N', 'n'] ∧ Asks [] none ∧
      GroupsInteger 2 (textIn s 'F' []).toList (textIn s 'N' []).toList := by
  intro s
  have hzero : ¬ s.IsNegativeZero := by
    rw [Scalar.isNegativeZero_double_iff, Binary.isNegativeZero_finite_iff]
    decide
  exact ⟨rfl, by decide, by decide, .nothing,
    (textIn_grouped (s := s) rfl (by decide) (by decide) .nothing).1.mpr hzero⟩

end Provider

end Logbook
