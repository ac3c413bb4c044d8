/-
# Numbers in the numeric formats

The formats `F`, `N`, `E` and `P` write a finite number as a decimal numeral: a sign, digits, the
places that were asked for, and what belongs to the letter (`IsNumeral`).  They do so for integers of
all kinds, for singles and for doubles, at the ends of the range and next to zero.

There is one exception.  A percentage is the hundredfold of the number, which is rounded to a double
before it is written.  If it is too large for one, an infinity is written in its place, and there is
no numeral.  The numbers that this happens to are the doubles whose hundredfold reaches the limit of
doubles (`Scalar.Overflows`), and no others (`textIn_isNumeral_iff`).
-/
import Logbook.Proofs.Number.Integers
import Logbook.Proofs.Number.Places
import Logbook.Proofs.Number.Range

namespace Logbook

/-! ## 1. Numerals -/

theorem IsSeparated.exists_digit {s : List Char} (h : IsSeparated s) :
    ∃ d rest, s = d :: rest ∧ d ∈ decimalDigits := by
  induction h with
  | row h =>
    obtain ⟨d, rest, rfl⟩ := List.exists_cons_of_ne_nil h.ne_nil
    exact ⟨d, rest, rfl, h.mem d List.mem_cons_self⟩
  | comma _ _ ih =>
    obtain ⟨d, rest, rfl, hd⟩ := ih
    exact ⟨d, _, rfl, hd⟩

namespace NumberFormat

/-- The places of a format that asks for none. -/
def defaultPlaces (letter : Char) : Nat := if letter ∈ ['E', 'e'] then 6 else 2

/-- What a letter writes in front of the point. -/
def Whole (letter : Char) : List Char → Prop :=
  if letter ∈ ['N', 'n', 'P', 'p'] then IsSeparated else IsRow

/-- What a letter writes behind the places. -/
inductive Ending (letter : Char) : List Char → Prop where
  | nothing (h : letter ∈ ['F', 'f', 'N', 'n']) : Ending letter []
  | exponent {sign : Char} {ds : List Char} (h : letter ∈ ['E', 'e']) (hsign : sign ∈ ['+', '-'])
      (hlength : 3 ≤ ds.length) (hds : IsRow ds) : Ending letter (letter :: sign :: ds)
  | percent (h : letter ∈ ['P', 'p']) : Ending letter [' ', '%']

/-- The decimal numerals of a letter and a precision. -/
inductive IsNumeral (letter : Char) (precision : Option Nat) : List Char → Prop where
  | parts {sign body ending : List Char} (hsign : sign = [] ∨ sign = ['-'])
      (hbody : HasPlaces (Whole letter) (precision.getD (defaultPlaces letter)) body)
      (hending : Ending letter ending) : IsNumeral letter precision (sign ++ body ++ ending)

variable {letter : Char} {precision : Option Nat}

/-- A numeral begins with a digit, behind a sign. -/
theorem IsNumeral.exists_digit {text : List Char} (h : IsNumeral letter precision text) :
    ∃ d rest, (text = d :: rest ∨ text = '-' :: d :: rest) ∧ d ∈ decimalDigits := by
  obtain @⟨sign, body, ending, hsign, ⟨whole, fraction, rfl, hwhole, -⟩, -⟩ := h
  have hseparated : IsSeparated whole := by
    unfold Whole at hwhole
    split at hwhole
    · exact hwhole
    · exact .row hwhole
  obtain ⟨d, rest, rfl, hd⟩ := hseparated.exists_digit
  refine ⟨d, rest ++ fraction ++ ending, ?_, hd⟩
  rcases hsign with rfl | rfl
  · exact .inl (by simp)
  · exact .inr (by simp)

/-- What does not begin like a number is no numeral. -/
theorem not_isNumeral {c : Char} {text rest : List Char} (hc : c ∉ '-' :: decimalDigits)
    (htext : text = c :: rest ∨ text = '-' :: c :: rest) : ¬ IsNumeral letter precision text := by
  intro h
  obtain ⟨d, tail, hd, hmem⟩ := h.exists_digit
  have hminus : '-' ∉ decimalDigits := by decide
  rcases htext with rfl | rfl
  · rcases hd with hd | hd
    · exact hc ((List.cons.inj hd).1 ▸ List.mem_cons_of_mem _ hmem)
    · exact hc ((List.cons.inj hd).1 ▸ List.mem_cons_self)
  · rcases hd with hd | hd
    · exact hminus ((List.cons.inj hd).1 ▸ hmem)
    · exact hc ((List.cons.inj (List.cons.inj hd).2).1 ▸ List.mem_cons_of_mem _ hmem)

/-- **A numeral is not the text of a datum that is not finite.** -/
theorem IsNumeral.ne_text {text : List Char} (h : IsNumeral letter precision text)
    {p : Precision} {x : Binary p} (hx : x.isFinite = false) : text ≠ x.text := by
  rintro rfl
  cases x with
  | nan => exact not_isNumeral (by decide) (.inl rfl) h
  | infinite negative =>
    cases negative with
    | false => exact not_isNumeral (by decide) (.inl rfl) h
    | true => exact not_isNumeral (by decide) (.inr rfl) h
  | finite => exact Bool.noConfusion hx

theorem isNumeral_signed (negative : Bool) {body ending : List Char}
    (hbody : HasPlaces (Whole letter) (precision.getD (defaultPlaces letter)) body)
    (hending : Ending letter ending) :
    IsNumeral letter precision (signed negative body ++ ending) := by
  cases negative with
  | false => exact .parts (.inl rfl) hbody hending
  | true => exact .parts (.inr rfl) hbody hending

/-! ## 2. Letters -/

/-- The letters of the numeric formats. -/
inductive Shows : Char → NumberStyle → Prop where
  | fixed {letter : Char} (h : letter ∈ ['F', 'f']) : Shows letter .fixed
  | grouped {letter : Char} (h : letter ∈ ['N', 'n']) : Shows letter .grouped
  | exponent (capitals : Bool) : Shows (if capitals then 'E' else 'e') (.exponent capitals)
  | percent {letter : Char} (h : letter ∈ ['P', 'p']) : Shows letter .percent

theorem exists_shows (h : letter ∈ ['F', 'f', 'N', 'n', 'E', 'e', 'P', 'p']) :
    ∃ style, style? letter = some style ∧ Shows letter style := by
  simp only [List.mem_cons, List.not_mem_nil, or_false] at h
  rcases h with rfl | rfl | rfl | rfl | rfl | rfl | rfl | rfl
  · exact ⟨.fixed, rfl, .fixed (by decide)⟩
  · exact ⟨.fixed, rfl, .fixed (by decide)⟩
  · exact ⟨.grouped, rfl, .grouped (by decide)⟩
  · exact ⟨.grouped, rfl, .grouped (by decide)⟩
  · exact ⟨.exponent true, rfl, .exponent true⟩
  · exact ⟨.exponent false, rfl, .exponent false⟩
  · exact ⟨.percent, rfl, .percent (by decide)⟩
  · exact ⟨.percent, rfl, .percent (by decide)⟩

theorem Shows.percent_iff {style : NumberStyle} (h : Shows letter style) :
    letter ∈ ['P', 'p'] ↔ style = .percent := by
  cases h with
  | fixed h => rcases List.mem_pair.mp h with rfl | rfl <;> decide
  | grouped h => rcases List.mem_pair.mp h with rfl | rfl <;> decide
  | exponent capitals => cases capitals <;> decide
  | percent h => exact iff_of_true h rfl

namespace IsNumeral

variable (negative : Bool) {body : List Char}

theorem fixed (hletter : letter ∈ ['F', 'f']) (hbody : HasPlaces IsRow (precision.getD 2) body) :
    IsNumeral letter precision (signed negative body) := by
  rw [← List.append_nil (signed negative body)]
  rcases List.mem_pair.mp hletter with rfl | rfl
  · exact isNumeral_signed negative hbody (.nothing (by decide))
  · exact isNumeral_signed negative hbody (.nothing (by decide))

theorem grouped (hletter : letter ∈ ['N', 'n'])
    (hbody : HasPlaces IsSeparated (precision.getD 2) body) :
    IsNumeral letter precision (signed negative body) := by
  rw [← List.append_nil (signed negative body)]
  rcases List.mem_pair.mp hletter with rfl | rfl
  · exact isNumeral_signed negative hbody (.nothing (by decide))
  · exact isNumeral_signed negative hbody (.nothing (by decide))

theorem percent (hletter : letter ∈ ['P', 'p'])
    (hbody : HasPlaces IsSeparated (precision.getD 2) body) :
    IsNumeral letter precision (signed negative body ++ " %".toList) := by
  rcases List.mem_pair.mp hletter with rfl | rfl
  · exact isNumeral_signed negative hbody (.percent (by decide))
  · exact isNumeral_signed negative hbody (.percent (by decide))

theorem exponent (capitals : Bool) (hbody : HasPlaces IsRow (precision.getD 6) body)
    (exponent : Int) :
    IsNumeral (if capitals then 'E' else 'e') precision
      (signed negative (body ++ exponentText capitals exponent)) := by
  have hdigits : 3 ≤ (padZeros 3 (decimal exponent.natAbs)).length := by
    rw [length_padZeros]
    exact Nat.le_max_left _ _
  have hrow : IsRow (padZeros 3 (decimal exponent.natAbs)) := by
    refine ⟨fun hnil => ?_, ((writtenIn_decimal _).padZeros 3 rfl).mem⟩
    rw [hnil] at hdigits
    exact absurd hdigits (by decide)
  have hsign : (if exponent < 0 then '-' else '+') ∈ ['+', '-'] := by
    split <;> decide
  have hsplit : signed negative (body ++ exponentText capitals exponent) =
      signed negative body ++ exponentText capitals exponent := by
    cases negative <;> rfl
  rw [hsplit]
  cases capitals with
  | true => exact isNumeral_signed negative hbody (.exponent (by decide) hsign hdigits hrow)
  | false => exact isNumeral_signed negative hbody (.exponent (by decide) hsign hdigits hrow)

end IsNumeral

end NumberFormat

/-! ## 3. Floating point data -/

section

open NumberFormat

variable {letter : Char} {style : NumberStyle} (hstyle : Shows letter style)
include hstyle

/-- **A finite datum is written as a numeral**, and as a percentage if its hundredfold is finite. -/
theorem Binary.isNumeral_formatted? {p : Precision} {x : Binary p} (hx : x.isFinite = true)
    (hpercent : style = .percent → (x.scale 100).isFinite = true) (precision : Option Nat) :
    ∃ text, x.formatted? ⟨style, precision⟩ = some text ∧ IsNumeral letter precision text := by
  have hgrouped : ∀ {y : Binary p}, y.isFinite = true → ∀ places, ∃ negative body,
      y.groupedText places = signed negative body ∧ HasPlaces IsSeparated places body := by
    intro y hy places
    cases y with
    | nan => exact absurd hy Bool.false_ne_true
    | infinite negative => exact absurd hy Bool.false_ne_true
    | finite negative m e h => exact ⟨_, _, rfl, (hasPlaces_fixed _ _ places).groupInteger⟩
  cases hstyle with
  | fixed h =>
    cases x with
    | nan => exact absurd hx Bool.false_ne_true
    | infinite negative => exact absurd hx Bool.false_ne_true
    | finite negative m e _ => exact ⟨_, rfl, .fixed negative h (hasPlaces_fixed _ _ _)⟩
  | grouped h =>
    obtain ⟨negative, body, htext, hbody⟩ := hgrouped hx (precision.getD 2)
    refine ⟨_, rfl, ?_⟩
    dsimp only
    rw [if_pos hx, htext]
    exact .grouped negative h hbody
  | exponent capitals =>
    cases x with
    | nan => exact absurd hx Bool.false_ne_true
    | infinite negative => exact absurd hx Bool.false_ne_true
    | finite negative m e _ =>
      exact ⟨_, rfl, .exponent negative capitals (hasPlaces_scientific _ _ _) _⟩
  | percent h =>
    obtain ⟨negative, body, htext, hbody⟩ := hgrouped (hpercent rfl) (precision.getD 2)
    refine ⟨_, rfl, ?_⟩
    dsimp only
    rw [if_pos hx, htext]
    exact .percent negative h hbody

/-- **An integer is written as a numeral**, itself or as the double that is nearest to it. -/
theorem Integer.isNumeral_formatted (n : Integer) (precision : Option Nat) :
    IsNumeral letter precision (n.formatted ⟨style, precision⟩) := by
  obtain ⟨hdouble, hhundred⟩ := Binary.isFinite_scale_ofInt n (le_refl 100)
  obtain ⟨text, htext, hnumeral⟩ :=
    Binary.isNumeral_formatted? hstyle hdouble (fun _ => hhundred) precision
  cases hstyle with
  | fixed h =>
    change IsNumeral letter precision (withZeros (signed (n.value < 0) _) _)
    rw [withZeros_signed]
    exact .fixed _ h (hasPlaces_withZeros (isRow_decimal _) _)
  | grouped h =>
    change IsNumeral letter precision (withZeros (signed (n.value < 0) _) _)
    rw [withZeros_signed]
    exact .grouped _ h (hasPlaces_withZeros (isSeparated_groupThousands (isRow_decimal _)) _)
  | exponent capitals =>
    change IsNumeral _ precision
      (((Binary.ofInt .double n.value).formatted? ⟨.exponent capitals, precision⟩).getD n.text)
    rw [htext]
    exact hnumeral
  | percent h =>
    change IsNumeral _ precision
      (((Binary.ofInt .double n.value).formatted? ⟨.percent, precision⟩).getD n.text)
    rw [htext]
    exact hnumeral

end

/-! ## 4. Scalars -/

/-- An integer, or a datum that is finite. -/
def Scalar.isFinite : Scalar → Bool
  | .integer _ => true
  | .single x => x.isFinite
  | .double x => x.isFinite
  | _ => false

/-- The hundredfold of a number is too large for a double.  Its sign is all that is left. -/
inductive Scalar.Overflows : Scalar → Bool → Prop where
  | double (negative : Bool) {m : Nat} {e : Int} (h : Precision.double.Holds m e)
      (hlarge : (2 ^ 54 - 1) * 2 ^ 970 ≤ 100 * Binary.magnitude m e) :
      Overflows (.double (.finite negative m e h)) negative

theorem Binary.scale_eq_of_overflows {negative : Bool} {m : Nat} {e : Int}
    (h : Precision.double.Holds m e)
    (hlarge : (2 ^ 54 - 1) * 2 ^ 970 ≤ 100 * Binary.magnitude m e) :
    (Binary.finite negative m e h).scale 100 = .infinite negative := by
  have hfinite := isFinite_scale_iff (by decide) (by decide) negative h 100
  rw [limit_double, Nat.cast_ofNat] at hfinite
  rcases ofRatio_cases .double negative ((ratio m e).1 * 100) (ratio m e).2 with
    ⟨m', e', h', hdatum⟩ | hlarge'
  · have hscale : (Binary.finite negative m e h).scale 100 = .finite negative m' e' h' := hdatum
    rw [hscale] at hfinite
    exact absurd (hfinite.mp rfl) (not_lt.mpr hlarge)
  · exact hlarge'

namespace Provider

open NumberFormat

variable {s : Scalar} {letter : Char} {digits : List Char} {precision : Option Nat}

theorem toList_textIn_double {x : Binary .double} {style : NumberStyle} (h : Asks digits precision)
    (hletter : style? letter = some style) :
    (textIn (.double x) letter digits).toList = (x.formatted? ⟨style, precision⟩).getD x.text := by
  change (String.ofList (doubleText x _)).toList = _
  rw [String.toList_ofList, doubleText, Option.bind_some, parse?_of_asks h hletter,
    Option.bind_some]

/-- A single is formatted as the double of the same value. -/
theorem toList_textIn_single {x : Binary .single} {style : NumberStyle} (h : Asks digits precision)
    (hletter : style? letter = some style) :
    (textIn (.single x) letter digits).toList =
      ((x.convert .double).formatted? ⟨style, precision⟩).getD x.text := by
  change (String.ofList (singleText x _)).toList = _
  rw [String.toList_ofList, singleText, Option.bind_some, parse?_of_asks h hletter,
    Option.bind_some]

/-- The text of a number whose hundredfold is finite, or that is no percentage. -/
theorem isNumeral_textIn {style : NumberStyle} (hs : s.isFinite = true) (h : Asks digits precision)
    (hletter : style? letter = some style) (hstyle : Shows letter style)
    (hfits : style = .percent → ∀ negative, ¬ s.Overflows negative) :
    IsNumeral letter precision (textIn s letter digits).toList := by
  cases s with
  | integer n =>
    have hnumeral := n.isNumeral_formatted hstyle precision
    rw [← n.textIn_eq h hletter] at hnumeral
    exact hnumeral
  | single x =>
    obtain ⟨hdouble, hhundred⟩ := Binary.isFinite_scale_convert hs (le_refl 100)
    obtain ⟨text, htext, hnumeral⟩ :=
      Binary.isNumeral_formatted? hstyle hdouble (fun _ => hhundred) precision
    rw [toList_textIn_single h hletter, htext]
    exact hnumeral
  | double x =>
    have hpercent : style = .percent → (x.scale 100).isFinite = true := by
      intro hstyle
      cases x with
      | nan => exact absurd hs Bool.false_ne_true
      | infinite negative => exact absurd hs Bool.false_ne_true
      | finite negative m e h =>
        refine (Binary.isFinite_scale_iff (by decide) (by decide) negative h 100).mpr ?_
        rw [Binary.limit_double, Nat.cast_ofNat]
        exact not_le.mp fun hlarge => hfits hstyle negative (.double negative h hlarge)
    obtain ⟨text, htext, hnumeral⟩ := Binary.isNumeral_formatted? hstyle hs hpercent precision
    rw [toList_textIn_double h hletter, htext]
    exact hnumeral
  | _ => exact absurd hs Bool.false_ne_true

/-- The percentage of a number whose hundredfold is too large. -/
theorem textIn_of_overflows {negative : Bool} (h : Asks digits precision)
    (hletter : style? letter = some .percent) (hlarge : s.Overflows negative) :
    (textIn s letter digits).toList = signed negative "inf %".toList := by
  obtain ⟨-, hholds, hlarge⟩ := hlarge
  rw [toList_textIn_double h hletter]
  change (Binary.groupedText (Binary.scale _ 100) _) ++ " %".toList = _
  rw [Binary.scale_eq_of_overflows hholds hlarge]
  cases negative <;> rfl

/-- **A finite number is written as a numeral**, unless it is written as a percentage and its
hundredfold is too large for a double.  Then the text is that of an infinity, and no numeral. -/
theorem textIn_isNumeral_iff (hs : s.isFinite = true)
    (hletter : letter ∈ ['F', 'f', 'N', 'n', 'E', 'e', 'P', 'p']) (h : Asks digits precision) :
    (IsNumeral letter precision (textIn s letter digits).toList ↔
      ¬ (letter ∈ ['P', 'p'] ∧ ∃ negative, s.Overflows negative)) ∧
    (IsNumeral letter precision (textIn s letter digits).toList →
      ∀ {p : Precision} (x : Binary p), x.isFinite = false →
        (textIn s letter digits).toList ≠ x.text) ∧
    ∀ negative, letter ∈ ['P', 'p'] → s.Overflows negative →
      (textIn s letter digits).toList = signed negative "inf %".toList := by
  obtain ⟨style, hstyle, hshows⟩ := exists_shows hletter
  have hinfinite : ∀ negative, letter ∈ ['P', 'p'] → s.Overflows negative →
      (textIn s letter digits).toList = signed negative "inf %".toList := by
    intro negative hpercent hlarge
    obtain rfl := hshows.percent_iff.mp hpercent
    exact textIn_of_overflows h hstyle hlarge
  refine ⟨⟨?_, fun hfits => ?_⟩, fun hnumeral p x hx => hnumeral.ne_text hx, hinfinite⟩
  · rintro hnumeral ⟨hpercent, negative, hlarge⟩
    rw [hinfinite negative hpercent hlarge] at hnumeral
    cases negative with
    | false => exact not_isNumeral (by decide) (.inl rfl) hnumeral
    | true => exact not_isNumeral (by decide) (.inr rfl) hnumeral
  · exact isNumeral_textIn hs h hstyle hshows fun hpercent negative hlarge =>
      hfits ⟨hshows.percent_iff.mpr hpercent, negative, hlarge⟩

/-- The least number below zero keeps its sign, with a grouped zero and two places. -/
theorem textIn_isNumeral_least :
    let s : Scalar := .double (.finite true 1 (-1074) (by decide))
    s.isFinite = true ∧ 'N' ∈ ['F', 'f', 'N', 'n', 'E', 'e', 'P', 'p'] ∧ Asks [] none ∧
      IsNumeral 'N' none (textIn s 'N' []).toList := by
  intro s
  refine ⟨rfl, by decide, .nothing, ?_⟩
  exact (textIn_isNumeral_iff (s := s) rfl (by decide) .nothing).1.mpr fun h =>
    absurd h.1 (by decide)

/-- The double nearest to `10 ^ 307`. -/
def huge : Binary .double := .finite false 8016673440035891 967 (by decide)

/-- Its hundredfold is none. -/
theorem percentage_of_huge :
    huge.isFinite = true ∧ (textIn (.double huge) 'P' []).toList = "inf %".toList ∧
      ¬ IsNumeral 'P' none (textIn (.double huge) 'P' []).toList := by
  have htext : (textIn (.double huge) 'P' []).toList = "inf %".toList := by decide +kernel
  refine ⟨rfl, htext, ?_⟩
  rw [htext]
  exact not_isNumeral (by decide) (.inl rfl)

end Provider

end Logbook
