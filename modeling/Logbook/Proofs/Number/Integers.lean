/-
# Integers in standard formats

A standard format of an integer is written in three steps: the sign is set apart, the digits are
chosen, and zeros fill a width.  The formats for whole numbers lose nothing by that, whatever the
kind of the integer, its value and the precision: from the text the value can be read again
(`text_reads_back`).

* Padded and hexadecimal numerals have as many digits as the number needs, or as the precision asks
  for, and the zeros stand behind the sign.
* A hexadecimal numeral stands for the word of the integer, so for its value modulo the size of the
  word of its kind.
* A numeral with places is the decimal text, with nothing but zeros in the places.

The precision of a format is what its digits stand for (`Asks`), be they none, one or two.
-/
import Logbook.Proofs.Number.Digits
import Logbook.Proofs.Number.Numeral
import Logbook.Provider

namespace Logbook

/-! ## 1. Precisions -/

namespace NumberFormat

/-- What stands behind a format letter asks for a precision: nothing for none, and one or two digits
for the number they stand for. -/
inductive Asks : List Char → Option Nat → Prop where
  | nothing : Asks [] none
  | digits {s : List Char} {n : Nat} (hne : s ≠ []) (hlength : s.length ≤ 2)
      (h : WrittenIn decimalDigits s n) : Asks s (some n)

/-- Each precision below one hundred can be asked for. -/
theorem asks_decimal {n : Nat} (h : n < 100) : Asks (decimal n) (some n) :=
  .digits Nat.toDigits_ne_nil ((Nat.length_toDigits_le_iff (by decide) (by decide)).mpr h)
    (writtenIn_decimal n)

theorem precision?_of_asks {s : List Char} {p : Option Nat} (h : Asks s p) :
    precision? s = some p := by
  cases h with
  | nothing => rfl
  | @digits _ n hne hlength h =>
    have hall : s.all Char.isDigit = true :=
      List.all_eq_true.mpr fun c hc => isDigit_of_mem_decimalDigits (h.mem c hc)
    rw [precision?, if_pos ⟨hlength, hall⟩, if_neg hne, h.readDigits]

/-- **A letter and a precision are read as a format.** -/
theorem parse?_of_asks {s : List Char} {p : Option Nat} (h : Asks s p) {letter : Char}
    {style : NumberStyle} (hstyle : style? letter = some style) :
    parse? (String.ofList (letter :: s)) = some ⟨style, p⟩ := by
  unfold parse?
  rw [String.toList_ofList]
  simp only [hstyle, precision?_of_asks h, Option.bind_some, Option.map_some]

end NumberFormat

/-- The text of a scalar under the invariant provider, in the format of a letter and what stands
behind it. -/
def Provider.textIn (s : Scalar) (letter : Char) (precision : List Char) : String :=
  invariant.scalarText s (some (String.ofList (letter :: precision)))

/-! ## 2. Integers -/

namespace Integer

/-- The characters of an integer in a format. -/
def textIn (n : Integer) (letter : Char) (precision : List Char) : List Char :=
  (Provider.textIn (.integer n) letter precision).toList

theorem textIn_eq (n : Integer) {s : List Char} {p : Option Nat} (h : NumberFormat.Asks s p)
    {letter : Char} {style : NumberStyle} (hstyle : NumberFormat.style? letter = some style) :
    n.textIn letter s = n.formatted ⟨style, p⟩ := by
  change (String.ofList (Provider.integerText n (some (String.ofList (letter :: s))))).toList = _
  rw [String.toList_ofList, Provider.integerText, Option.bind_some,
    NumberFormat.parse?_of_asks h hstyle]

theorem coe_word (n : Integer) : (n.word : Int) = n.value % 2 ^ n.kind.bits := by
  have hsize : (0 : Int) < 2 ^ n.kind.bits := Int.pow_pos (by decide)
  have hcast : ((Nat.pow 2 n.kind.bits : Nat) : Int) = 2 ^ n.kind.bits := Int.natCast_pow 2 _
  rw [word, hcast, Int.toNat_of_nonneg (Int.emod_nonneg _ (Int.ne_of_gt hsize))]

theorem length_padZeros_toDigits {base : Nat} (hbase : 1 < base) (width n : Nat) :
    (padZeros width (Nat.toDigits base n)).length = max width (Nat.log base n + 1) := by
  rw [length_padZeros, length_toDigits hbase]

/-- What the texts of an integer say, in the formats for whole numbers with one precision. -/
structure ReadsBack (n : Integer) (precision : Option Nat) (text : Char → List Char) : Prop where
  /-- A minus sign if the value is negative, and the digits of its absolute value. -/
  padded : ∀ letter ∈ ['D', 'd'], ∃ digits,
    text letter = (if n.value < 0 then ['-'] else []) ++ digits ∧
      digits.length = max (precision.getD 0) (Nat.log 10 n.value.natAbs + 1) ∧
      WrittenIn decimalDigits digits n.value.natAbs
  /-- The digits of the value as a word, large or small like the letter. -/
  hexadecimal : ∀ capitals, ∃ word : Nat, (word : Int) = n.value % 2 ^ n.kind.bits ∧
    (text (if capitals then 'X' else 'x')).length =
      max (precision.getD 0) (Nat.log 16 word + 1) ∧
    WrittenIn (hexadecimalDigits capitals) (text (if capitals then 'X' else 'x')) word
  /-- The decimal text, and zeros behind a point unless no place is asked for. -/
  fixed : ∀ letter ∈ ['F', 'f'], text letter = (toString n.value).toList ++
    (if precision.getD 2 = 0 then [] else '.' :: List.replicate (precision.getD 2) '0')

theorem readsBack_padded (n : Integer) (p : Option Nat) :
    ∃ digits, n.formatted ⟨.padded, p⟩ = (if n.value < 0 then ['-'] else []) ++ digits ∧
      digits.length = max (p.getD 0) (Nat.log 10 n.value.natAbs + 1) ∧
      WrittenIn decimalDigits digits n.value.natAbs := by
  refine ⟨padZeros (p.getD 0) (decimal n.value.natAbs), ?_,
    length_padZeros_toDigits (by decide) _ _, (writtenIn_decimal _).padZeros _ rfl⟩
  change signed (n.value < 0) _ = _
  unfold signed
  by_cases h : n.value < 0
  · simp [h]
  · simp [h]

theorem readsBack_hexadecimal (n : Integer) (p : Option Nat) (capitals : Bool) :
    (n.formatted ⟨.hexadecimal capitals, p⟩).length =
        max (p.getD 0) (Nat.log 16 n.word + 1) ∧
      WrittenIn (hexadecimalDigits capitals) (n.formatted ⟨.hexadecimal capitals, p⟩) n.word := by
  have hlength : (if capitals then (Logbook.hexadecimal n.word).map Char.toUpper
      else Logbook.hexadecimal n.word).length = Nat.log 16 n.word + 1 := by
    rw [← length_toDigits (by decide)]
    split
    · exact List.length_map _
    · rfl
  have hzero : (hexadecimalDigits capitals).head? = some '0' := by
    cases capitals <;> rfl
  constructor
  · change (padZeros _ _).length = _
    rw [length_padZeros, hlength]
  · exact (writtenIn_hexadecimal capitals n.word).padZeros _ hzero

theorem readsBack_fixed (n : Integer) (p : Option Nat) :
    n.formatted ⟨.fixed, p⟩ = (toString n.value).toList ++
      (if p.getD 2 = 0 then [] else '.' :: List.replicate (p.getD 2) '0') := by
  have hdecimal : signed (n.value < 0) (decimal n.value.natAbs) = (toString n.value).toList := by
    rw [← ofList_signedDecimal, String.toList_ofList, signedDecimal, signed]
    by_cases h : n.value < 0
    · simp [h]
    · simp [h]
  change withZeros (signed (n.value < 0) (decimal n.value.natAbs)) (p.getD 2) = _
  rw [hdecimal, withZeros]
  split
  · exact (List.append_nil _).symm
  · rfl

/-- **An integer can be read from its text in a format for whole numbers.** -/
theorem text_reads_back (n : Integer) {s : List Char} {p : Option Nat}
    (h : NumberFormat.Asks s p) : ReadsBack n p fun letter => n.textIn letter s := by
  constructor
  · intro letter hletter
    have hstyle : NumberFormat.style? letter = some .padded := by
      rcases List.mem_pair.mp hletter with rfl | rfl <;> rfl
    rw [n.textIn_eq h hstyle]
    exact n.readsBack_padded p
  · intro capitals
    have hstyle : NumberFormat.style? (if capitals then 'X' else 'x') =
        some (.hexadecimal capitals) := by
      cases capitals <;> rfl
    rw [n.textIn_eq h hstyle]
    exact ⟨n.word, n.coe_word, n.readsBack_hexadecimal p capitals⟩
  · intro letter hletter
    have hstyle : NumberFormat.style? letter = some .fixed := by
      rcases List.mem_pair.mp hletter with rfl | rfl <;> rfl
    rw [n.textIn_eq h hstyle]
    exact n.readsBack_fixed p

/-- The least integer of 64 bits, which has no absolute value of its kind. -/
theorem text_reads_back_least :
    let n : Integer := ⟨.signed64, -9223372036854775808, by decide, by decide⟩
    NumberFormat.Asks ['2', '0'] (some 20) ∧
      ReadsBack n (some 20) fun letter => n.textIn letter ['2', '0'] := by
  intro n
  have hasks : NumberFormat.Asks ['2', '0'] (some 20) :=
    NumberFormat.asks_decimal (n := 20) (by decide)
  exact ⟨hasks, text_reads_back n hasks⟩

end Integer

end Logbook
