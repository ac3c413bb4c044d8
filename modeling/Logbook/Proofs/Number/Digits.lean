/-
# Numerals are read back

The digits of a base are an alphabet, in which the digit at place `d` has the value `d`.  A row of
them is read from left to right (`readIn`), and `WrittenIn` says that a row stands for a number.

* The numerals of this library stand for the number they are made from, in any alphabet that names
  the digits (`writtenIn_toDigits`), and zeros in front do not change that (`WrittenIn.padZeros`).
* In a text, a row of digits ends where a character stands that is none.  So the text determines
  the number and what follows (`WrittenIn.append_inj`).
* Rows of the same length are ordered like the numbers they stand for, if the alphabet is sorted
  (`WrittenIn.lt_iff`).
-/
import Logbook.Number.Binary
import Logbook.Number.Digits
import Mathlib.Data.List.Lex
import Mathlib.Data.Nat.Log
import Mathlib.Tactic.Ring

namespace Logbook

/-! ## 1. Reading -/

/-- The number that a row of digits of an alphabet stands for. -/
def readIn (alphabet s : List Char) : Nat :=
  s.foldl (fun n c => alphabet.length * n + alphabet.idxOf c) 0

/-- `s` is a row of digits of the alphabet, and stands for `n`. -/
structure WrittenIn (alphabet s : List Char) (n : Nat) : Prop where
  mem : ∀ c ∈ s, c ∈ alphabet
  read : readIn alphabet s = n

instance {alphabet s : List Char} {n : Nat} : Decidable (WrittenIn alphabet s n) :=
  decidable_of_iff (s.all (alphabet.contains ·) = true ∧ readIn alphabet s = n)
    ⟨fun h => ⟨by simpa using h.1, h.2⟩, fun h => ⟨by simpa using h.mem, h.read⟩⟩

/-- The digits of base ten. -/
def decimalDigits : List Char := "0123456789".toList

/-- The digits of base sixteen. -/
def hexadecimalDigits (capitals : Bool) : List Char :=
  if capitals then "0123456789ABCDEF".toList else "0123456789abcdef".toList

theorem isDigit_of_mem_decimalDigits {c : Char} (h : c ∈ decimalDigits) : c.isDigit = true := by
  have hall : decimalDigits.all Char.isDigit = true := by decide
  exact List.all_eq_true.mp hall c h

theorem mem_decimalDigits_of_isDigit {c : Char} (h : c.isDigit = true) : c ∈ decimalDigits := by
  have hrange : 48 ≤ c.toNat ∧ c.toNat ≤ 57 := by
    simpa [Char.isDigit, UInt32.le_iff_toNat_le] using h
  have hall : ∀ n < 58, 48 ≤ n → Char.ofNat n ∈ decimalDigits := by decide
  have hmem := hall c.toNat (by omega) hrange.1
  rwa [Char.ofNat_toNat] at hmem

variable {alphabet : List Char}

theorem readIn_concat (s : List Char) (c : Char) :
    readIn alphabet (s ++ [c]) = alphabet.length * readIn alphabet s + alphabet.idxOf c :=
  List.foldl_append

/-- Reading goes on from what has been read, which has moved up by the rest. -/
theorem foldl_read (start : Nat) (s : List Char) :
    s.foldl (fun n c => alphabet.length * n + alphabet.idxOf c) start =
      start * alphabet.length ^ s.length + readIn alphabet s := by
  induction s generalizing start with
  | nil => simp [readIn]
  | cons c s ih =>
    rw [readIn, List.foldl_cons, List.foldl_cons, ih, ih (alphabet.length * 0 + _),
      List.length_cons]
    ring

theorem readIn_cons (c : Char) (s : List Char) :
    readIn alphabet (c :: s) =
      alphabet.idxOf c * alphabet.length ^ s.length + readIn alphabet s := by
  rw [readIn, List.foldl_cons, foldl_read, Nat.mul_zero, Nat.zero_add]

theorem readIn_append (s t : List Char) :
    readIn alphabet (s ++ t) =
      readIn alphabet s * alphabet.length ^ t.length + readIn alphabet t := by
  rw [readIn, List.foldl_append, foldl_read]
  rfl

theorem readIn_lt {s : List Char} (h : ∀ c ∈ s, c ∈ alphabet) :
    readIn alphabet s < alphabet.length ^ s.length := by
  induction s with
  | nil => simp [readIn]
  | cons c s ih =>
    have hc : alphabet.idxOf c + 1 ≤ alphabet.length :=
      List.idxOf_lt_length_of_mem (h c List.mem_cons_self)
    have hs : readIn alphabet s < alphabet.length ^ s.length :=
      ih fun d hd => h d (List.mem_cons_of_mem c hd)
    rw [readIn_cons, List.length_cons, Nat.pow_succ]
    calc alphabet.idxOf c * alphabet.length ^ s.length + readIn alphabet s
        < (alphabet.idxOf c + 1) * alphabet.length ^ s.length := by
          rw [Nat.add_mul, Nat.one_mul]
          exact Nat.add_lt_add_left hs _
      _ ≤ alphabet.length * alphabet.length ^ s.length := Nat.mul_le_mul_right _ hc
      _ = alphabet.length ^ s.length * alphabet.length := Nat.mul_comm _ _

/-! ## 2. Numerals of a base -/

/-- **A numeral stands for the number it is made from**, if the digits are renamed to those of the
alphabet. -/
theorem writtenIn_toDigits (alphabet : List Char) (rename : Char → Char)
    (hbase : 1 < alphabet.length) (hnodup : alphabet.Nodup)
    (hdigit : ∀ d (h : d < alphabet.length), rename d.digitChar = alphabet[d]) (n : Nat) :
    WrittenIn alphabet ((Nat.toDigits alphabet.length n).map rename) n := by
  have hplace : ∀ d (h : d < alphabet.length),
      rename d.digitChar ∈ alphabet ∧ alphabet.idxOf (rename d.digitChar) = d := by
    intro d h
    rw [hdigit d h]
    exact ⟨List.getElem_mem h, hnodup.idxOf_getElem d h⟩
  induction n using Nat.strongRecOn with
  | ind n ih =>
    rw [Nat.toDigits_eq_if hbase]
    split
    · rename_i hlt
      obtain ⟨hmem, hidx⟩ := hplace n hlt
      constructor
      · intro c hc
        rw [List.map_singleton, List.mem_singleton] at hc
        rw [hc]
        exact hmem
      · rw [List.map_singleton, readIn_cons, hidx]
        simp [readIn]
    · rename_i hge
      obtain ⟨hmem, hidx⟩ := hplace (n % alphabet.length) (Nat.mod_lt _ (by omega))
      have hdiv : n / alphabet.length < n := Nat.div_lt_self (by omega) hbase
      constructor
      · intro c hc
        rw [List.map_append, List.mem_append, List.map_singleton, List.mem_singleton] at hc
        rcases hc with hc | rfl
        · exact (ih _ hdiv).mem c hc
        · exact hmem
      · rw [List.map_append, List.map_singleton, readIn_concat, (ih _ hdiv).read, hidx]
        exact Nat.div_add_mod n _

theorem writtenIn_decimal (n : Nat) : WrittenIn decimalDigits (decimal n) n := by
  have h := writtenIn_toDigits decimalDigits id (by decide) (by decide) (by decide) n
  rw [List.map_id] at h
  exact h

theorem writtenIn_hexadecimal (capitals : Bool) (n : Nat) :
    WrittenIn (hexadecimalDigits capitals)
      (if capitals then (hexadecimal n).map Char.toUpper else hexadecimal n) n := by
  cases capitals with
  | true =>
    exact writtenIn_toDigits (hexadecimalDigits true) Char.toUpper (by decide) (by decide)
      (by decide) n
  | false =>
    have h := writtenIn_toDigits (hexadecimalDigits false) id (by decide) (by decide)
      (by decide) n
    rw [List.map_id] at h
    exact h

/-- The number of digits, where zero has one. -/
theorem length_toDigits {base : Nat} (h : 1 < base) (n : Nat) :
    (Nat.toDigits base n).length = Nat.log base n + 1 := by
  have hiff : ∀ k, (Nat.toDigits base n).length ≤ k + 1 ↔ Nat.log base n < k + 1 := by
    intro k
    rw [Nat.length_toDigits_le_iff h (Nat.succ_pos k)]
    exact ⟨Nat.log_lt_of_lt_pow' (Nat.succ_ne_zero k), Nat.lt_pow_of_log_lt h⟩
  have hpos : 0 < (Nat.toDigits base n).length := Nat.length_toDigits_pos
  have hle := (hiff (Nat.log base n)).mpr (Nat.lt_succ_self _)
  have hge := (hiff ((Nat.toDigits base n).length - 1)).mp (by omega)
  omega

/-! ## 3. Rows of digits -/

/-- Of two numbers in two places the first place decides, and then the second one. -/
theorem places_lt_iff {a b x y unit : Nat} (hx : x < unit) (hy : y < unit) :
    a * unit + x < b * unit + y ↔ a < b ∨ a = b ∧ x < y := by
  rcases Nat.lt_trichotomy a b with h | rfl | h
  · have hle : a * unit + unit ≤ b * unit := by
      rw [← Nat.succ_mul]
      exact Nat.mul_le_mul_right unit h
    omega
  · omega
  · have hle : b * unit + unit ≤ a * unit := by
      rw [← Nat.succ_mul]
      exact Nat.mul_le_mul_right unit h
    omega

theorem idxOf_lt_iff (hsorted : alphabet.Pairwise (· < ·)) {c d : Char} (hc : c ∈ alphabet)
    (hd : d ∈ alphabet) : alphabet.idxOf c < alphabet.idxOf d ↔ c < d := by
  have hplaces : ∀ {x y : Char}, x ∈ alphabet → y ∈ alphabet →
      alphabet.idxOf x < alphabet.idxOf y → x < y := by
    intro x y hx hy hlt
    have h := List.pairwise_iff_getElem.mp hsorted _ _ (List.idxOf_lt_length_of_mem hx)
      (List.idxOf_lt_length_of_mem hy) hlt
    rwa [List.getElem_idxOf, List.getElem_idxOf] at h
  constructor
  · exact hplaces hc hd
  · intro hlt
    rcases Nat.lt_trichotomy (alphabet.idxOf c) (alphabet.idxOf d) with h | h | h
    · exact h
    · obtain rfl := (List.idxOf_inj hc).mp h
      exact absurd hlt (Char.lt_irrefl c)
    · exact absurd hlt (Char.lt_asymm (hplaces hd hc h))

namespace WrittenIn

/-- Zeros in front change nothing. -/
theorem padZeros (width : Nat) {s : List Char} {n : Nat} (h : WrittenIn alphabet s n)
    (hzero : alphabet.head? = some '0') : WrittenIn alphabet (padZeros width s) n := by
  obtain ⟨rest, rfl⟩ : ∃ rest, alphabet = '0' :: rest := List.head?_eq_some_iff.mp hzero
  suffices hpad : ∀ k, WrittenIn ('0' :: rest) (List.replicate k '0' ++ s) n from hpad _
  intro k
  induction k with
  | zero => exact h
  | succ k ih =>
    rw [List.replicate_succ, List.cons_append]
    constructor
    · intro c hc
      rcases List.mem_cons.mp hc with rfl | hc
      · exact List.mem_cons_self
      · exact ih.mem c hc
    · rw [readIn_cons, List.idxOf_cons_self, Nat.zero_mul, Nat.zero_add]
      exact ih.read

/-- Zeros behind are places. -/
theorem append_zeros {s : List Char} {n : Nat} (h : WrittenIn alphabet s n)
    (hzero : alphabet.head? = some '0') (k : Nat) :
    WrittenIn alphabet (s ++ List.replicate k '0') (n * alphabet.length ^ k) := by
  obtain ⟨rest, rfl⟩ : ∃ rest, alphabet = '0' :: rest := List.head?_eq_some_iff.mp hzero
  induction k with
  | zero => simpa using h
  | succ k ih =>
    rw [List.replicate_succ', ← List.append_assoc]
    constructor
    · intro c hc
      rcases List.mem_append.mp hc with hc | hc
      · exact ih.mem c hc
      · rw [List.mem_singleton.mp hc]
        exact List.mem_cons_self
    · rw [readIn_concat, ih.read, List.idxOf_cons_self, Nat.pow_succ]
      ring

/-- The reader of decimal numbers. -/
theorem readDigits {s : List Char} {n : Nat} (h : WrittenIn decimalDigits s n) :
    Binary.readDigits 0 s = n := by
  have hall : decimalDigits.all (fun c => Binary.digitValue c == decimalDigits.idxOf c) = true := by
    decide
  rw [← h.read]
  unfold Binary.readDigits readIn
  refine List.foldl_ext _ _ _ fun n c hc => ?_
  rw [beq_iff_eq.mp (List.all_eq_true.mp hall c (h.mem c hc))]
  rfl

/-- The first digits stand for the quotient by the unit of the place where they end. -/
theorem take {s : List Char} {n : Nat} (h : WrittenIn alphabet s n) (k : Nat) :
    WrittenIn alphabet (s.take k) (n / alphabet.length ^ (s.length - k)) := by
  obtain ⟨hmem, rfl⟩ := h
  have hrest : readIn alphabet (s.drop k) < alphabet.length ^ (s.drop k).length :=
    readIn_lt fun c hc => hmem c (List.mem_of_mem_drop hc)
  refine ⟨fun c hc => hmem c (List.mem_of_mem_take hc), ?_⟩
  rw [← List.length_drop]
  conv_rhs => rw [← List.take_append_drop k s, readIn_append]
  rw [List.take_append_drop, Nat.mul_comm, Nat.mul_add_div (Nat.zero_lt_of_lt hrest),
    Nat.div_eq_of_lt hrest, Nat.add_zero]

/-- A row ends where a character stands that is no digit. -/
theorem row_inj {s t rest rest' : List Char} {c d : Char} {n m : Nat}
    (hs : WrittenIn alphabet s n) (ht : WrittenIn alphabet t m) (hc : c ∉ alphabet)
    (hd : d ∉ alphabet) (h : s ++ c :: rest = t ++ d :: rest') :
    s = t ∧ c = d ∧ rest = rest' := by
  have hrow : s = t := by
    have htake := congrArg (List.takeWhile (· ∈ alphabet)) h
    rwa [List.takeWhile_append_of_pos (by simpa using hs.mem),
      List.takeWhile_append_of_pos (by simpa using ht.mem), List.takeWhile_cons_of_neg (by simpa),
      List.takeWhile_cons_of_neg (by simpa), List.append_nil, List.append_nil] at htake
  subst hrow
  obtain ⟨hmark, hrest⟩ := List.cons.inj (List.append_cancel_left h)
  exact ⟨rfl, hmark, hrest⟩

/-- **The text determines the number** that a row at its front stands for, and what follows. -/
theorem append_inj {s t rest rest' : List Char} {c d : Char} {n m : Nat}
    (hs : WrittenIn alphabet s n) (ht : WrittenIn alphabet t m) (hc : c ∉ alphabet)
    (hd : d ∉ alphabet) (h : s ++ c :: rest = t ++ d :: rest') :
    n = m ∧ c = d ∧ rest = rest' := by
  obtain ⟨rfl, hmark, hrest⟩ := row_inj hs ht hc hd h
  exact ⟨hs.read.symm.trans ht.read, hmark, hrest⟩

/-- **Rows of the same length are ordered like the numbers they stand for.** -/
theorem lt_iff (hsorted : alphabet.Pairwise (· < ·)) {s t : List Char} {n m : Nat}
    (hs : WrittenIn alphabet s n) (ht : WrittenIn alphabet t m) (h : s.length = t.length) :
    s < t ↔ n < m := by
  obtain ⟨hs, rfl⟩ := hs
  obtain ⟨ht, rfl⟩ := ht
  induction s generalizing t with
  | nil =>
    obtain rfl : t = [] := List.length_eq_zero_iff.mp h.symm
    simp
  | cons c s ih =>
    cases t with
    | nil => exact absurd h (by simp)
    | cons d t =>
      have hlength : s.length = t.length := Nat.succ.inj h
      have hs' : ∀ x ∈ s, x ∈ alphabet := fun x hx => hs x (List.mem_cons_of_mem c hx)
      have ht' : ∀ x ∈ t, x ∈ alphabet := fun x hx => ht x (List.mem_cons_of_mem d hx)
      have hfirst := idxOf_lt_iff hsorted (hs c List.mem_cons_self) (ht d List.mem_cons_self)
      have hsame := List.idxOf_inj (hs c List.mem_cons_self) (y := d)
      have hrest : s < t ↔ readIn alphabet s < readIn alphabet t := ih hlength hs' ht'
      rw [List.cons_lt_cons_iff, hrest, ← hfirst, ← hsame, readIn_cons, readIn_cons, hlength,
        places_lt_iff (hlength ▸ readIn_lt hs') (readIn_lt ht')]

/-- Rows of the same length that stand for the same number are the same. -/
theorem eq_of_length (hsorted : alphabet.Pairwise (· < ·)) {s t : List Char} {n : Nat}
    (hs : WrittenIn alphabet s n) (ht : WrittenIn alphabet t n) (h : s.length = t.length) :
    s = t := by
  have hlt : ¬ s < t := fun hlt => Nat.lt_irrefl n ((lt_iff hsorted hs ht h).mp hlt)
  have hgt : ¬ t < s := fun hgt => Nat.lt_irrefl n ((lt_iff hsorted ht hs h.symm).mp hgt)
  exact List.le_antisymm hgt hlt

end WrittenIn

end Logbook
