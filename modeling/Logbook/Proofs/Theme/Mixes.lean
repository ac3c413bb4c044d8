/-
# Mixes behind a number sign

A mix is asked for by a number sign with one digit of base sixteen for each channel, or with two
(`Color.Mixed`).  That such a text is read as its mix was shown with the other spellings of colours;
here it is asked what else is read.

The reader looks at the number of characters first, and then reads each channel as a number.  Of a
single character it takes a digit and nothing else (`shortChannel?_eq_some_iff`).  Of two characters
it takes two digits, but also a plus sign and one digit, as numbers may have a sign
(`longChannel?_eq_some_iff`).  So a text of six characters may be a mix that no one asked for
(`Color.Signed`), such as `+1+2+3`.

There are no other such texts: blank ends apart, a text behind a number sign is a colour exactly if
it asks for a mix or has a sign in this place (`ofText_mix_iff`).
-/
import Logbook.Proofs.Theme.Colors

namespace Logbook

/-! ## 1. Blank ends -/

namespace Text

variable {c : Char} {s : List Char}

/-- A text without blank ends keeps what it ends in. -/
theorem dropWhile_reverse_of_trim_eq (h : trim s = s) :
    s.reverse.dropWhile isBlank = s.reverse := by
  have hend := List.dropWhile_suffix (l := (s.dropWhile isBlank).reverse) isBlank
  have hfront := List.dropWhile_suffix (l := s) isBlank
  -- neither of the two cuts can have shortened the text
  have hlength : s.length ≤ (s.dropWhile isBlank).length := by
    have hle := hend.length_le
    rwa [List.length_reverse, ← List.length_reverse, ← trim, h] at hle
  have hsame : s.dropWhile isBlank = s := hfront.eq_of_length_le hlength
  rw [trim, hsame] at h
  exact List.reverse_eq_iff.mp h

/-- A character that is not blank may be put in front of a text without blank ends. -/
theorem trim_cons (hc : isBlank c = false) (h : trim s = s) : trim (c :: s) = c :: s := by
  have hblank : ¬ isBlank c = true := ne_true_of_eq_false hc
  have hend : (s.reverse ++ [c]).dropWhile isBlank = s.reverse ++ [c] := by
    rw [List.dropWhile_append, dropWhile_reverse_of_trim_eq h,
      List.dropWhile_cons_of_neg hblank]
    cases hs : s.reverse with
    | nil => rfl
    | cons => rfl
  rw [trim, List.dropWhile_cons_of_neg hblank, List.reverse_cons, hend, ← List.reverse_cons,
    List.reverse_reverse]

end Text

namespace Color

/-! ## 2. What is asked for, and what else is read -/

/-- A mix, and the digits that ask for it: one for each channel, or two. -/
inductive Mixed : Color → List Char → Prop where
  | short {r g b : Fin 256} {x y z : Char} (hr : ShortChannel x r) (hg : ShortChannel y g)
      (hb : ShortChannel z b) : Mixed (.rgb r g b) [x, y, z]
  | long {r g b : Fin 256} {x x' y y' z z' : Char} (hr : LongChannel x x' r)
      (hg : LongChannel y y' g) (hb : LongChannel z z' b) :
      Mixed (.rgb r g b) [x, x', y, y', z, z']

/-- A channel of two characters, as it is read: two digits, or a plus sign and a digit. -/
def ReadChannel (c d : Char) (value : Fin 256) : Prop :=
  LongChannel c d value ∨ c = '+' ∧ HexDigit d value

/-- A mix, and six characters that are read as it, with a plus sign among them. -/
inductive Signed : Color → List Char → Prop where
  | pairs {r g b : Fin 256} {x x' y y' z z' : Char} (hr : ReadChannel x x' r)
      (hg : ReadChannel y y' g) (hb : ReadChannel z z' b)
      (hsign : '+' ∈ [x, x', y, y', z, z']) : Signed (.rgb r g b) [x, x', y, y', z, z']

variable {color : Color} {digits : List Char} {c d : Char} {n : Nat} {value : Fin 256}

/-! ## 3. Channels -/

theorem byte?_eq_some_iff : byte? n = some value ↔ value.val = n := by
  constructor
  · intro h
    unfold byte? at h
    split at h
    · rw [← Option.some.inj h]
    · cases h
  · rintro rfl
    exact byte?_val value

theorem hexDigit_of_mem (capitals : Bool) (h : c ∈ hexadecimalDigits capitals) :
    HexDigit c (readIn (hexadecimalDigits capitals) [c]) :=
  ⟨capitals, fun _ hd => List.mem_singleton.mp hd ▸ h, rfl⟩

/-- **A digit of base sixteen is read**, and nothing else is. -/
theorem hexDigit?_eq_some_iff : hexDigit? c = some n ↔ HexDigit c n := by
  refine ⟨fun h => ?_, fun h => h.facts.1⟩
  have hbound : c.toNat < 103 := by
    have hle : ∀ {d : Char}, c ≤ d → c.toNat ≤ d.toNat := fun h =>
      UInt32.le_iff_toNat_le.mp (Char.le_def.mp h)
    unfold hexDigit? at h
    split at h
    · rename_i hc
      exact Nat.lt_of_le_of_lt (hle hc.2) (by decide)
    · split at h
      · rename_i hc
        exact Nat.lt_of_le_of_lt (hle hc.2) (by decide)
      · split at h
        · rename_i hc
          exact Nat.lt_of_le_of_lt (hle hc.2) (by decide)
        · cases h
  have hall : ∀ k < 103, (hexDigit? (Char.ofNat k)).isSome = true →
      Char.ofNat k ∈ hexadecimalDigits false ∨ Char.ofNat k ∈ hexadecimalDigits true := by
    decide +kernel
  have hmem := hall c.toNat hbound
  rw [Char.ofNat_toNat, h] at hmem
  have hdigit : ∃ value, HexDigit c value := by
    rcases hmem rfl with hmem | hmem
    · exact ⟨_, hexDigit_of_mem _ hmem⟩
    · exact ⟨_, hexDigit_of_mem _ hmem⟩
  obtain ⟨value, hvalue⟩ := hdigit
  obtain rfl := Option.some.inj (h.symm.trans hvalue.facts.1)
  exact hvalue

theorem shortChannel?_eq_some_iff : shortChannel? c = some value ↔ ShortChannel c value := by
  refine ⟨fun h => ?_, shortChannel?_of⟩
  obtain ⟨n, hn, hvalue⟩ := Option.bind_eq_some_iff.mp h
  exact ⟨n, hexDigit?_eq_some_iff.mp hn, byte?_eq_some_iff.mp hvalue⟩

theorem longChannel?_eq_some_iff : longChannel? c d = some value ↔ ReadChannel c d value := by
  constructor
  · intro h
    unfold longChannel? at h
    split at h
    · rename_i hsign
      obtain ⟨n, hn, hvalue⟩ := Option.bind_eq_some_iff.mp h
      obtain rfl := byte?_eq_some_iff.mp hvalue
      exact .inr ⟨hsign, hexDigit?_eq_some_iff.mp hn⟩
    · obtain ⟨high, hhigh, h⟩ := Option.bind_eq_some_iff.mp h
      obtain ⟨low, hlow, hvalue⟩ := Option.bind_eq_some_iff.mp h
      exact .inl ⟨high, low, hexDigit?_eq_some_iff.mp hhigh, hexDigit?_eq_some_iff.mp hlow,
        byte?_eq_some_iff.mp hvalue⟩
  · rintro (h | ⟨rfl, hdigit⟩)
    · exact longChannel?_of h
    · rw [longChannel?, if_pos rfl, hdigit.facts.1]
      exact byte?_val value

theorem HexDigit.ne_plus (h : HexDigit c n) : c ≠ '+' := h.facts.2.1

theorem LongChannel.ne_plus (h : LongChannel c d value) : c ≠ '+' ∧ d ≠ '+' := by
  obtain ⟨_, _, hhigh, hlow, -⟩ := h
  exact ⟨hhigh.ne_plus, hlow.ne_plus⟩

theorem ReadChannel.ascii (h : ReadChannel c d value) : c.toNat < 0x80 ∧ d.toNat < 0x80 := by
  rcases h with h | ⟨rfl, hdigit⟩
  · exact ⟨h.facts.1.1, h.facts.2.1⟩
  · exact ⟨by decide, hdigit.facts.2.2.1⟩

/-- Without a plus sign, what is read as a channel are two digits. -/
theorem ReadChannel.long (h : ReadChannel c d value) (hc : c ≠ '+') : LongChannel c d value :=
  h.resolve_right fun hsign => hc hsign.1

/-! ## 4. Mixes -/

/-- Six characters that are read as channels ask for a mix, unless there is a sign among them. -/
theorem mixed_or_signed {r g b : Fin 256} {x x' y y' z z' : Char} (hr : ReadChannel x x' r)
    (hg : ReadChannel y y' g) (hb : ReadChannel z z' b) :
    Mixed (.rgb r g b) [x, x', y, y', z, z'] ∨ Signed (.rgb r g b) [x, x', y, y', z, z'] := by
  by_cases hsign : '+' ∈ [x, x', y, y', z, z']
  · exact .inr (.pairs hr hg hb hsign)
  · have hne : ∀ c ∈ [x, x', y, y', z, z'], c ≠ '+' := fun c hc heq => hsign (heq ▸ hc)
    exact .inl (.long (hr.long (hne x (by simp))) (hg.long (hne y (by simp)))
      (hb.long (hne z (by simp))))

/-- **No one asks for a mix with a sign.** -/
theorem Signed.not_mixed {color' : Color} (h : Signed color digits) : ¬ Mixed color' digits := by
  cases h with
  | pairs _ _ _ hsign =>
    rintro (_ | ⟨hr, hg, hb⟩)
    simp only [List.mem_cons, List.not_mem_nil, or_false] at hsign
    rcases hsign with h | h | h | h | h | h
    · exact hr.ne_plus.1 h.symm
    · exact hr.ne_plus.2 h.symm
    · exact hg.ne_plus.1 h.symm
    · exact hg.ne_plus.2 h.symm
    · exact hb.ne_plus.1 h.symm
    · exact hb.ne_plus.2 h.symm

/-- What is read is as long as a mix. -/
theorem mixed_or_signed_of_ofHex (h : ofHex digits = .ok color) :
    Mixed color digits ∨ Signed color digits := by
  unfold ofHex at h
  dsimp only at h
  split at h
  · cases h
  · split at h
    · split at h
      · rename_i hr hg hb
        obtain rfl := Except.ok.inj h
        exact .inl (.short (shortChannel?_eq_some_iff.mp hr) (shortChannel?_eq_some_iff.mp hg)
          (shortChannel?_eq_some_iff.mp hb))
      · cases h
    · split at h
      · rename_i hr hg hb
        obtain rfl := Except.ok.inj h
        exact mixed_or_signed (longChannel?_eq_some_iff.mp hr) (longChannel?_eq_some_iff.mp hg)
          (longChannel?_eq_some_iff.mp hb)
      · cases h
    · cases h

theorem ofHex_of_mixed (h : Mixed color digits) : ofHex digits = .ok color := by
  cases h with
  | short hr hg hb => exact ofHex_short hr hg hb
  | long hr hg hb => exact ofHex_long hr hg hb

theorem ofHex_of_signed (h : Signed color digits) : ofHex digits = .ok color := by
  obtain @⟨r, g, b, x, x', y, y', z, z', hr, hg, hb, -⟩ := h
  have hascii : ([x, x', y, y', z, z'].any fun c => decide (0x80 ≤ c.toNat)) = false := by
    simpa using ⟨hr.ascii.1, hr.ascii.2, hg.ascii.1, hg.ascii.2, hb.ascii.1, hb.ascii.2⟩
  unfold ofHex
  rw [hascii]
  simp only [longChannel?_eq_some_iff.mpr hr, longChannel?_eq_some_iff.mpr hg,
    longChannel?_eq_some_iff.mpr hb]
  rfl

theorem ofHex_eq_ok_iff : ofHex digits = .ok color ↔ Mixed color digits ∨ Signed color digits :=
  ⟨mixed_or_signed_of_ofHex, fun h => h.elim ofHex_of_mixed ofHex_of_signed⟩

/-- **Behind a number sign the mixes are read that are asked for**, and those with a sign.  So the
reader takes exactly what is asked for, unless there is such a sign. -/
theorem ofText_mix_iff (h : Text.trim digits = digits) :
    (∀ color, ofText (String.ofList ('#' :: digits)) = .ok color ↔
        Mixed color digits ∨ Signed color digits) ∧
      ((∀ color, ofText (String.ofList ('#' :: digits)) = .ok color ↔ Mixed color digits) ↔
        ∀ color, ¬ Signed color digits) := by
  have hread : ∀ color, ofText (String.ofList ('#' :: digits)) = .ok color ↔
      Mixed color digits ∨ Signed color digits := by
    intro color
    have hmark : Text.trim ('#' :: digits) = '#' :: digits := Text.trim_cons (by decide) h
    unfold ofText
    rw [String.toList_ofList, hmark]
    exact ofHex_eq_ok_iff
  refine ⟨hread, fun hall color hsigned => ?_, fun hnone color => ?_⟩
  · exact hsigned.not_mixed ((hall color).mp ((hread color).mpr (.inr hsigned)))
  · rw [hread color]
    exact or_iff_left (hnone color)

/-- Two digits of either case, a sign, and two zeros. -/
theorem ofText_mix_iff_with_sign :
    Text.trim "fA+b00".toList = "fA+b00".toList ∧ Signed (.rgb 250 11 0) "fA+b00".toList ∧
      ofText "#fA+b00" = .ok (.rgb 250 11 0) := by
  have htrim : Text.trim "fA+b00".toList = "fA+b00".toList := by decide
  have hf : HexDigit 'f' 15 := hexDigit_of_mem false (by decide)
  have hA : HexDigit 'A' 10 := hexDigit_of_mem true (by decide)
  have hb : HexDigit 'b' 11 := hexDigit_of_mem false (by decide)
  have hzero : HexDigit '0' 0 := hexDigit_of_mem false (by decide)
  have hsigned : Signed (.rgb 250 11 0) "fA+b00".toList :=
    .pairs (.inl ⟨15, 10, hf, hA, rfl⟩) (.inr ⟨rfl, hb⟩) (.inl ⟨0, 0, hzero, hzero, rfl⟩)
      (by decide)
  exact ⟨htrim, hsigned, ((ofText_mix_iff htrim).1 _).mpr (.inr hsigned)⟩

/-- Three numbers with signs are read as a mix, and no mix is asked for. -/
theorem ofText_of_signs :
    ofText "#+1+2+3" = .ok (.rgb 1 2 3) ∧ ∀ color, ¬ Mixed color "+1+2+3".toList := by
  refine ⟨by decide +kernel, fun color h => ?_⟩
  have hone : HexDigit '1' 1 := hexDigit_of_mem false (by decide)
  have htwo : HexDigit '2' 2 := hexDigit_of_mem false (by decide)
  have hthree : HexDigit '3' 3 := hexDigit_of_mem false (by decide)
  have hsigned : Signed (.rgb 1 2 3) "+1+2+3".toList :=
    .pairs (.inr ⟨rfl, hone⟩) (.inr ⟨rfl, htwo⟩) (.inr ⟨rfl, hthree⟩) (by decide)
  exact hsigned.not_mixed h

end Color

end Logbook
