/-
# The characters of a rendered timestamp

Under a pattern a timestamp is written with the characters of the pattern itself and those of
its fields, and fields are letters, digits, signs and colons (`mem_render`).  So a pattern
without quotes, backslashes and control characters gives a text without them, and such a text
can stand between quotes as it is (`quoteChars_roundTrip`).
-/
import Logbook.Text.Quoted
import Logbook.Timestamp.Pattern

namespace Logbook

namespace Pattern

/-! ## 1. Fields -/

/-- The characters that fields are written with. -/
def isFieldChar (c : Char) : Bool := c.isAlphanum || c == '-' || c == '+' || c == ':'

/-- A text of field characters. -/
def FieldText (s : List Char) : Prop := ∀ c ∈ s, isFieldChar c = true

instance (s : List Char) : Decidable (FieldText s) :=
  decidable_of_iff (s.all isFieldChar = true) List.all_eq_true

theorem isFieldChar_of_isDigit {c : Char} (h : c.isDigit = true) : isFieldChar c = true := by
  simp [isFieldChar, Char.isAlphanum, h]

namespace FieldText

theorem append {s t : List Char} (hs : FieldText s) (ht : FieldText t) : FieldText (s ++ t) := by
  intro c hc
  rcases List.mem_append.mp hc with hc | hc
  · exact hs c hc
  · exact ht c hc

theorem cons {c : Char} {s : List Char} (hc : isFieldChar c = true) (hs : FieldText s) :
    FieldText (c :: s) := by
  intro d hd
  rcases List.mem_cons.mp hd with rfl | hd
  · exact hc
  · exact hs d hd

theorem of_sublist {s t : List Char} (h : s.Sublist t) (ht : FieldText t) : FieldText s :=
  fun c hc => ht c (h.subset hc)

theorem decimal (n : Nat) : FieldText (decimal n) := fun _ hc =>
  isFieldChar_of_isDigit (Nat.isDigit_of_mem_toDigits (by decide) (by decide) hc)

theorem padZeros (width : Nat) {digits : List Char} (h : FieldText digits) :
    FieldText (padZeros width digits) := by
  refine append (fun c hc => ?_) h
  rw [List.eq_of_mem_replicate hc]
  decide

theorem signedDecimal (n : Int) : FieldText (signedDecimal n) := by
  unfold Logbook.signedDecimal
  split
  · exact cons (by decide) (decimal _)
  · exact decimal _

theorem padSigned (width : Nat) (n : Int) : FieldText (padSigned width n) := by
  unfold Pattern.padSigned
  split
  · exact cons (by decide) (padZeros _ (decimal _))
  · exact padZeros _ (decimal _)

theorem oneOrTwo (run n : Nat) : FieldText (oneOrTwo run n) := by
  unfold Pattern.oneOrTwo
  split
  · exact decimal _
  · exact padZeros _ (decimal _)

theorem year (run : Nat) (y : Int) : FieldText (year run y) := by
  unfold Pattern.year
  split
  · exact signedDecimal _
  · split
    · exact padSigned _ _
    · exact padSigned _ _

theorem numberOrName (run n : Nat) {name : List Char} (h : FieldText name) :
    FieldText (numberOrName run n name) := by
  unfold Pattern.numberOrName
  split
  · exact oneOrTwo _ _
  · split
    · exact of_sublist (List.take_sublist _ _) h
    · exact h

theorem getD {names : List String} (h : ∀ s ∈ names, FieldText s.toList) (i : Nat) :
    FieldText (names.getD i "").toList := by
  rw [List.getD_eq_getElem?_getD]
  cases hi : names[i]? with
  | none => exact fun c hc => absurd hc (by simp)
  | some s => exact h s (List.mem_of_getElem? hi)

theorem monthName (d : Date) : FieldText d.monthName := getD (by decide) _

theorem weekdayName (weekday : Nat) : FieldText (weekdayName weekday) := getD (by decide) _

theorem fraction (run nanos : Nat) : FieldText (fraction run nanos) :=
  of_sublist (List.take_sublist _ _) (padZeros _ (decimal _))

theorem dropFinalZeros {s : List Char} (h : FieldText s) : FieldText (dropFinalZeros s) := by
  intro c hc
  have hmem : c ∈ s.reverse := (List.dropWhile_sublist _).subset (List.mem_reverse.mp hc)
  exact h c (List.mem_reverse.mp hmem)

theorem dayHalf (run hour : Nat) : FieldText (dayHalf run hour) := by
  have hmark : FieldText (if hour < 12 then ['A', 'M'] else ['P', 'M']) := by
    split <;> decide
  unfold Pattern.dayHalf
  dsimp only
  split
  · exact of_sublist (List.take_sublist _ _) hmark
  · exact hmark

theorem offset (run : Nat) (seconds : Int) : FieldText (offset run seconds) := by
  have hsign : isFieldChar (if seconds < 0 then '-' else '+') = true := by
    split <;> decide
  unfold Pattern.offset
  dsimp only
  split
  · exact cons hsign (decimal _)
  · split
    · exact cons hsign (padZeros _ (decimal _))
    · exact append (cons hsign (padZeros _ (decimal _)))
        (cons (by decide) (padZeros _ (decimal _)))

end FieldText

/-- **A field is written with field characters**, whatever its letter and its length. -/
theorem fieldText_of_field? {clock : Clock} {letter : Char} {run : Nat} {text : List Char}
    (h : field? clock letter run = some text) : FieldText text := by
  unfold field? at h
  split at h
  case h_12 => exact absurd h (by simp)
  all_goals obtain rfl := Option.some.inj h
  · exact .year _ _
  · exact .numberOrName _ _ (.monthName _)
  · exact .numberOrName _ _ (.weekdayName _)
  · exact .oneOrTwo _ _
  · exact .oneOrTwo _ _
  · exact .oneOrTwo _ _
  · exact .oneOrTwo _ _
  · exact .fraction _ _
  · exact .dropFinalZeros (.fraction _ _)
  · exact .dayHalf _ _
  · exact .offset _ _

/-! ## 2. Patterns -/

/-- **A rendered pattern holds characters of the pattern and of fields only.** -/
theorem mem_render {clock : Clock} {pattern : List Char} {x : Char}
    (h : x ∈ render clock pattern) : x ∈ pattern ∨ isFieldChar x = true := by
  fun_induction render clock pattern with
  | case1 => exact absurd h (by simp)
  | case2 c rest text htext ih =>
    rcases List.mem_append.mp h with h | h
    · exact .inr (fieldText_of_field? htext x h)
    · exact (ih h).imp_left fun hx =>
        List.mem_cons_of_mem c ((List.dropWhile_sublist _).subset hx)
  | case3 rest _ ih =>
    rcases List.mem_append.mp h with h | h
    · exact .inr (FieldText.offset _ _ x h)
    · exact (ih h).imp_left (List.mem_cons_of_mem _)
  | case4 quote rest _ _ _ ih =>
    rcases List.mem_append.mp h with h | h
    · exact .inl (List.mem_cons_of_mem quote ((List.takeWhile_sublist _).subset h))
    · exact (ih h).imp_left fun hx =>
        List.mem_cons_of_mem quote ((List.dropWhile_sublist _).subset (List.mem_of_mem_drop hx))
  | case5 => exact absurd h (by simp)
  | case6 d rest _ _ _ ih =>
    rcases List.mem_cons.mp h with rfl | h
    · exact .inl (by simp)
    · exact (ih h).imp_left fun hx => List.mem_cons_of_mem _ (List.mem_cons_of_mem d hx)
  | case7 rest _ _ _ _ ih => exact (ih h).imp_left (List.mem_cons_of_mem _)
  | case8 c rest _ _ _ _ _ ih =>
    rcases List.mem_cons.mp h with rfl | h
    · exact .inl List.mem_cons_self
    · exact (ih h).imp_left (List.mem_cons_of_mem c)

end Pattern

/-! ## 3. Texts that need no escapes -/

namespace Text

/-- A text without escapes is quoted by putting it between quotes. -/
theorem quoteChars_of_escapeChar {s : List Char} (h : ∀ c ∈ s, escapeChar c = [c]) :
    quoteChars s = '"' :: (s ++ ['"']) := by
  have hsame : s.flatMap escapeChar = s := by
    induction s with
    | nil => rfl
    | cons c s ih =>
      rw [List.flatMap_cons, h c List.mem_cons_self,
        ih fun d hd => h d (List.mem_cons_of_mem c hd)]
      rfl
  rw [quoteChars, hsame]

theorem escapeChar_of_isFieldChar {c : Char} (h : Pattern.isFieldChar c = true) :
    escapeChar c = [c] := by
  have hne : ∀ d, Pattern.isFieldChar d = false → c ≠ d := by
    rintro d hd rfl
    exact absurd (h.symm.trans hd) (by decide)
  have hcontrol : ∀ n < 0x20, Pattern.isFieldChar (Char.ofNat n) = false := by decide
  have hlarge : ¬ c.toNat < 0x20 := fun hlt => hne _ (hcontrol _ hlt) (Char.ofNat_toNat c).symm
  simp [escapeChar, hne '"' (by decide), hne '\\' (by decide), hne '\x08' (by decide),
    hne '\x0c' (by decide), hne '\n' (by decide), hne '\r' (by decide), hne '\t' (by decide)]
  omega

end Text

namespace Timestamp

theorem escapeChar_of_mem_roundTrip {t : Timestamp} {c : Char} (h : c ∈ t.roundTrip) :
    Text.escapeChar c = [c] := by
  have hpattern : ("yyyy'-'MM'-'dd'T'HH':'mm':'ss.fffffffzzz".toList.all fun c =>
      Text.escapeChar c == [c]) = true := by decide
  have hrender : c ∈ Pattern.render t.clock "yyyy'-'MM'-'dd'T'HH':'mm':'ss.fffffffzzz".toList := h
  rcases Pattern.mem_render hrender with h | h
  · exact beq_iff_eq.mp (List.all_eq_true.mp hpattern c h)
  · exact Text.escapeChar_of_isFieldChar h

/-- **The round-trip text stands between quotes as it is.** -/
theorem quoteChars_roundTrip (t : Timestamp) :
    Text.quoteChars t.roundTrip = '"' :: (t.roundTrip ++ ['"']) :=
  Text.quoteChars_of_escapeChar fun _ hc => escapeChar_of_mem_roundTrip hc

end Timestamp

end Logbook
