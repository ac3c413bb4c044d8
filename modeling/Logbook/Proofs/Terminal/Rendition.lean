/-
# What a terminal shows of spans

A terminal that is sent the spans of a rendering shows each of their characters in the style of
its span, and nothing else; behind them the plain style is selected (`display_encodeAll`).  So
no style reaches past its span, whatever is sent afterwards.  Without the sequences, what was
sent is the text of the spans (`strip_encodeAll`).

Both rest on what is read.  A sequence is read as its numbers wherever it stands, since digits
and semicolons never run past its end (`read_sequenceText`); a text without an escape is read
as its characters (`read_append`).  The sequences of a style select it, if the plain style was
selected before (`selected_codes`): each colour replaces the one that is missing, and each
emphasis is one of the set.
-/
import Logbook.Proofs.Number.Numeral
import Logbook.Proofs.Rendering.Writes
import Logbook.Terminal

namespace Logbook

namespace Terminal

/-! ## 1. Reading sequences -/

/-- The characters of the numbers of a sequence. -/
def numbers (parameters : List Nat) : List Char :=
  List.intercalate [';'] (parameters.map decimal)

theorem toList_sequenceText (parameters : List Nat) :
    (Style.sequenceText parameters).toList = '\x1b' :: '[' :: (numbers parameters ++ ['m']) := by
  have hdigits : (String.toList ∘ fun n => String.ofList (Nat.toDigits 10 n)) = decimal :=
    funext fun _ => String.toList_ofList
  simp [Style.sequenceText, numbers, hdigits]

theorem numbers_singleton (n : Nat) : numbers [n] = decimal n := List.intercalate_singleton

theorem numbers_cons_cons (n next : Nat) (ns : List Nat) :
    numbers (n :: next :: ns) = decimal n ++ ';' :: numbers (next :: ns) := by
  rw [numbers, List.map_cons, List.map_cons, List.intercalate_cons_cons, List.append_assoc]
  rfl

/-- Digits go on with the number that was begun. -/
theorem readParameters_append {digits : List Char} (h : ∀ c ∈ digits, c.isDigit = true)
    (start : Nat) (rest : List Char) :
    readParameters start (digits ++ rest) =
      readParameters (Nat.ofDigitChars 10 digits start) rest := by
  induction digits generalizing start with
  | nil => rfl
  | cons c digits ih =>
    have hc : c ≠ ';' := by
      rintro rfl
      exact absurd (h ';' List.mem_cons_self) (by decide)
    rw [List.cons_append, readParameters, if_neg hc, Nat.ofDigitChars_cons]
    exact ih (fun d hd => h d (List.mem_cons_of_mem _ hd)) _

theorem readParameters_decimal (n : Nat) (rest : List Char) :
    readParameters 0 (decimal n ++ rest) = readParameters n rest := by
  have hvalue : Nat.ofDigitChars 10 (decimal n) 0 = n := Nat.ofDigitChars_ten_toDigits
  rw [readParameters_append (fun _ => isDigit_of_mem_decimal), hvalue]

theorem readParameters_numbers (n : Nat) (ns : List Nat) :
    readParameters 0 (numbers (n :: ns)) = n :: ns := by
  induction ns generalizing n with
  | nil =>
    have hnil := readParameters_decimal n []
    rw [List.append_nil] at hnil
    rw [numbers_singleton, hnil, readParameters]
  | cons next ns ih =>
    rw [numbers_cons_cons, readParameters_decimal, readParameters, if_pos rfl, ih]

theorem isParameterChar_numbers (parameters : List Nat) :
    ∀ c ∈ numbers parameters, isParameterChar c = true := by
  have hdecimal : ∀ n : Nat, ∀ c ∈ decimal n, isParameterChar c = true := by
    intro n c hc
    simp [isParameterChar, isDigit_of_mem_decimal hc]
  induction parameters with
  | nil => simp [numbers]
  | cons n ns ih =>
    cases ns with
    | nil =>
      rw [numbers_singleton]
      exact hdecimal n
    | cons next ns =>
      intro c hc
      rw [numbers_cons_cons, List.mem_append, List.mem_cons] at hc
      rcases hc with hc | rfl | hc
      · exact hdecimal n c hc
      · decide
      · exact ih c hc

/-- **A sequence is read as its numbers**, whatever follows it. -/
theorem read_sequenceText {parameters : List Nat} (h : parameters ≠ []) (rest : List Char) :
    read ((Style.sequenceText parameters).toList ++ rest) = .select parameters :: read rest := by
  obtain ⟨n, ns, rfl⟩ := List.exists_cons_of_ne_nil h
  have hchars := isParameterChar_numbers (n :: ns)
  have hend : isParameterChar 'm' = false := by decide
  have hcut : cutSequence (numbers (n :: ns) ++ 'm' :: rest) = some (n :: ns, rest) := by
    rw [cutSequence, List.dropWhile_append_of_pos hchars, List.takeWhile_append_of_pos hchars,
      List.dropWhile_cons_of_neg (by simp [hend]), List.takeWhile_cons_of_neg (by simp [hend]),
      List.append_nil, readParameters_numbers]
    rfl
  have htext : (Style.sequenceText (n :: ns)).toList ++ rest =
      '\x1b' :: '[' :: (numbers (n :: ns) ++ 'm' :: rest) := by
    simp [toList_sequenceText]
  rw [htext, read]
  split
  · rename_i parameters after hsome
    rw [hcut] at hsome
    obtain ⟨rfl, rfl⟩ := Prod.mk.inj (Option.some.inj hsome)
    rfl
  · rename_i hnone
    rw [hcut] at hnone
    cases hnone

/-- A text without an escape is read as its characters. -/
theorem read_append {s : List Char} (h : '\x1b' ∉ s) (rest : List Char) :
    read (s ++ rest) = s.map .char ++ read rest := by
  induction s with
  | nil => rfl
  | cons c s ih =>
    simp only [List.mem_cons, not_or] at h
    have hread : read (c :: (s ++ rest)) = .char c :: read (s ++ rest) :=
      read.eq_3 c (s ++ rest) fun _ hc _ => h.1 hc.symm
    rw [List.cons_append, hread, ih h.2]
    rfl

/-! ## 2. Selecting a style -/

theorem draw_append (style : Style) (xs ys : List Signal) :
    draw style (xs ++ ys) =
      ((draw style xs).1 ++ (draw (draw style xs).2 ys).1, (draw (draw style xs).2 ys).2) := by
  induction xs generalizing style with
  | nil => rfl
  | cons x xs ih =>
    cases x with
    | char c =>
      rw [List.cons_append, draw, draw, ih]
      rfl
    | select parameters => exact ih (selectAll style parameters)

/-- Characters are shown in the style that is selected. -/
theorem draw_chars (style : Style) (s : List Char) :
    draw style (s.map .char) = (s.map fun c => (c, style), style) := by
  induction s with
  | nil => rfl
  | cons c s ih =>
    rw [List.map_cons, draw, ih]
    rfl

/-- Sequences show nothing. -/
theorem draw_selects (style : Style) (codes : List (List Nat)) :
    draw style (codes.map .select) = ([], codes.foldl selectAll style) := by
  induction codes generalizing style with
  | nil => rfl
  | cons code codes ih => exact ih (selectAll style code)

theorem selectAll_foreground (style : Style) (ink : Ink) :
    selectAll style (Style.inkCode 30 ink) = { style with foreground := some ink } := by
  cases ink with
  | named c => cases c <;> rfl
  | index n =>
    rw [Style.inkCode, selectAll, Ink.ofNat?_val]
    rfl
  | rgb r g b =>
    rw [Style.inkCode, selectAll, Ink.ofMix?_val]
    rfl

theorem selectAll_background (style : Style) (ink : Ink) :
    selectAll style (Style.inkCode 40 ink) = { style with background := some ink } := by
  cases ink with
  | named c => cases c <;> rfl
  | index n =>
    rw [Style.inkCode, selectAll, Ink.ofNat?_val]
    rfl
  | rgb r g b =>
    rw [Style.inkCode, selectAll, Ink.ofMix?_val]
    rfl

theorem selectAll_code (style : Style) (a : Attribute) :
    selectAll style [a.code] = emphasize style a true := by
  cases a <;> rfl

/-- The emphases of a list, one after the other. -/
theorem foldl_selectAll_codes (attributes : List Attribute) (style : Style) :
    (attributes.map fun a => [a.code]).foldl selectAll style =
      { style with emphasis := attributes.foldl (fun e a => e.set a true) style.emphasis } := by
  induction attributes generalizing style with
  | nil => rfl
  | cons a attributes ih =>
    rw [List.map_cons, List.foldl_cons, selectAll_code, ih]
    rfl

/-- **The sequences of a style select it.** -/
theorem selected_codes (style : Style) : style.codes.foldl selectAll .plain = style := by
  obtain ⟨foreground, background, emphasis⟩ := style
  have hfront : ((foreground.map (Style.inkCode 30)).toList).foldl selectAll .plain =
      ⟨foreground, none, {}⟩ := by
    cases foreground with
    | none => rfl
    | some ink => exact selectAll_foreground .plain ink
  have hback : ((background.map (Style.inkCode 40)).toList).foldl selectAll ⟨foreground, none, {}⟩ =
      ⟨foreground, background, {}⟩ := by
    cases background with
    | none => rfl
    | some ink => exact selectAll_background ⟨foreground, none, {}⟩ ink
  rw [Style.codes, List.foldl_append, List.foldl_append, hfront, hback, foldl_selectAll_codes,
    Emphasis.foldl_set_filter]

/-! ## 3. Styles around a text -/

theorem code_ne_nil {style : Style} {code : List Nat} (h : code ∈ style.codes) : code ≠ [] := by
  have hink : ∀ (start : Nat) (ink : Ink), Style.inkCode start ink ≠ [] := by
    intro start ink
    cases ink <;> simp [Style.inkCode]
  simp only [Style.codes, List.mem_append, Option.mem_toList, Option.map_eq_some_iff,
    List.mem_map] at h
  rcases h with (⟨ink, -, rfl⟩ | ⟨ink, -, rfl⟩) | ⟨a, -, rfl⟩
  · exact hink 30 ink
  · exact hink 40 ink
  · exact List.cons_ne_nil _ _

theorem read_sequences {codes : List (List Nat)} (h : ∀ code ∈ codes, code ≠ [])
    (rest : List Char) :
    read ((String.join (codes.map Style.sequenceText)).toList ++ rest) =
      codes.map .select ++ read rest := by
  induction codes with
  | nil => rfl
  | cons code codes ih =>
    have hcode : code ≠ [] := h code List.mem_cons_self
    have hrest := ih fun c hc => h c (List.mem_cons_of_mem _ hc)
    rw [List.map_cons, String.join_cons, String.toList_append, List.append_assoc,
      read_sequenceText hcode, hrest]
    rfl

/-- What is read of a text in a style: the sequences of the style, the text, and the reset, unless
the style has no sequences. -/
theorem read_wrap (style : Style) {text : String} (h : '\x1b' ∉ text.toList) (rest : List Char) :
    read ((style.wrap text).toList ++ rest) =
      style.codes.map .select ++ (text.toList.map .char ++
        ((if style.codes = [] then [] else [.select [0]]) ++ read rest)) := by
  have hreset : Style.reset = Style.sequenceText [0] := by decide
  unfold Style.wrap
  split
  · rename_i hcodes
    rw [read_append h, hcodes]
    rfl
  · rw [Style.escapes, String.toList_append, String.toList_append, List.append_assoc,
      List.append_assoc, read_sequences (fun _ => code_ne_nil), read_append h, hreset,
      read_sequenceText (List.cons_ne_nil _ _)]
    rfl

/-- **A text in a style is shown in that style**, and the plain style is selected behind it. -/
theorem display_wrap (style : Style) {text : String} (h : '\x1b' ∉ text.toList)
    (rest : List Char) :
    display .plain ((style.wrap text).toList ++ rest) =
      (text.toList.map (fun c => (c, style)) ++ (display .plain rest).1,
        (display .plain rest).2) := by
  have hreset : ∀ style, draw style [.select [0]] = ([], .plain) := fun _ => rfl
  rw [display, read_wrap style h, draw_append, draw_selects, selected_codes, draw_append,
    draw_chars, draw_append]
  by_cases hcodes : style.codes = []
  · have hplain : style = .plain := by rw [← selected_codes style, hcodes]; rfl
    rw [if_pos hcodes, hplain]
    rfl
  · rw [if_neg hcodes, hreset]
    rfl

theorem codes_eq_nil_iff {style : Style} : style.codes = [] ↔ style = .plain := by
  constructor
  · intro h
    rw [← selected_codes style, h]
    rfl
  · rintro rfl
    exact Style.codes_plain

/-! ## 4. Spans -/

/-- The characters of a span, each in the style of the span. -/
def cells (s : Span Style) : List (Char × Style) :=
  s.text.toList.map fun c => (c, s.style.getD .plain)

theorem display_append {s : List Char} (h : '\x1b' ∉ s) (rest : List Char) :
    display .plain (s ++ rest) =
      (s.map (fun c => (c, .plain)) ++ (display .plain rest).1, (display .plain rest).2) := by
  rw [display, read_append h, draw_append, draw_chars]
  rfl

/-- A span is shown in its style, and the plain style is selected behind it. -/
theorem display_encode {s : Span Style} (h : '\x1b' ∉ s.text.toList) (rest : List Char) :
    display .plain ((Ansi.encode true s).toList ++ rest) =
      (cells s ++ (display .plain rest).1, (display .plain rest).2) := by
  obtain ⟨style, text⟩ := s
  cases style with
  | none => exact display_append h rest
  | some style =>
    by_cases hempty : text = ""
    · subst hempty
      rfl
    · have hencode : Ansi.encode true ⟨some style, text⟩ = style.wrap text := if_neg hempty
      rw [hencode]
      exact display_wrap style h rest

/-- **Spans are shown in their styles, whatever follows them.**  Behind them the plain style is
selected, as if nothing had been sent. -/
theorem display_encodeAll {spans : List (Span Style)}
    (h : ∀ s ∈ spans, '\x1b' ∉ s.text.toList) (rest : List Char) :
    display .plain ((Ansi.encodeAll true spans).toList ++ rest) =
      (spans.flatMap cells ++ (display .plain rest).1, (display .plain rest).2) := by
  induction spans with
  | nil => rfl
  | cons s spans ih =>
    have hrest := ih fun s hs => h s (List.mem_cons_of_mem _ hs)
    rw [Ansi.encodeAll] at hrest
    rw [Ansi.encodeAll, List.map_cons, String.join_cons, String.toList_append, List.append_assoc,
      display_encode (h s List.mem_cons_self), hrest, List.flatMap_cons, List.append_assoc]

theorem display_nil (style : Style) : display style [] = ([], style) := by
  rw [display, read, draw]

/-- **No style is left behind.** -/
theorem display_encodeAll_end {spans : List (Span Style)}
    (h : ∀ s ∈ spans, '\x1b' ∉ s.text.toList) :
    display .plain (Ansi.encodeAll true spans).toList = (spans.flatMap cells, .plain) := by
  have hnothing := display_encodeAll h []
  rw [List.append_nil, display_nil, List.append_nil] at hnothing
  exact hnothing

/-- What is left without the sequences is what is shown, in whatever style. -/
theorem strip_eq (style : Style) (s : List Char) : strip s = (display style s).1.map Prod.fst := by
  rw [strip, display]
  generalize read s = signals
  induction signals generalizing style with
  | nil => rfl
  | cons x xs ih =>
    cases x with
    | char c => exact congrArg (c :: ·) (ih style)
    | select parameters => exact ih (selectAll style parameters)

/-- Without the sequences, what is sent for spans is their text. -/
theorem strip_encodeAll {spans : List (Span Style)} (h : ∀ s ∈ spans, '\x1b' ∉ s.text.toList) :
    strip (Ansi.encodeAll true spans).toList = Span.chars spans := by
  have hcells : ∀ s : Span Style, (cells s).map Prod.fst = s.text.toList := by
    intro s
    rw [cells, List.map_map]
    exact List.map_id _
  rw [strip_eq .plain, display_encodeAll_end h, List.map_flatMap, Span.chars]
  exact congrArg (spans.flatMap ·) (funext hcells)

end Terminal

end Logbook
