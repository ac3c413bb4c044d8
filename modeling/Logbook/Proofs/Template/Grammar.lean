/-
# The grammar of directives

Which texts between braces are directives, and what their parts are: `Directive.Grammar` says
it without a reader.  A directive is an optional sign, a name, and an ending, which gives the
alignment and the format (`Directive.Ending`).  The alignment may stand before the format or
behind it; behind it only if it does not stand before, and what is behind the last comma of a
format counts as an alignment whenever it can.

A brace pair without a brace inside is read as one directive exactly if the grammar has it,
with the parts that the grammar gives, and is text as a whole otherwise
(`tokens_parse_pair`).

The reader cuts at the first colon and the first comma.  Names, signs and alignments hold
neither, so the places where the reader cuts are the seams of the grammar (`cuts_iff`).
-/
import Logbook.Proofs.Template.Pieces

namespace Logbook

/-! ## 1. Alignments -/

namespace Alignment

/-- The text writes the alignment: a row of decimal digits for its width, which is not zero,
and a minus sign in front for the left side.  A width is a word of 64 bits. -/
def Spells (a : Alignment) (s : List Char) : Prop :=
  ∃ digits, digits ≠ [] ∧ (∀ c ∈ digits, c.isDigit = true) ∧
    a.width = Nat.ofDigitChars 10 digits 0 ∧ 0 < a.width ∧
    (a.side = .right ∧ s = digits ∨ a.side = .left ∧ s = '-' :: digits)

theorem readDigits?_eq_some_iff {s : List Char} {n : Nat} :
    readDigits? s = some n ↔
      s ≠ [] ∧ (∀ c ∈ s, c.isDigit = true) ∧ n = Nat.ofDigitChars 10 s 0 := by
  rw [readDigits?, Option.ite_none_right_eq_some, List.all_eq_true, Nat.ofDigitChars_eq_foldl,
    Option.some.injEq, and_assoc, eq_comm (a := n)]

/-- The alignment of a side in a number of columns, if there may be that many. -/
def ofWidth? (side : Side) (width : Nat) : Option Alignment :=
  if h : width < UInt64.size then if width = 0 then none else some ⟨side, width, h⟩ else none

theorem ofWidth?_eq_some_iff {side : Side} {width : Nat} {a : Alignment} :
    ofWidth? side width = some a ↔ a.side = side ∧ a.width = width ∧ 0 < a.width := by
  obtain ⟨side', width', hwidth⟩ := a
  unfold ofWidth?
  constructor
  · intro h
    split at h
    · split at h
      · cases h
      · rename_i hne
        obtain ⟨rfl, rfl⟩ := Alignment.mk.inj (Option.some.inj h)
        exact ⟨rfl, rfl, Nat.pos_of_ne_zero hne⟩
    · cases h
  · rintro ⟨rfl, rfl, hpos⟩
    have hne : width' ≠ 0 := Nat.ne_of_gt hpos
    rw [dif_pos hwidth, if_neg hne]

theorem parse?_minus (digits : List Char) :
    parse? ('-' :: digits) = (readDigits? digits).bind (ofWidth? .left) := rfl

theorem parse?_plain {s : List Char} (h : ∀ digits, s ≠ '-' :: digits) :
    parse? s = (readDigits? s).bind (ofWidth? .right) := by
  unfold parse?
  split
  rename_i side digits hcut
  split at hcut
  · rename_i rest
    exact absurd rfl (h rest)
  · obtain ⟨rfl, rfl⟩ := Prod.mk.inj hcut
    rfl

theorem bind_ofWidth?_eq_some_iff {side : Side} {digits : List Char} {a : Alignment} :
    (readDigits? digits).bind (ofWidth? side) = some a ↔
      digits ≠ [] ∧ (∀ c ∈ digits, c.isDigit = true) ∧
        a.width = Nat.ofDigitChars 10 digits 0 ∧ 0 < a.width ∧ a.side = side := by
  simp only [Option.bind_eq_some_iff, readDigits?_eq_some_iff, ofWidth?_eq_some_iff]
  constructor
  · rintro ⟨width, ⟨hne, hdigits, hvalue⟩, hside, hwidth, hpos⟩
    exact ⟨hne, hdigits, hwidth.trans hvalue, hpos, hside⟩
  · rintro ⟨hne, hdigits, hwidth, hpos, hside⟩
    exact ⟨_, ⟨hne, hdigits, hwidth⟩, hside, rfl, hpos⟩

/-- **Reading an alignment accepts exactly the texts that write one.** -/
theorem parse?_eq_some_iff {s : List Char} {a : Alignment} :
    parse? s = some a ↔ a.Spells s := by
  constructor
  · intro h
    by_cases hminus : ∃ digits, s = '-' :: digits
    · obtain ⟨digits, rfl⟩ := hminus
      rw [parse?_minus] at h
      obtain ⟨hne, hdigits, hwidth, hpos, hside⟩ := bind_ofWidth?_eq_some_iff.mp h
      exact ⟨digits, hne, hdigits, hwidth, hpos, .inr ⟨hside, rfl⟩⟩
    · rw [parse?_plain fun digits hs => hminus ⟨digits, hs⟩] at h
      obtain ⟨hne, hdigits, hwidth, hpos, hside⟩ := bind_ofWidth?_eq_some_iff.mp h
      exact ⟨s, hne, hdigits, hwidth, hpos, .inl ⟨hside, rfl⟩⟩
  · rintro ⟨digits, hne, hdigits, hwidth, hpos, ⟨hside, rfl⟩ | ⟨hside, rfl⟩⟩
    · have hminus : ∀ rest, s ≠ '-' :: rest := by
        rintro rest rfl
        exact absurd (hdigits '-' List.mem_cons_self) (by decide)
      rw [parse?_plain hminus]
      exact bind_ofWidth?_eq_some_iff.mpr ⟨hne, hdigits, hwidth, hpos, hside⟩
    · rw [parse?_minus]
      exact bind_ofWidth?_eq_some_iff.mpr ⟨hne, hdigits, hwidth, hpos, hside⟩

/-- The text of an alignment holds digits and minus signs only. -/
theorem Spells.notMem {a : Alignment} {s : List Char} (h : a.Spells s) {c : Char}
    (hdigit : c.isDigit = false) (hminus : c ≠ '-') : c ∉ s := by
  obtain ⟨digits, -, hdigits, -, -, hs⟩ := h
  have hc : c ∉ digits := fun hmem => absurd (hdigits c hmem) (by simp [hdigit])
  rcases hs with ⟨-, rfl⟩ | ⟨-, rfl⟩
  · exact hc
  · simp [hminus, hc]

end Alignment

/-! ## 2. The grammar -/

namespace Directive

/-- The signs, and how they ask for a property to be captured. -/
inductive Sign : List Char → Destructuring → Prop
  | none : Sign [] .plain
  | destructure : Sign ['@'] .destructure
  | stringify : Sign ['$'] .stringify

/-- A name: at least one character, and only letters, digits and underscores. -/
def Name (s : List Char) : Prop := s ≠ [] ∧ ∀ c ∈ s, Text.isAlphanumeric c = true ∨ c = '_'

/-- No alignment is written behind the last comma of a format. -/
def NoSuffix (f : List Char) : Prop :=
  ∀ before w, f = before ++ ',' :: w → ',' ∉ w → ∀ a : Alignment, ¬ a.Spells w

/-- What may follow a name, with the alignment and the format that it gives. -/
inductive Ending : List Char → Option Alignment → Option (List Char) → Prop
  | none : Ending [] none none
  | alignment {a : Alignment} {w : List Char} (ha : a.Spells w) : Ending (',' :: w) (some a) none
  | alignmentFormat {a : Alignment} {w f : List Char} (ha : a.Spells w) (hf : f ≠ []) :
    Ending (',' :: (w ++ ':' :: f)) (some a) (some f)
  /-- A format alone. -/
  | format {f : List Char} (hf : f ≠ []) (hlast : NoSuffix f) : Ending (':' :: f) none (some f)
  | formatAlignment {a : Alignment} {w f : List Char} (hf : f ≠ []) (ha : a.Spells w) :
    Ending (':' :: (f ++ ',' :: w)) (some a) (some f)

/-- **The text between the braces is a sign, a name and an ending, and these are the parts of the
directive.** -/
def Grammar (content : List Char) (d : Directive) : Prop :=
  ∃ (sign name ending : List Char) (format : Option (List Char)),
    content = sign ++ (name ++ ending) ∧ Sign sign d.destructuring ∧ Name name ∧
      Ending ending d.alignment format ∧ d.name = String.ofList name ∧
      d.format = format.map String.ofList ∧ d.raw = String.ofList ('{' :: (content ++ ['}']))

/-! ## 3. Cutting at the seams -/

theorem isName_iff {s : List Char} : isName s = true ↔ Name s := by
  simp [isName, Name, isNameChar]

theorem Name.notMem {s : List Char} (h : Name s) {c : Char} (hc : isNameChar c = false) :
    c ∉ s := by
  intro hmem
  have hname : isNameChar c = true := by simpa [isNameChar] using h.2 c hmem
  rw [hc] at hname
  cases hname

/-- The reader cuts a text into a name, an alignment and a format. -/
def Cuts (body name : List Char) (a : Option Alignment) (format : Option (List Char)) : Prop :=
  ∃ a', splitName (splitFormat body).1 = some (name, a') ∧
    settle a' (splitFormat body).2 = (format, a)

theorem splitFormat_of_notMem {s : List Char} (h : ':' ∉ s) : splitFormat s = (s, none) := by
  rw [splitFormat, Text.cutFirst_eq_none_iff.mpr h]

theorem splitFormat_append {s : List Char} (h : ':' ∉ s) (f : List Char) :
    splitFormat (s ++ ':' :: f) = (s, some f) := by
  rw [splitFormat, Text.cutFirst_append_cons h]

theorem splitName_of_notMem {s : List Char} (h : ',' ∉ s) : splitName s = some (s, none) := by
  rw [splitName, Text.cutFirst_eq_none_iff.mpr h]

theorem splitName_append {s : List Char} (h : ',' ∉ s) {a : Alignment} {w : List Char}
    (ha : a.Spells w) : splitName (s ++ ',' :: w) = some (s, some a) := by
  rw [splitName, Text.cutFirst_append_cons h]
  simp [Alignment.parse?_eq_some_iff.mpr ha]

/-- In front of the colon stands a name, or a name with an alignment behind a comma. -/
theorem of_splitName {head name : List Char} {a' : Option Alignment}
    (h : splitName head = some (name, a')) :
    (a' = none ∧ head = name) ∨
      ∃ (a : Alignment) (w : List Char), a' = some a ∧ head = name ++ ',' :: w ∧ a.Spells w := by
  unfold splitName at h
  split at h
  · rename_i before w hcut
    obtain ⟨a, ha, heq⟩ := Option.map_eq_some_iff.mp h
    obtain ⟨rfl, rfl⟩ := Prod.mk.inj heq
    exact .inr ⟨a, w, rfl, Text.eq_of_cutFirst hcut, Alignment.parse?_eq_some_iff.mp ha⟩
  · obtain ⟨rfl, rfl⟩ := Prod.mk.inj (Option.some.inj h)
    exact .inl ⟨rfl, rfl⟩

theorem splitSuffix_append {a : Alignment} {w : List Char} (ha : a.Spells w) (f : List Char) :
    splitSuffix (f ++ ',' :: w) = (f, some a) := by
  have hcomma : ',' ∉ w := ha.notMem (by decide) (by decide)
  rw [splitSuffix, Text.cutLast_append_cons hcomma]
  simp [Alignment.parse?_eq_some_iff.mpr ha]

theorem splitSuffix_of_noSuffix {f : List Char} (h : NoSuffix f) : splitSuffix f = (f, none) := by
  unfold splitSuffix
  split
  · rename_i before w hcut
    have hnone : Alignment.parse? w = none := by
      refine Option.eq_none_iff_forall_ne_some.mpr fun a ha => ?_
      exact h before w (Text.eq_of_cutLast hcut) (Text.notMem_of_cutLast hcut) a
        (Alignment.parse?_eq_some_iff.mp ha)
    rw [hnone]
  · rfl

theorem noSuffix_or_suffix (f : List Char) :
    NoSuffix f ∨ ∃ (before w : List Char) (a : Alignment), f = before ++ ',' :: w ∧ a.Spells w := by
  by_cases h : ∃ (before w : List Char) (a : Alignment), f = before ++ ',' :: w ∧ a.Spells w
  · exact .inr h
  · exact .inl fun before w hf _ a ha => h ⟨before, w, a, hf, ha⟩

/-- A name with an ending is cut where the ending begins, and the ending at its own seams. -/
theorem cuts_of_ending {name ending : List Char} {a : Option Alignment}
    {format : Option (List Char)} (hname : Name name) (h : Ending ending a format) :
    Cuts (name ++ ending) name a format := by
  have hcolon : ':' ∉ name := hname.notMem (by decide)
  have hcomma : ',' ∉ name := hname.notMem (by decide)
  cases h with
  | none =>
    rw [List.append_nil, Cuts, splitFormat_of_notMem hcolon]
    exact ⟨_, splitName_of_notMem hcomma, rfl⟩
  | @alignment a w ha =>
    have hhead : ':' ∉ name ++ ',' :: w := by
      simp [hcolon, ha.notMem (c := ':') (by decide) (by decide)]
    rw [Cuts, splitFormat_of_notMem hhead]
    exact ⟨_, splitName_append hcomma ha, rfl⟩
  | @alignmentFormat a w f ha hf =>
    have hhead : ':' ∉ name ++ ',' :: w := by
      simp [hcolon, ha.notMem (c := ':') (by decide) (by decide)]
    have hbody : name ++ ',' :: (w ++ ':' :: f) = (name ++ ',' :: w) ++ ':' :: f := by simp
    rw [hbody, Cuts, splitFormat_append hhead]
    exact ⟨_, splitName_append hcomma ha, rfl⟩
  | @format f hf hlast =>
    rw [Cuts, splitFormat_append hcolon]
    refine ⟨_, splitName_of_notMem hcomma, ?_⟩
    rw [settle, splitSuffix_of_noSuffix hlast]
  | @formatAlignment a w f hf ha =>
    rw [Cuts, splitFormat_append hcolon]
    refine ⟨_, splitName_of_notMem hcomma, ?_⟩
    rw [settle, splitSuffix_append ha]

/-- What is cut is a name with an ending, if the format is not empty. -/
theorem ending_of_cuts {body name : List Char} {a : Option Alignment}
    {format : Option (List Char)} (h : Cuts body name a format) (hformat : format ≠ some []) :
    ∃ ending, body = name ++ ending ∧ Ending ending a format := by
  obtain ⟨a', hname, hsettle⟩ := h
  cases hcut : Text.cutFirst ':' body with
  | none =>
    have hsplit : splitFormat body = (body, none) := by rw [splitFormat, hcut]
    rw [hsplit] at hname hsettle
    rcases of_splitName hname with ⟨rfl, rfl⟩ | ⟨a, w, rfl, rfl, ha⟩
    · obtain ⟨rfl, rfl⟩ := Prod.mk.inj hsettle
      exact ⟨[], (List.append_nil _).symm, .none⟩
    · obtain ⟨rfl, rfl⟩ := Prod.mk.inj hsettle
      exact ⟨_, rfl, .alignment ha⟩
  | some cut =>
    obtain ⟨head, f⟩ := cut
    have hsplit : splitFormat body = (head, some f) := by rw [splitFormat, hcut]
    rw [hsplit] at hname hsettle
    obtain rfl : body = head ++ ':' :: f := Text.eq_of_cutFirst hcut
    rcases of_splitName hname with ⟨rfl, rfl⟩ | ⟨a, w, rfl, rfl, ha⟩
    · rcases noSuffix_or_suffix f with hlast | ⟨before, w, a, rfl, ha⟩
      · rw [settle, splitSuffix_of_noSuffix hlast] at hsettle
        obtain ⟨rfl, rfl⟩ := Prod.mk.inj hsettle
        have hne : f ≠ [] := fun hf => hformat (congrArg some hf)
        exact ⟨_, rfl, .format hne hlast⟩
      · rw [settle, splitSuffix_append ha] at hsettle
        obtain ⟨rfl, rfl⟩ := Prod.mk.inj hsettle
        have hne : before ≠ [] := fun hf => hformat (congrArg some hf)
        exact ⟨_, rfl, .formatAlignment hne ha⟩
    · obtain ⟨rfl, rfl⟩ := Prod.mk.inj hsettle
      have hne : f ≠ [] := fun hf => hformat (congrArg some hf)
      exact ⟨_, by simp, .alignmentFormat ha hne⟩

theorem Ending.format_ne {ending : List Char} {a : Option Alignment}
    {format : Option (List Char)} (h : Ending ending a format) : format ≠ some [] := by
  cases h with
  | none => simp
  | alignment ha => simp
  | alignmentFormat ha hf => simpa using hf
  | format hf hlast => simpa using hf
  | formatAlignment hf ha => simpa using hf

/-- **The seams of the grammar are where the reader cuts.** -/
theorem cuts_iff {body name : List Char} {a : Option Alignment} {format : Option (List Char)}
    (hname : Name name) :
    Cuts body name a format ∧ format ≠ some [] ↔
      ∃ ending, body = name ++ ending ∧ Ending ending a format := by
  constructor
  · rintro ⟨hcuts, hformat⟩
    exact ending_of_cuts hcuts hformat
  · rintro ⟨ending, rfl, hending⟩
    exact ⟨cuts_of_ending hname hending, hending.format_ne⟩

/-! ## 4. Directives -/

theorem splitSign_of_sign {sign body : List Char} {destructuring : Destructuring}
    (h : Sign sign destructuring) (hat : ∀ rest, body ≠ '@' :: rest)
    (hdollar : ∀ rest, body ≠ '$' :: rest) : splitSign (sign ++ body) = (destructuring, body) := by
  cases h with
  | none => exact splitSign.eq_3 body (fun rest h => hat rest h) fun rest h => hdollar rest h
  | destructure => rfl
  | stringify => rfl

theorem sign_of_splitSign {content body : List Char} {destructuring : Destructuring}
    (h : splitSign content = (destructuring, body)) :
    ∃ sign, content = sign ++ body ∧ Sign sign destructuring := by
  unfold splitSign at h
  split at h
  · obtain ⟨rfl, rfl⟩ := Prod.mk.inj h
    exact ⟨['@'], rfl, .destructure⟩
  · obtain ⟨rfl, rfl⟩ := Prod.mk.inj h
    exact ⟨['$'], rfl, .stringify⟩
  · obtain ⟨rfl, rfl⟩ := Prod.mk.inj h
    exact ⟨[], rfl, .none⟩

/-- A name has no sign. -/
theorem Name.append_ne_cons {name : List Char} (h : Name name) {c : Char}
    (hc : isNameChar c = false) (ending rest : List Char) : name ++ ending ≠ c :: rest := by
  intro heq
  cases name with
  | nil => exact h.1 rfl
  | cons first name =>
    obtain rfl : first = c := (List.cons.inj heq).1
    exact h.notMem hc List.mem_cons_self

/-- What the reader makes of a text: it takes the sign off, cuts the rest and checks the parts. -/
theorem parse?_eq_some_iff_cuts {content : List Char} {d : Directive} :
    parse? content = some d ↔
      ∃ body name format, splitSign content = (d.destructuring, body) ∧ Name name ∧
        (Cuts body name d.alignment format ∧ format ≠ some []) ∧ d.name = String.ofList name ∧
        d.format = format.map String.ofList ∧
        d.raw = String.ofList ('{' :: (content ++ ['}'])) := by
  constructor
  · intro h
    obtain ⟨⟨name, a'⟩, hname, h⟩ := Option.bind_eq_some_iff.mp h
    obtain ⟨⟨hvalid, hformat⟩, h⟩ := Option.ite_none_right_eq_some.mp h
    obtain rfl := Option.some.inj h
    exact ⟨_, name, _, rfl, isName_iff.mp hvalid, ⟨⟨a', hname, rfl⟩, hformat⟩, rfl, rfl, rfl⟩
  · rintro ⟨body, name, format, hsign, hname, ⟨⟨a', hsplit, hsettle⟩, hformat⟩, hparts⟩
    obtain ⟨dname, ⟨dformat⟩, dalignment, ddestructuring, draw⟩ := d
    obtain ⟨rfl, rfl, rfl⟩ := hparts
    have hvalid : isName name = true ∧ format ≠ some [] := ⟨isName_iff.mpr hname, hformat⟩
    simp only [parse?, hsign, hsplit, Option.bind_some, hsettle, if_pos hvalid]

/-- **A text is read as a directive exactly if the grammar has it**, with the same parts. -/
theorem parse?_eq_some_iff {content : List Char} {d : Directive} :
    parse? content = some d ↔ Grammar content d := by
  rw [parse?_eq_some_iff_cuts]
  constructor
  · rintro ⟨body, name, format, hsplit, hname, hcuts, hparts⟩
    obtain ⟨sign, rfl, hsign⟩ := sign_of_splitSign hsplit
    obtain ⟨ending, rfl, hending⟩ := (cuts_iff hname).mp hcuts
    exact ⟨sign, name, ending, format, rfl, hsign, hname, hending, hparts⟩
  · rintro ⟨sign, name, ending, format, rfl, hsign, hname, hending, hparts⟩
    refine ⟨name ++ ending, name, format, ?_, hname, (cuts_iff hname).mpr ⟨ending, rfl, hending⟩,
      hparts⟩
    exact splitSign_of_sign hsign (hname.append_ne_cons (by decide) ending)
      (hname.append_ne_cons (by decide) ending)

end Directive

/-! ## 5. Brace pairs -/

namespace Template

theorem tokens_parse_pair_eq {content : List Char} (h : BraceFree content) :
    (parse (String.ofList ('{' :: (content ++ ['}'])))).tokens = [enclosed content] := by
  have hpieces : pieces ('{' :: (content ++ ['}'])) = [enclosed content] := by
    rw [pieces_enclosed h [], pieces.eq_1]
  rw [parse, String.toList_ofList, hpieces, enclosed]
  cases Directive.parse? content with
  | none => rfl
  | some d => rfl

/-- **A brace pair is a directive exactly if the grammar has what is inside.**  A template that is
one brace pair without a brace inside is read as one directive if the text inside is a sign, a
name and an ending, and the directive has these parts; if it is not, the template is one text. -/
theorem tokens_parse_pair (content : List Char) (h : BraceFree content) :
    (∀ d, (parse (String.ofList ('{' :: (content ++ ['}'])))).tokens = [.property d] ↔
      Directive.Grammar content d) ∧
    ((¬ ∃ d, Directive.Grammar content d) →
      (parse (String.ofList ('{' :: (content ++ ['}'])))).tokens =
        [.text ('{' :: (content ++ ['}']))]) := by
  rw [tokens_parse_pair_eq h, enclosed]
  cases hparse : Directive.parse? content with
  | none =>
    refine ⟨fun d => ?_, fun _ => rfl⟩
    rw [← Directive.parse?_eq_some_iff, hparse]
    simp
  | some d =>
    refine ⟨fun d' => ?_, fun hnone => ?_⟩
    · rw [← Directive.parse?_eq_some_iff, hparse]
      simp
    · exact absurd ⟨d, Directive.parse?_eq_some_iff.mp hparse⟩ hnone

/-- An alignment with leading zeros behind a format that holds both separators, and a format that
its alignment leaves empty. -/
theorem tokens_parse_pair_at_seams :
    BraceFree "@User_1:a,b:c,-007".toList ∧ BraceFree "Name:,5".toList ∧
    (parse "\x7b@User_1:a,b:c,-007\x7d").tokens =
      [.property
        { name := "User_1", spec := ⟨some "a,b:c"⟩, alignment := some ⟨.left, 7, by decide⟩
          destructuring := .destructure, raw := "\x7b@User_1:a,b:c,-007\x7d" }] ∧
    (parse "\x7bName:,5\x7d").tokens = [.text "\x7bName:,5\x7d".toList] := by
  have haccepted : BraceFree "@User_1:a,b:c,-007".toList := by decide
  have hrefused : BraceFree "Name:,5".toList := by decide
  refine ⟨haccepted, hrefused, ?_, ?_⟩
  · have hspells : Alignment.Spells ⟨.left, 7, by decide⟩ "-007".toList :=
      ⟨"007".toList, by decide, List.all_eq_true.mp (by decide), by decide, by decide,
        .inr ⟨rfl, by decide⟩⟩
    have hending := Directive.Ending.formatAlignment (f := "a,b:c".toList) (by decide) hspells
    have hname : Directive.Name "User_1".toList := Directive.isName_iff.mp (by decide)
    exact ((tokens_parse_pair _ haccepted).1 _).mpr
      ⟨['@'], "User_1".toList, _, _, by decide, .destructure, hname, hending, by decide, by decide,
        by decide⟩
  · refine (tokens_parse_pair _ hrefused).2 ?_
    rintro ⟨d, hd⟩
    have hnone : Directive.parse? "Name:,5".toList = none := by decide
    rw [Directive.parse?_eq_some_iff.mpr hd] at hnone
    cases hnone

end Template

end Logbook
