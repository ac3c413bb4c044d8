/-
# Directives that read back

`Directive.make` builds a directive from a name, a format and an alignment.  It writes the
text of the directive without looking at the parts, so the text may be none of a directive,
or that of another one: `{a:b,5}` is made from the format `b,5`, and read with the format
`b` in five columns.

`tokens_parse_make_iff` says exactly which parts are safe.  The argument is an inversion of
the grammar at the text that was written:

* the text is a pair of braces around a name and an ending, and if it reads as one directive
  it holds no other brace (`fromPair_make_iff`);
* the name is where the grammar expects it, since a made directive has no sign
  (`grammar_make_iff`);
* the ending starts with a comma exactly if there is an alignment, so the grammar has only one
  way to read it, except for a format alone, whose last part may be an alignment by itself
  (`ending_iff`).
-/
import Logbook.Proofs.Template.Grammar

namespace Logbook

/-! ## 1. The text of an alignment -/

namespace Alignment

/-- An alignment with a column in it is written as it is read. -/
theorem spells_text {a : Alignment} (h : 0 < a.width) : a.Spells a.text := by
  have hdigits : ∀ c ∈ Nat.toDigits 10 a.width, c.isDigit = true := fun _ hc =>
    Nat.isDigit_of_mem_toDigits (by decide) (by decide) hc
  have hvalue : a.width = Nat.ofDigitChars 10 (Nat.toDigits 10 a.width) 0 :=
    (Nat.ofDigitChars_toDigits (by decide) (by decide)).symm
  refine ⟨Nat.toDigits 10 a.width, Nat.toDigits_ne_nil, hdigits, hvalue, h, ?_⟩
  cases hside : a.side with
  | left => exact .inr ⟨rfl, by rw [text, hside]⟩
  | right => exact .inl ⟨rfl, by rw [text, hside]⟩

theorem braceFree_text (a : Alignment) : Template.BraceFree a.text := by
  have hdigits : Template.BraceFree (Nat.toDigits 10 a.width) := by
    intro c hc
    have hdigit : c.isDigit = true := Nat.isDigit_of_mem_toDigits (by decide) (by decide) hc
    refine Template.notBrace_iff.mpr ⟨?_, ?_⟩
    · rintro rfl
      exact absurd hdigit (by decide)
    · rintro rfl
      exact absurd hdigit (by decide)
  unfold text
  cases a.side with
  | left => exact List.forall_mem_cons.mpr ⟨by decide, hdigits⟩
  | right => exact hdigits

end Alignment

/-! ## 2. What is written behind a name -/

namespace Directive

/-- The alignment behind a comma. -/
def widthText : Option Alignment → List Char
  | none => []
  | some a => ',' :: a.text

/-- The format behind a colon. -/
def formatText : Option String → List Char
  | none => []
  | some f => ':' :: f.toList

/-- What stands between the braces of a directive that is made from parts. -/
def contentText (name : String) (format : Option String) (a : Option Alignment) : List Char :=
  name.toList ++ (widthText a ++ formatText format)

theorem toList_raw_make (name : String) (format : Option String) (a : Option Alignment) :
    (make name format a).raw.toList = '{' :: (contentText name format a ++ ['}']) := by
  cases a <;> cases format <;> simp [make, written, contentText, widthText, formatText]

theorem Ending.width_pos {ending : List Char} {a : Alignment} {format : Option (List Char)}
    (h : Ending ending (some a) format) : 0 < a.width := by
  have hpos : ∀ {w : List Char}, a.Spells w → 0 < a.width := fun ⟨_, _, _, _, hpos, _⟩ => hpos
  cases h with
  | alignment ha => exact hpos ha
  | alignmentFormat ha hf => exact hpos ha
  | formatAlignment hf ha => exact hpos ha

theorem noSuffix_of_ending {ending f : List Char} (h : Ending ending none (some f)) :
    NoSuffix f := by
  cases h with
  | format hf hlast => exact hlast

/-- **The grammar reads an alignment and a format as they are written** if there is a column
and the format is not empty.  A format alone must not end in an alignment. -/
theorem ending_iff {format : Option String} {a : Option Alignment} :
    Ending (widthText a ++ formatText format) a (format.map String.toList) ↔
      (∀ b, a = some b → 0 < b.width) ∧
        ∀ f, format = some f → f ≠ "" ∧ (a.isSome = true ∨ NoSuffix f.toList) := by
  constructor
  · intro h
    refine ⟨?_, ?_⟩
    · rintro b rfl
      exact h.width_pos
    · rintro f rfl
      refine ⟨?_, ?_⟩
      · rintro rfl
        exact h.format_ne rfl
      · cases a with
        | none => exact .inr (noSuffix_of_ending h)
        | some b => exact .inl rfl
  · rintro ⟨hwidth, hformat⟩
    cases a with
    | none =>
      cases format with
      | none => exact .none
      | some f =>
        obtain ⟨hne, hlast⟩ := hformat f rfl
        exact .format (fun hnil => hne (String.toList_eq_nil_iff.mp hnil))
          (hlast.resolve_left (by simp))
    | some b =>
      have hspells : b.Spells b.text := Alignment.spells_text (hwidth b rfl)
      cases format with
      | none =>
        rw [widthText, formatText, List.append_nil]
        exact .alignment hspells
      | some f =>
        obtain ⟨hne, -⟩ := hformat f rfl
        exact .alignmentFormat hspells fun hnil => hne (String.toList_eq_nil_iff.mp hnil)

/-! ## 3. Made directives -/

/-- **The name is where it was written.**  A made directive has no sign, so the grammar finds the
name at the front, and the rest is its ending. -/
theorem grammar_make_iff {name : String} {format : Option String} {a : Option Alignment} :
    Grammar (contentText name format a) (make name format a) ↔
      Name name.toList ∧
        Ending (widthText a ++ formatText format) a (format.map String.toList) := by
  constructor
  · rintro ⟨sign, name', ending, format', hcontent, hsign, hname, hending, hsame, hformat, -⟩
    obtain rfl : sign = [] := by
      cases hsign with
      | none => rfl
    obtain rfl : name = String.ofList name' := hsame
    rw [contentText, String.toList_ofList, List.nil_append] at hcontent
    obtain rfl : widthText a ++ formatText format = ending := List.append_cancel_left hcontent
    obtain rfl : format = format'.map String.ofList := hformat
    refine ⟨by rwa [String.toList_ofList], ?_⟩
    have hsame : (format'.map String.ofList).map String.toList = format' := by
      cases format' with
      | none => rfl
      | some f => exact congrArg some String.toList_ofList
    rw [hsame]
    exact hending
  · rintro ⟨hname, hending⟩
    refine ⟨[], name.toList, _, _, rfl, .none, hname, hending, ?_, ?_, ?_⟩
    · exact String.ofList_toList.symm
    · cases format with
      | none => rfl
      | some f => exact congrArg some String.ofList_toList.symm
    · exact String.toList_injective (by rw [toList_raw_make, String.toList_ofList])

/-- A brace in a made directive with a proper name can only be in the format. -/
theorem braceFree_contentText_iff {name : String} {format : Option String}
    {a : Option Alignment} (hname : Name name.toList) :
    Template.BraceFree (contentText name format a) ↔
      ∀ f, format = some f → Template.BraceFree f.toList := by
  have hfront : Template.BraceFree name.toList := by
    intro c hc
    refine Template.notBrace_iff.mpr ⟨?_, ?_⟩
    · rintro rfl
      exact hname.notMem (by decide) hc
    · rintro rfl
      exact hname.notMem (by decide) hc
  have hwidth : Template.BraceFree (widthText a) := by
    cases a with
    | none => exact List.forall_mem_nil _
    | some b => exact List.forall_mem_cons.mpr ⟨by decide, b.braceFree_text⟩
  have hsplit : Template.BraceFree (contentText name format a) ↔
      Template.BraceFree (formatText format) := by
    rw [contentText, Template.BraceFree, List.forall_mem_append, List.forall_mem_append]
    exact ⟨fun h => h.2.2, fun h => ⟨hfront, hwidth, h⟩⟩
  rw [hsplit]
  cases format with
  | none => simp [formatText, Template.BraceFree]
  | some f => simp [formatText, Template.BraceFree, Template.notBrace]

end Directive

namespace Template

/-- A made directive comes from a pair of braces exactly if its text holds no brace between its
own, and is read as it. -/
theorem fromPair_make_iff {name : String} {format : Option String} {a : Option Alignment} :
    FromPair (Directive.make name format a) ↔
      BraceFree (Directive.contentText name format a) ∧
        Directive.Grammar (Directive.contentText name format a)
          (Directive.make name format a) := by
  constructor
  · rintro ⟨body, hbody, hparse⟩
    have hraw := raw_of_parse? hparse
    rw [Directive.toList_raw_make] at hraw
    obtain rfl : Directive.contentText name format a = body :=
      List.append_cancel_right (List.cons.inj hraw).2
    exact ⟨hbody, Directive.parse?_eq_some_iff.mp hparse⟩
  · rintro ⟨hbody, hgrammar⟩
    exact ⟨_, hbody, Directive.parse?_eq_some_iff.mpr hgrammar⟩

/-- A directive alone is read as itself exactly if it comes from a pair of braces. -/
theorem tokens_parse_raw_iff {d : Directive} :
    (parse d.raw).tokens = [.property d] ↔ FromPair d :=
  ⟨fun h => fromPair_of_mem_tokens (h ▸ List.mem_singleton_self _), tokens_parse_raw⟩

/-- **A made directive reads back exactly if its parts are those of a directive.**  The name is
made of letters, digits and underscores; an alignment has a column; and a format is not empty,
holds no brace, and unless there is an alignment it does not end in one by itself. -/
theorem tokens_parse_make_iff (name : String) (format : Option String) (a : Option Alignment) :
    (parse (Directive.make name format a).raw).tokens =
        [.property (Directive.make name format a)] ↔
      Directive.Name name.toList ∧ (∀ b, a = some b → 0 < b.width) ∧
        ∀ f, format = some f →
          f ≠ "" ∧ BraceFree f.toList ∧ (a.isSome = true ∨ Directive.NoSuffix f.toList) := by
  rw [tokens_parse_raw_iff, fromPair_make_iff, Directive.grammar_make_iff, Directive.ending_iff]
  constructor
  · rintro ⟨hfree, hname, hwidth, hformat⟩
    refine ⟨hname, hwidth, fun f hf => ?_⟩
    obtain ⟨hne, hlast⟩ := hformat f hf
    exact ⟨hne, (Directive.braceFree_contentText_iff hname).mp hfree f hf, hlast⟩
  · rintro ⟨hname, hwidth, hformat⟩
    refine ⟨(Directive.braceFree_contentText_iff hname).mpr fun f hf => (hformat f hf).2.1,
      hname, hwidth, fun f hf => ?_⟩
    obtain ⟨hne, -, hlast⟩ := hformat f hf
    exact ⟨hne, hlast⟩

/-- A format that ends in an alignment is read without it. -/
example : (parse (Directive.make "a" (some "b,5") none).raw).tokens =
    [.property { Directive.make "a" (some "b") (some ⟨.right, 5, by decide⟩) with
      raw := "\x7ba:b,5\x7d" }] := by decide +kernel

end Template

end Logbook
