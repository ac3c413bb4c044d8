/-
# Flags are no format

The letters `l` and `j` are flags of a directive: strings without quotes, and the JSON notation.
They stand where the format of a value stands, and for a provider they could well be one: in a
timestamp pattern they are letters to be copied.  So a format of nothing but flags must never
reach a provider, and it passes three places on its way: the writer of a scalar, a directive of a
message, and a directive of a layout.

Each of them asks for the format of values (`valueFormat`), which is none for flags alone
(`valueFormat_of_flags`).  What the letters still do is to choose a notation in a message, and to
leave out the quotes of a string.  For a value that is no string, a format of flags writes what no
format writes, with any provider (`flags_are_no_format`).
-/
import Logbook.Proofs.Rendering.Strings

namespace Logbook

/-! ## 1. Formats of flags -/

theorem isFlagsOnly_iff {f : String} :
    isFlagsOnly f = true ↔ f ≠ "" ∧ ∀ c ∈ f.toList, c = 'l' ∨ c = 'j' := by
  simp [isFlagsOnly]

theorem valueFormat_of_flags {f : String} (h : isFlagsOnly f = true) :
    valueFormat (some f) = none := by
  simp [valueFormat, h]

/-- Neither letter asks for a casing. -/
theorem Casing.ofFormat_of_flags {f : String} (h : isFlagsOnly f = true) :
    Casing.ofFormat (some f) = .unchanged := by
  unfold Casing.ofFormat
  split
  · rename_i hf
    obtain rfl := Option.some.inj hf
    exact absurd h (by decide)
  · rename_i hf
    obtain rfl := Option.some.inj hf
    exact absurd h (by decide)
  · rfl

/-! ## 2. Values -/

/-- Only a string looks at the format itself. -/
theorem Display.scalarText_of_flags (p : Provider) {f : String} (h : isFlagsOnly f = true)
    {s : Scalar} (hs : s.string? = none) : scalarText p (some f) s = scalarText p none s := by
  have hformat : valueFormat (some f) = valueFormat none := valueFormat_of_flags h
  cases s with
  | string s => exact absurd hs (by simp [Scalar.string?])
  | char c => rfl
  | _ => simp only [scalarText, hformat]

/-- **At the top, flags write what no format writes**, in either notation. -/
theorem Notation.spans_of_flags (kind : Notation) (p : Provider) {f : String}
    (h : isFlagsOnly f = true) {v : Value} (hv : v.string? = none) :
    kind.spans p (some f) true v = kind.spans p none true v := by
  cases v with
  | scalar s =>
    have hs : s.string? = none := by
      cases s with
      | string s => exact absurd hv (by simp [Value.string?])
      | _ => rfl
    rw [spans_scalar, spans_scalar, Display.scalarSpan, Display.scalarSpan,
      Display.scalarText_of_flags p h hs]
  | _ => cases kind <;> rfl

/-! ## 3. Directives -/

/-- Two directives for one property in one field, the first with a format and the second without
one. -/
structure Directive.Formats (d bare : Directive) (f : String) : Prop where
  name_eq : d.name = bare.name
  alignment_eq : d.alignment = bare.alignment
  format_eq : d.spec = ⟨some f⟩
  bare_format_eq : bare.spec = ⟨none⟩

namespace MessageStyle

/-- What is no string is written in a notation. -/
theorem valueSpans_of_string?_eq_none (m : MessageStyle) (p : Provider) (spec : FormatSpec)
    {v : Value} (hv : v.string? = none) :
    m.valueSpans p spec v =
      (Notation.ofFlag (m.json || (spec.flagsOnly && spec.json))).spans p spec.valueFormat
        true v := by
  unfold valueSpans
  rw [hv]
  cases m.literal || (spec.flagsOnly && spec.literal) <;> rfl

/-- The message with the JSON notation also where a format has the flag for it. -/
def flagged (m : MessageStyle) (f : String) : MessageStyle :=
  { m with json := m.json || f.toList.contains 'j' }

theorem valueSpans_of_flags (m : MessageStyle) (p : Provider) {f : String}
    (h : isFlagsOnly f = true) {v : Value} (hv : v.string? = none) :
    m.valueSpans p ⟨some f⟩ v = (m.flagged f).valueSpans p ⟨none⟩ v := by
  have hformat : FormatSpec.valueFormat ⟨some f⟩ = none := valueFormat_of_flags h
  have hflags : FormatSpec.flagsOnly ⟨some f⟩ = true := h
  rw [valueSpans_of_string?_eq_none m p _ hv, valueSpans_of_string?_eq_none _ p _ hv, hformat,
    hflags]
  simp [flagged, FormatSpec.json, FormatSpec.flagsOnly, FormatSpec.valueFormat, valueFormat]

theorem directiveSpans_of_flags (m : MessageStyle) (p : Provider) {ps : Properties}
    {d bare : Directive} {f : String} (hd : d.Formats bare f) (h : isFlagsOnly f = true)
    {v : Value} (hv : v.string? = none) (hps : ps.get? d.name = some v) :
    m.directiveSpans p ps d = (m.flagged f).directiveSpans p ps bare := by
  have hbare : ps.get? bare.name = some v := hd.name_eq ▸ hps
  have hspans : m.valueSpans p d.spec v = (m.flagged f).valueSpans p bare.spec v := by
    rw [hd.format_eq, hd.bare_format_eq, valueSpans_of_flags m p h hv]
  simp only [directiveSpans, hps, hbare, hd.alignment_eq, hspans]

end MessageStyle

namespace Layout

theorem propertyText_of_flags (l : Layout) {f : String} (h : isFlagsOnly f = true) (v : Value) :
    l.propertyText ⟨some f⟩ v = l.propertyText ⟨none⟩ v := by
  have hformat : FormatSpec.valueFormat ⟨some f⟩ = FormatSpec.valueFormat ⟨none⟩ :=
    valueFormat_of_flags h
  have hcasing : FormatSpec.casing ⟨some f⟩ = FormatSpec.casing ⟨none⟩ :=
    Casing.ofFormat_of_flags h
  rw [propertyText, propertyText, hformat, hcasing]

theorem directiveSpans_of_flags (l : Layout) (e : Event) {d bare : Directive} {f : String}
    (hd : d.Formats bare f) (h : isFlagsOnly f = true)
    (hpart : Part.ofName d.name = .property d.name) :
    l.directiveSpans e d = l.directiveSpans e bare := by
  have hcontent : l.content e d = l.content e bare := by
    simp only [content, ← hd.name_eq, hpart, hd.format_eq, hd.bare_format_eq,
      propertyText_of_flags l h]
  rw [directiveSpans, directiveSpans, hcontent, hd.name_eq, hd.alignment_eq]

end Layout

/-! ## 4. What is written -/

/-- **Flags are never the format of a value.**  Let a value be no string, and a format be made of
the letters `l` and `j` alone.  Then with any provider and theme, on any sink:

* the value is written at the top, in either notation, as without a format;
* a directive of a message whose property is the value writes what the directive without the
  format writes in the notation that the message or the flag `j` asks for;
* a directive of a layout that shows a property writes what it writes without the format. -/
theorem flags_are_no_format (p : Provider) (t : Theme) (v : Value) (hv : v.string? = none)
    (f : String) (hne : f ≠ "") (hf : ∀ c ∈ f.toList, c = 'l' ∨ c = 'j') (α ε : Type) :
    (∀ kind : Notation,
      (kind.format p t (some f) true v : Rendering α ε Nat) = kind.format p t none true v) ∧
    (∀ (m : MessageStyle) (ps : Properties) (d bare : Directive), d.Formats bare f →
      ps.get? d.name = some v →
      (m.writeToken p t ps (.property d) : Rendering α ε Unit) =
        (m.flagged f).writeToken p t ps (.property bare)) ∧
    (∀ (l : Layout) (e : Event) (d bare : Directive), d.Formats bare f →
      Part.ofName d.name = .property d.name →
      ((l.printer t (.property d)).print e : Rendering α ε Unit) =
        (l.printer t (.property bare)).print e) := by
  have hflags : isFlagsOnly f = true := isFlagsOnly_iff.mpr ⟨hne, hf⟩
  refine ⟨fun kind => ?_, fun m ps d bare hd hps => ?_, fun l e d bare hd hpart => ?_⟩
  · rw [Notation.format_eq, Notation.format_eq, kind.spans_of_flags p hflags hv]
  · rw [MessageStyle.writeToken_eq, MessageStyle.writeToken_eq, MessageStyle.tokenSpans,
      MessageStyle.tokenSpans, m.directiveSpans_of_flags p hd hflags hv hps]
  · rw [Layout.print_printer, Layout.print_printer, Layout.tokenSpans, Layout.tokenSpans,
      l.directiveSpans_of_flags e hd hflags hpart]

/-- A point in time under both flags and in a field, as the directive is written. -/
theorem flags_are_no_format_instant :
    let v : Value := .scalar (.instant ⟨1709647629, 123000000, 7200⟩)
    let ps : Properties := .ofList [("When", v)]
    let e : Event := ⟨.information, ⟨0, 0, 0⟩, .parse "", ps, none⟩
    let l : Layout := ⟨.parse "", .worded, .full⟩
    let m : MessageStyle := ⟨false, false⟩
    let d : Directive := .make "When" (some "jl") (some ⟨.right, 40, by decide⟩)
    let bare : Directive := .make "When" none (some ⟨.right, 40, by decide⟩)
    (Template.parse "\x7bWhen,40:jl\x7d").tokens = [.property d] ∧
    (Template.parse "\x7bWhen,40\x7d").tokens = [.property bare] ∧
    v.string? = none ∧ "jl" ≠ "" ∧ (∀ c ∈ "jl".toList, c = 'l' ∨ c = 'j') ∧
    d.Formats bare "jl" ∧ ps.get? d.name = some v ∧ Part.ofName d.name = .property d.name ∧
    (Notation.json.format .worded .empty (some "jl") true v : Rendering Capture Empty Nat) =
      Notation.json.format .worded .empty none true v ∧
    (m.writeToken .worded .empty ps (.property d) : Rendering Capture Empty Unit) =
      (m.flagged "jl").writeToken .worded .empty ps (.property bare) ∧
    ((l.printer .empty (.property d)).print e : Rendering Capture Empty Unit) =
      (l.printer .empty (.property bare)).print e := by
  intro v ps e l m d bare
  have hd : d.Formats bare "jl" := ⟨rfl, rfl, rfl, rfl⟩
  have hps : ps.get? d.name = some v := rfl
  have hpart : Part.ofName d.name = .property d.name := by decide
  have hf : ∀ c ∈ "jl".toList, c = 'l' ∨ c = 'j' := by simp
  have hne : "jl" ≠ "" := by simp
  obtain ⟨htop, hmessage, hlayout⟩ :=
    flags_are_no_format .worded .empty v rfl "jl" hne hf Capture Empty
  exact ⟨by decide +kernel, by decide +kernel, rfl, hne, hf, hd, hps, hpart, htop .json,
    hmessage m ps d bare hd hps, hlayout l e d bare hd hpart⟩

end Logbook
