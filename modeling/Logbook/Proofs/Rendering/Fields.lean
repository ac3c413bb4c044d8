/-
# What alignment adds

A directive is written with an alignment and without one.  The two differ by one plain write
of blanks, as many as the text lacks, on the side that the alignment leaves free
(`writes_in_field`).  So the field is as wide as it was asked to be, or as its content if that
is wider, and the content stands in it as it is.

The law of the width holds for every measure of texts that counts blanks (`width_field`).  How many
columns a character takes does not matter to it.

Three routines fill fields: a known text, content that is measured first, and nothing at
all.  The equations of the printers already bring the first two to `Padding.align`; here the
third one joins them, since nothing is content without columns (`void_eq_align`).
-/
import Logbook.Proofs.Rendering.Layout
import Logbook.Proofs.Text.Columns

namespace Logbook

/-! ## 1. Fields -/

theorem Span.texts_append {σ : Type} (xs ys : List (Span σ)) :
    texts (xs ++ ys) = texts xs ++ texts ys := by
  simp [texts]

namespace Padding

variable {σ : Type}

theorem texts_blanks (n : Nat) :
    Span.texts (blanks n : List (Span σ)) = String.ofList (List.replicate n ' ') := by
  unfold blanks
  split
  · rename_i hn
    rw [hn]
    rfl
  · simp [Span.texts, Span.plain]

/-- **A field is as wide as it was asked to be, unless its content is wider**, by any measure that
counts blanks. -/
theorem width_field {width : String → Nat} (h : Text.CountsBlanks width) (a : Alignment)
    (content : List (Span σ)) :
    width (Span.texts (field width a content)) = max a.width (width (Span.texts content)) := by
  have hmissing : width (Span.texts content) + (a.width - width (Span.texts content)) =
      max a.width (width (Span.texts content)) := by
    omega
  obtain ⟨side, columns, hlt⟩ := a
  cases side with
  | left => simp only [field, Span.texts_append, texts_blanks, h.append_blanks, hmissing]
  | right => simp only [field, Span.texts_append, texts_blanks, h.blanks_append, hmissing]

/-- Nothing is content without columns. -/
theorem void_eq_align (a : Option Alignment) : (void a : List (Span σ)) = align a [] := by
  cases a with
  | none => rfl
  | some a =>
    have hmissing : a.width - Text.columns (Span.texts ([] : List (Span σ))) = a.width :=
      Nat.sub_zero _
    obtain ⟨side, width, hlt⟩ := a
    cases side with
    | left => simp only [align, field, void, hmissing, List.nil_append, Option.elim_some]
    | right => simp only [align, field, void, hmissing, List.append_nil, Option.elim_some]

end Padding

/-! ## 2. Directives with and without an alignment -/

/-- The same writes in the same order, whatever the sink is. -/
def Rendering.Makes (r : ∀ α ε : Type, Rendering α ε Unit) (writes : List (Span Style)) : Prop :=
  ∀ α ε, r α ε = Rendering.puts writes

/-- One rendering makes some writes, and the other one makes them in the field of an
alignment, which is as wide as it was asked to be or as its content. -/
def Rendering.Fills (width : String → Nat) (a : Alignment)
    (bare aligned : ∀ α ε : Type, Rendering α ε Unit) : Prop :=
  ∃ writes : List (Span Style),
    Makes bare writes ∧ Makes aligned (Padding.field width a writes) ∧
    width (Span.texts (Padding.field width a writes)) = max a.width (width (Span.texts writes))

theorem Rendering.fills_of_makes {a : Alignment} {t : Theme} {spans : List (Span Role)}
    {bare aligned : ∀ α ε : Type, Rendering α ε Unit} (hbare : Makes bare (t.paint spans))
    (haligned : Makes aligned (t.paint (Padding.align (some a) spans))) :
    Fills Text.columns a bare aligned := by
  rw [Padding.paint_align] at haligned
  exact ⟨t.paint spans, hbare, haligned, Padding.width_field Text.countsBlanks_columns a _⟩

namespace Layout

/-- What a directive shows does not depend on its alignment, exceptions apart. -/
theorem directiveSpans_align (l : Layout) (e : Event) {d : Directive}
    (hd : Part.ofName d.name ≠ .exception) (a : Option Alignment) :
    l.directiveSpans e { d with alignment := a } =
      Padding.align a ((l.content e d).getD []) := by
  have hcontent : l.content e { d with alignment := a } = l.content e d := rfl
  unfold directiveSpans
  simp only [hcontent, hd, if_false]
  cases l.content e d with
  | none => exact Padding.void_eq_align a
  | some content => rfl

end Layout

namespace Painter

open Rendering

/-- A directive of the layout, under some alignment. -/
def writeDirective {α ε : Type} (p : Painter) (e : Event) (d : Directive)
    (a : Option Alignment) : Rendering α ε Unit :=
  (p.layout.printer p.theme (.property { d with alignment := a })).print e

/-- A directive of a message, under some alignment. -/
def writeMessageDirective {α ε : Type} (p : Painter) (m : MessageStyle) (ps : Properties)
    (d : Directive) (a : Option Alignment) : Rendering α ε Unit :=
  m.writeToken p.layout.provider p.theme ps (.property { d with alignment := a })

theorem writeDirective_makes (p : Painter) (e : Event) {d : Directive}
    (hd : Part.ofName d.name ≠ .exception) (a : Option Alignment) :
    Makes (fun _ _ => p.writeDirective e d a)
      (p.theme.paint (Padding.align a ((p.layout.content e d).getD []))) := by
  intro α ε
  have hprint := Layout.print_printer (α := α) (ε := ε) p.layout p.theme e
    (.property { d with alignment := a })
  rwa [Layout.tokenSpans, Layout.directiveSpans_align _ e hd] at hprint

theorem writeMessageDirective_makes (p : Painter) (m : MessageStyle) {ps : Properties}
    {d : Directive} {v : Value} (hv : ps.get? d.name = some v) (a : Option Alignment) :
    Makes (fun _ _ => p.writeMessageDirective m ps d a)
      (p.theme.paint (Padding.align a (m.valueSpans p.layout.provider d.spec v))) := by
  intro α ε
  have hwrite := MessageStyle.writeToken_eq (α := α) (ε := ε) m p.layout.provider p.theme ps
    (.property { d with alignment := a })
  rwa [MessageStyle.tokenSpans, MessageStyle.directiveSpans, hv] at hwrite

/-- **Alignment only adds blanks.**  A directive of a layout, the one for exceptions apart,
fills the field of its alignment with the writes that it makes without one, and so does a
directive of a message whose property is there. -/
theorem writes_in_field (p : Painter) (a : Alignment) (d : Directive) :
    (∀ e : Event, Part.ofName d.name ≠ .exception →
      Fills Text.columns a (fun _ _ => p.writeDirective e d none)
        (fun _ _ => p.writeDirective e d (some a))) ∧
    (∀ (m : MessageStyle) (ps : Properties), ps.contains d.name →
      Fills Text.columns a (fun _ _ => p.writeMessageDirective m ps d none)
        (fun _ _ => p.writeMessageDirective m ps d (some a))) := by
  constructor
  · intro e hd
    exact fills_of_makes (p.writeDirective_makes e hd none) (p.writeDirective_makes e hd (some a))
  · intro m ps hps
    obtain ⟨v, hv⟩ : ∃ v, ps.get? d.name = some v := Option.isSome_iff_exists.mp hps
    exact fills_of_makes (p.writeMessageDirective_makes m hv none)
      (p.writeMessageDirective_makes m hv (some a))

/-- A message in a field of its own, with a property in a field that stands in it.  The property
fills its field, and the message lacks a blank. -/
theorem writes_in_field_nested :
    let p : Painter := ⟨⟨.parse "\x7bMessage,-8\x7d", .invariant, .full⟩, .empty⟩
    let e : Event :=
      ⟨.information, ⟨0, 0, 0⟩, .parse "at \x7bPlace,4\x7d",
        .ofList [("Place", .ofString "日")], none⟩
    let outer : Alignment := ⟨.left, 8, by decide⟩
    let inner : Alignment := ⟨.right, 4, by decide⟩
    let message : Directive := .make "Message" none none
    let place : Directive := .make "Place" none none
    Part.ofName message.name ≠ .exception ∧ e.properties.contains place.name ∧
    Fills Text.columns outer (fun _ _ => p.writeDirective e message none)
      (fun _ _ => p.writeDirective e message (some outer)) ∧
    Fills Text.columns inner
      (fun _ _ => p.writeMessageDirective ⟨false, false⟩ e.properties place none)
      (fun _ _ => p.writeMessageDirective ⟨false, false⟩ e.properties place (some inner)) ∧
    Span.texts (p.writeDirective e message (some outer)).captured = "at \"日\" " ∧
    Text.columns "at \"日\" " = 8 := by
  intro p e outer inner message place
  have hmessage : Part.ofName message.name ≠ .exception := by decide
  have hplace : e.properties.contains place.name := by decide +kernel
  exact ⟨hmessage, hplace, (writes_in_field p outer message).1 e hmessage,
    (writes_in_field p inner place).2 ⟨false, false⟩ e.properties hplace, by decide +kernel,
    by decide +kernel⟩

end Painter

end Logbook
