/-
# The writes of an event

Rendering a message or an event makes the writes of its spans, painted with the theme:
`MessageStyle.render_eq` and `Painter.render_eq`.  Here three ways of filling a field meet
one law, `Padding.align`: a known text (`padded`), content that is measured first
(`aligned`), and no content at all (`void`).

The compiled template holds the theme in every printer.  That no printer lets it reach a
text or a width is what the equations of the printers say, one for each kind
(`print_printer`).
-/
import Logbook.Proofs.Rendering.Notation
import Logbook.Rendering.Event

namespace Logbook

variable {α ε : Type}

/-! ## 1. Painting a field -/

namespace Padding

theorem paint_blanks (t : Theme) (n : Nat) : t.paint (blanks n) = blanks n := by
  unfold blanks
  split
  · rfl
  · rfl

theorem paint_align (t : Theme) (a : Option Alignment) (content : List (Span Role)) :
    t.paint (align a content) = align a (t.paint content) := by
  cases a with
  | none => rfl
  | some a =>
    obtain ⟨side, width, hwidth⟩ := a
    cases side with
    | left => simp only [align, field, Theme.paint_append, paint_blanks, Theme.texts_paint]
    | right => simp only [align, field, Theme.paint_append, paint_blanks, Theme.texts_paint]

end Padding

namespace Rendering

theorem aligned_paint {r : (σ : Type) → Rendering σ ε Unit} {t : Theme}
    {spans : List (Span Role)} (h : ∀ σ, r σ = puts (t.paint spans)) (a : Option Alignment) :
    (aligned a r : Rendering α ε Unit) = puts (t.paint (Padding.align a spans)) := by
  rw [aligned_eq h, Padding.paint_align]

theorem padded_paint (t : Theme) (r : Role) (text : String) (a : Option Alignment) :
    (padded text (t.style r) a : Rendering α ε Unit) =
      puts (t.paint (Padding.align a [.inRole r text])) := by
  rw [padded_eq, Padding.paint_align]
  rfl

theorem void_paint (t : Theme) (a : Option Alignment) :
    (void a : Rendering α ε Unit) = puts (t.paint (Padding.void a)) := by
  rw [void_eq, Padding.void, Padding.void, Padding.paint_blanks]

/-- A count that nobody asks for. -/
theorem discard_eq {r : Rendering α ε Nat} {spans : List (Span Style)} {n : Nat}
    (h : r = (do puts spans; pure n)) : (do let _ ← r) = puts spans := by
  subst h
  change ((puts spans >>= fun _ => pure n) >>= fun _ => pure ()) = _
  rw [bind_assoc]
  simp only [pure_bind]
  exact bind_pure_unit

/-- A loop over painted parts makes the writes of the parts in a row. -/
theorem forM_paint {β : Type} {xs : List β} {f : β → Rendering α ε Unit} {t : Theme}
    {spans : β → List (Span Role)} (h : ∀ x ∈ xs, f x = puts (t.paint (spans x))) :
    xs.forM f = puts (t.paint (xs.flatMap spans)) := by
  rw [forM_puts h, Theme.paint_flatMap]

end Rendering

/-! ## 2. Messages -/

namespace MessageStyle

open Rendering

theorem writeValue_eq (m : MessageStyle) (p : Provider) (t : Theme) (spec : FormatSpec)
    (v : Value) :
    (m.writeValue p t spec v : Rendering α ε Unit) = puts (t.paint (m.valueSpans p spec v)) := by
  unfold writeValue valueSpans
  cases m.literal || (spec.flagsOnly && spec.literal) with
  | false => exact discard_eq (Notation.format_eq _ p t _ true v)
  | true =>
    cases v.string? with
    | none => exact discard_eq (Notation.format_eq _ p t _ true v)
    | some s => exact inRole_eq t .string s

theorem writeToken_eq (m : MessageStyle) (p : Provider) (t : Theme) (ps : Properties)
    (token : Token) :
    (m.writeToken p t ps token : Rendering α ε Unit) =
      puts (t.paint (m.tokenSpans p ps token)) := by
  cases token with
  | text s => exact inRole_eq t .text _
  | property d =>
    simp only [writeToken, tokenSpans, directiveSpans]
    cases ps.get? d.name with
    | none => exact inRole_eq t .invalid _
    | some v => exact aligned_paint (fun σ => m.writeValue_eq p t d.spec v) d.alignment

/-- **A message makes the writes of its spans.** -/
theorem render_eq (m : MessageStyle) (p : Provider) (t : Theme) (template : Template)
    (ps : Properties) :
    (m.render p t template ps : Rendering α ε Unit) =
      puts (t.paint (m.spans p template ps)) :=
  forM_paint fun token _ => m.writeToken_eq p t ps token

end MessageStyle

/-! ## 3. Events -/

theorem Part.eq_of_ofName {n m : String} (h : Part.ofName n = .property m) : m = n := by
  unfold Part.ofName at h
  repeat' split at h
  all_goals simp_all

namespace ExceptionFormatter

open Rendering

theorem write_eq (f : ExceptionFormatter) (t : Theme) (e : Exception) :
    (f.write t e : Rendering α ε Unit) = puts (t.paint (f.spans e)) := by
  cases f with
  | brief => exact inRole_eq t .invalid _
  | full =>
    have hcauses : (e.causes.forM fun cause => do
        inRole t .tertiaryText Exception.arrow
        inRole t .text cause
        plain lineEnd : Rendering α ε Unit) =
          puts (t.paint (e.causes.flatMap fun cause =>
            [.inRole .tertiaryText Exception.arrow, .inRole .text cause, .plain lineEnd])) := by
      refine forM_paint fun cause _ => ?_
      rw [inRole_eq, inRole_eq, plain_eq t, ← puts_append, ← puts_append]
      rfl
    have hlines : ((e.backtrace.elim [] backtraceLines).forM fun l => do
        inRole t .secondaryText l
        plain lineEnd : Rendering α ε Unit) =
          puts (t.paint ((e.backtrace.elim [] backtraceLines).flatMap fun l =>
            [.inRole .secondaryText l, .plain lineEnd])) := by
      refine forM_paint fun l _ => ?_
      rw [inRole_eq, plain_eq t, ← puts_append]
      rfl
    rw [write, hcauses, hlines, inRole_eq, plain_eq t]
    simp only [← puts_append]
    simp [spans]

end ExceptionFormatter

namespace Layout

open Rendering

/-- The names that were collected leave the same properties as the template itself. -/
theorem leftOver_names (l : Layout) (e : Event) :
    Printer.leftOver l.template.names e = .record none (l.remaining e) := by
  rw [Printer.leftOver, remaining, List.filter_filter]
  refine congrArg (Value.record none) (List.filter_congr fun entry _ => ?_)
  exact Bool.and_comm _ _

/-- **The printer of a token makes the writes of its spans.** -/
theorem print_printer (l : Layout) (t : Theme) (e : Event) (token : Token) :
    ((l.printer t token).print e : Rendering α ε Unit) =
      puts (t.paint (l.tokenSpans e token)) := by
  cases token with
  | text s => exact inRole_eq t .text _
  | property d =>
    simp only [printer, tokenSpans, directiveSpans, content]
    cases hpart : Part.ofName d.name with
    | timestamp => exact padded_paint t .secondaryText _ d.alignment
    | level => exact padded_paint t e.level.role _ d.alignment
    | message =>
      exact aligned_paint (fun σ => MessageStyle.render_eq _ l.provider t e.template e.properties)
        d.alignment
    | properties =>
      rw [← leftOver_names]
      exact aligned_paint (fun σ => discard_eq (Notation.format_eq _ l.provider t none true _))
        d.alignment
    | exception =>
      cases hx : e.exception with
      | none =>
        simp only [Printer.print, hx]
        rfl
      | some x =>
        simp only [Printer.print, hx]
        exact l.exceptions.write_eq t x
    | newLine => exact aligned_paint (fun σ => plain_eq t lineEnd) d.alignment
    | property name =>
      obtain rfl : name = d.name := Part.eq_of_ofName hpart
      cases hv : e.properties.get? d.name with
      | none =>
        simp only [Printer.print, hv]
        exact void_paint t d.alignment
      | some v =>
        simp only [Printer.print, hv, Display.written_eq]
        exact padded_paint t .secondaryText _ d.alignment

end Layout

namespace Painter

/-- **An event makes the writes of its spans.**  So the sink sees the list of spans that the
layout gives to the event, and the theme only in their styles. -/
theorem render_eq (p : Painter) (e : Event) :
    (p.render e : Rendering α ε Unit) = Rendering.puts (p.spans e) := by
  rw [render, printers, spans, Layout.spans, Theme.paint_flatMap]
  rw [← Rendering.forM_puts fun token _ => p.layout.print_printer p.theme e token]
  exact List.forM_map

end Painter

end Logbook
