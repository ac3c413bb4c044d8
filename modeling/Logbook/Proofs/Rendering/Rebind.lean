/-
# What a theme can change

The same event is rendered twice, under two themes, and both renderings are recorded.  The
records differ in nothing but the styles of their styled spans (`render_rebind`): there are
as many spans, with the same texts in the same order, and the same ones have a style.  Each
styled span has a role, and either record has the style that its own theme gives to it.

The reason is that both are paintings of one list of spans in roles, the one that the layout
gives to the event.  Widths are measured on texts, so alignment cannot tell themes apart
either.
-/
import Logbook.Proofs.Rendering.Layout

namespace Logbook

/-! ## 1. Paintings of one list -/

namespace Theme

theorem length_paint (t : Theme) (spans : List (Span Role)) :
    (t.paint spans).length = spans.length := List.length_map _

theorem map_text_paint (t : Theme) (spans : List (Span Role)) :
    (t.paint spans).map Span.text = spans.map Span.text := by
  rw [paint, List.map_map]
  rfl

theorem map_isSome_paint (t : Theme) (spans : List (Span Role)) :
    (t.paint spans).map (fun s => s.style.isSome) = spans.map fun s => s.style.isSome := by
  rw [paint, List.map_map]
  refine List.map_congr_left fun s _ => ?_
  exact Option.isSome_map

theorem map_style_paint (t : Theme) (spans : List (Span Role)) :
    (t.paint spans).map Span.style = (spans.map Span.style).map (Option.map t.style) := by
  rw [paint, List.map_map, List.map_map]
  rfl

end Theme

/-! ## 2. Two recordings -/

namespace Painter

/-- What a capture records of an event. -/
theorem run_capture {ε : Type} (p : Painter) (e : Event) (b : Bool) (c : Capture) :
    (p.render e).run (Capture.sink b : Sink Capture ε) c = (.ok (), c ++ p.spans e) := by
  rw [render_eq, Rendering.run_puts_capture]

/-- **A theme changes styles only.**  An event that is rendered into a capture, whatever it
holds already, is recorded with as many spans, the same texts in the same order, and a style
on the same spans after the layout is bound to another theme.  The other theme is then the one in
force: where the first record has its styles of some roles, the second has the other's. -/
theorem render_rebind {ε : Type} (p : Painter) (other : Theme) (e : Event) (b : Bool)
    (c : Capture) :
    (p.rebind other).theme = other ∧
    ∃ first second : Capture,
      (p.render e).run (Capture.sink b : Sink Capture ε) c = (.ok (), c ++ first) ∧
      ((p.rebind other).render e).run (Capture.sink b : Sink Capture ε) c
        = (.ok (), c ++ second) ∧
      first.length = second.length ∧
      first.map Span.text = second.map Span.text ∧
      first.map (fun s => s.style.isSome) = (second.map fun s => s.style.isSome) ∧
      ∃ roles : List (Option Role),
        first.map Span.style = roles.map (Option.map p.theme.style) ∧
        second.map Span.style = roles.map (Option.map other.style) := by
  refine ⟨rfl, p.spans e, (p.rebind other).spans e, run_capture p e b c,
    run_capture (p.rebind other) e b c, ?_, ?_, ?_, (p.layout.spans e).map Span.style, ?_, ?_⟩
  · rw [spans, spans, Theme.length_paint, Theme.length_paint]
    rfl
  · rw [spans, spans, Theme.map_text_paint, Theme.map_text_paint]
    rfl
  · rw [spans, spans, Theme.map_isSome_paint, Theme.map_isSome_paint]
    rfl
  · rw [spans, Theme.map_style_paint]
  · rw [spans, Theme.map_style_paint]
    rfl

end Painter

end Logbook
