/-
# Sinks agree

An event is rendered into a capture, into a measure, and into a terminal with and without
colours.  All of them receive the same writes, and what each makes of them is a function of the
spans that the capture holds (`sinks_agree`): the measure and the terminal without colours have
their texts in a row, and the terminal with colours has the escapes of each style around its
text.

What is sent with colours can be undone.  Without its sequences it is the text, and a terminal
shows every character in the style of its span and is left in the plain style, as long as no
text holds an escape of its own (`Terminal.display_encodeAll`).
-/
import Logbook.Proofs.Console.Routing
import Logbook.Proofs.Terminal.Rendition

namespace Logbook

/-! ## 1. Bytes -/

theorem toList_loop_eq (bytes : ByteArray) (i : Nat) (front : List UInt8) :
    ByteArray.toList.loop bytes i front = front.reverse ++ bytes.data.toList.drop i := by
  induction i, front using ByteArray.toList.loop.induct bytes with
  | case1 i front hlt ih =>
    have hlength : i < bytes.data.toList.length := by simpa using hlt
    have hget : bytes.get! i = bytes.data.toList[i] := getElem!_pos bytes.data i hlt
    rw [ByteArray.toList.loop, if_pos hlt, ih, List.drop_eq_getElem_cons hlength, hget]
    simp
  | case2 i front hle =>
    have hlength : bytes.data.toList.length ≤ i := by simpa using hle
    rw [ByteArray.toList.loop, if_neg hle, List.drop_eq_nil_of_le hlength, List.append_nil]

theorem utf8_append (s t : String) : utf8 (s ++ t) = utf8 s ++ utf8 t := by
  have hdata : ∀ s : String, utf8 s = s.toByteArray.data.toList := by
    intro s
    exact toList_loop_eq s.toByteArray 0 []
  rw [hdata, hdata, hdata, String.toByteArray_append, ByteArray.toList_data_append]

theorem utf8_join (texts : List String) : utf8 (String.join texts) = texts.flatMap utf8 := by
  induction texts with
  | nil => exact toList_loop_eq "".toByteArray 0 []
  | cons text texts ih => rw [String.join_cons, utf8_append, ih, List.flatMap_cons]

/-! ## 2. Spans with and without colours -/

/-- A span as it is sent with colours: a text that is not empty stands between the escapes of its
style and a reset, unless the style is plain. -/
def Span.coloured (s : Span Style) : String :=
  match s.style with
  | none => s.text
  | some style =>
    if style ≠ .plain ∧ s.text ≠ "" then style.escapes ++ s.text ++ Style.reset else s.text

namespace Ansi

theorem encode_true (s : Span Style) : encode true s = s.coloured := by
  obtain ⟨style, text⟩ := s
  cases style with
  | none => rfl
  | some style =>
    by_cases hempty : text = ""
    · simp [encode, Span.coloured, hempty]
    · by_cases hplain : style = .plain
      · simp [encode, Span.coloured, hempty, hplain, Style.wrap_plain]
      · have hcodes : style.codes ≠ [] := mt Terminal.codes_eq_nil_iff.mp hplain
        simp [encode, Span.coloured, hempty, hplain, Style.wrap, hcodes]

theorem encode_false (s : Span Style) : encode false s = s.text := by
  obtain ⟨style, text⟩ := s
  cases style with
  | none => rfl
  | some style => by_cases hempty : text = "" <;> simp [encode, hempty]

/-- What is sent for spans, with colours or without. -/
theorem encodeAll_eq (colors : Bool) (spans : List (Span Style)) :
    encodeAll colors spans =
      if colors then String.join (spans.map Span.coloured) else Span.texts spans := by
  cases colors with
  | true => exact congrArg String.join (List.map_congr_left fun s _ => encode_true s)
  | false => exact congrArg String.join (List.map_congr_left fun s _ => encode_false s)

end Ansi

/-! ## 3. Terminals of any kind -/

theorem Buffer.send_encodeAll {ε : Type} (colors : Bool) (spans : List (Span Style)) (b : Buffer) :
    (Buffer.sink colors : Sink Buffer ε).send spans b =
      (b ++ utf8 (Ansi.encodeAll colors spans), none) := by
  rw [Buffer.send_sink, Ansi.encodeAll, utf8_join, List.flatMap_map]

namespace Receiver

variable {ω ε : Type} [Receiver ω ε]

/-- A receiver that does not fail is sent what a buffer would hold. -/
theorem send_of_reliable {w : ω} (h : Reliable w) (colors buffering : Bool)
    (spans : List (Span Style)) :
    ∃ w', (sink colors buffering : Sink ω ε).send spans w = (w', none) ∧
      received w' = received w ++ utf8 (Ansi.encodeAll colors spans) := by
  have htakes := takes_sink colors buffering spans w
  obtain ⟨delivered, -, hreceived, hall⟩ := htakes.delivered
  obtain ⟨hnone, -⟩ := htakes.reliable h
  -- The flush at the end succeeds, so no write before it failed.
  rcases hsend : (sink colors buffering : Sink ω ε).send spans w with ⟨w', _ | error⟩
  · rw [hsend, finish] at hreceived hall hnone
    refine ⟨w', rfl, ?_⟩
    rw [received_flush, hall hnone, flatten_heard] at hreceived
    rw [hreceived, Ansi.encodeAll, utf8_join, List.flatMap_map]
    rfl
  · rw [hsend] at hnone
    cases hnone

end Receiver

/-! ## 4. One event in every sink -/

namespace Painter

open Receiver

variable {ω ε : Type} [Receiver ω ε]

/-- **Every sink is sent the same spans.**  With the spans that a capture records of an event, a
rendering to a text and a terminal without colours give their texts in a row, and a terminal with
colours gives each text between the escapes of its style and a reset.  If no text holds an escape,
what was sent with colours is the text again once its sequences are deleted, and a terminal shows
every character in the style of its span, is left in the plain style, and shows what is sent next
as if nothing had been sent before. -/
theorem sinks_agree (p : Painter) (e : Event) :
    let spans : List (Span Style) := (p.render e).captured
    let sent : Bool → String := fun colors =>
      if colors then String.join (spans.map Span.coloured) else Span.texts spans
    p.written e = Span.texts spans ∧
    (∀ (colors : Bool) (b : Buffer),
      (p.render e).run (Buffer.sink colors : Sink Buffer ε) b =
        (.ok (), b ++ utf8 (sent colors))) ∧
    (∀ (colors buffering : Bool) (w : ω), Reliable w → ∃ w',
      (p.render e).run (Receiver.sink colors buffering) w = (.ok (), w') ∧
        received w' = received w ++ utf8 (sent colors)) ∧
    ((∀ s ∈ spans, '\x1b' ∉ s.text.toList) →
      Terminal.strip (sent true).toList = (Span.texts spans).toList ∧
      Terminal.display .plain (sent true).toList = (spans.flatMap Terminal.cells, .plain) ∧
      ∀ next, Terminal.display .plain ((sent true).toList ++ next) =
        (spans.flatMap Terminal.cells ++ (Terminal.display .plain next).1,
          (Terminal.display .plain next).2)) := by
  intro spans sent
  have hspans : spans = p.spans e := captured_render p e
  have hsent : ∀ colors, sent colors = Ansi.encodeAll colors (p.spans e) := by
    intro colors
    rw [Ansi.encodeAll_eq, ← hspans]
  refine ⟨?_, fun colors b => ?_, fun colors buffering w hw => ?_, fun hescape => ?_⟩
  · rw [written, render_eq, Rendering.collected_puts, hspans]
  · rw [run_render, Buffer.send_encodeAll, hsent]
  · obtain ⟨w', hsend, hreceived⟩ := send_of_reliable hw colors buffering (p.spans e)
    refine ⟨w', ?_, ?_⟩
    · rw [run_render, hsend]
    · rw [hreceived, hsent]
  · rw [hspans] at hescape ⊢
    rw [hsent]
    refine ⟨?_, Terminal.display_encodeAll_end hescape, Terminal.display_encodeAll hescape⟩
    rw [Terminal.strip_encodeAll hescape, Span.toList_texts]

/-- A level in a mix on a colour of the palette, bold and blinking fast, an empty text in a style, for
which nothing is sent, and a line break. -/
theorem sinks_agree_fatal :
    let style : Style := ⟨some (.rgb 255 107 53), some (.index 9), { bold := true, fastBlink := true }⟩
    let theme : Theme := (Theme.empty.add .levelFatal style).add .string style
    let template := "\x7bLevel:u3\x7d\x7bMessage\x7d\x7bNewLine\x7d"
    let p : Painter := ⟨⟨.parse template, .invariant, .full⟩, theme⟩
    let properties := Properties.empty.insert "P" (.ofString "")
    let e : Event := ⟨.fatal, ⟨0, 0, 0⟩, .parse "\x7bP:l\x7d", properties, none⟩
    Reliable Writer.unlimited ∧
    (∀ s ∈ (p.render e).captured, '\x1b' ∉ s.text.toList) ∧
    (∃ w : Writer, (p.render e).run (Writer.sink true false) .unlimited = (.ok (), w) ∧
      w.received = utf8 "\x1b[38;2;255;107;53m\x1b[48;5;9m\x1b[1m\x1b[6mFTL\x1b[0m\n") ∧
    Terminal.display .plain "\x1b[38;2;255;107;53m\x1b[48;5;9m\x1b[1m\x1b[6mFTL\x1b[0m\n".toList =
      ([('F', style), ('T', style), ('L', style), ('\n', .plain)], .plain) := by
  intro style theme template p properties e
  have hreliable : Reliable Writer.unlimited := Writer.reliable_of_limit rfl
  have hescape : ∀ s ∈ (p.render e).captured, '\x1b' ∉ s.text.toList := by decide +kernel
  obtain ⟨-, -, hreceiver, hterminal⟩ := sinks_agree (ω := Writer) p e
  obtain ⟨w, hrun, hreceived⟩ := hreceiver true false .unlimited hreliable
  obtain ⟨-, hdisplay, -⟩ := hterminal hescape
  have hcells : (p.render e).captured.flatMap Terminal.cells =
      [('F', style), ('T', style), ('L', style), ('\n', .plain)] := by decide +kernel
  rw [hcells] at hdisplay
  refine ⟨hreliable, hescape, ⟨w, hrun, hreceived.trans (by decide +kernel)⟩, ?_⟩
  exact (congrArg (Terminal.display .plain) (by decide +kernel)).trans hdisplay

end Painter

end Logbook
