/-
# What a receiver is delivered

An event reaches a receiver in one piece or span by span.  Either way the bytes that arrive
are the front of its rendering, and they are all of it unless an error is returned, which is
the receiver's own.

The two ways differ in the pieces that the receiver is sent, and in nothing else.
`Receiver.Takes` accounts for every operation that it is asked: piece after piece, and a flush
at the end, up to the first one that fails.  That an event is emitted in this way is
`Target.takes_emit`; what arrives then follows by induction on the pieces
(`Takes.delivered`).
-/
import Logbook.Console
import Logbook.Proofs.Rendering.Failure

namespace Logbook

variable {ω ε : Type} [Receiver ω ε]

/-! ## 1. Pieces -/

namespace Receiver

/-- A receiver is sent pieces in order and flushed behind the last one.  The first operation
that fails ends this with its error. -/
inductive Takes : ω → List (List UInt8) → ω × Option ε → Prop
  | flush (w : ω) : Takes w [] (Receiver.flush w)
  | refuse {w w' : ω} {piece : List UInt8} {error : ε} (h : write w piece = (w', some error))
    (pieces : List (List UInt8)) : Takes w (piece :: pieces) (w', some error)
  | take {w w' : ω} {piece : List UInt8} {pieces : List (List UInt8)} {r : ω × Option ε}
    (h : write w piece = (w', none)) (rest : Takes w' pieces r) : Takes w (piece :: pieces) r

/-- **What arrives is the front of the pieces**, and all of them unless an operation fails. -/
theorem Takes.delivered {w : ω} {pieces : List (List UInt8)} {r : ω × Option ε}
    (h : Takes w pieces r) :
    ∃ delivered, delivered <+: pieces.flatten ∧ received r.1 = received w ++ delivered ∧
      (r.2 = none → delivered = pieces.flatten) := by
  induction h with
  | flush w =>
    refine ⟨[], List.nil_prefix, ?_, fun _ => rfl⟩
    rw [received_flush, List.append_nil]
  | @refuse w w' piece error h pieces =>
    obtain ⟨n, htaken, -⟩ := received_write w piece
    rw [h] at htaken
    refine ⟨piece.take n, ?_, htaken, fun hnone => ?_⟩
    · exact (List.take_prefix n piece).trans (List.prefix_append piece _)
    · cases hnone
  | @take w w' piece pieces r h rest ih =>
    obtain ⟨n, htaken, hall⟩ := received_write w piece
    rw [h] at htaken hall
    obtain ⟨delivered, hprefix, hrest, hfull⟩ := ih
    have hpiece : piece.take n = piece := List.take_of_length_le (hall rfl)
    refine ⟨piece ++ delivered, ?_, ?_, fun hnone => ?_⟩
    · exact (List.prefix_append_right_inj piece).mpr hprefix
    · rw [hrest, htaken, hpiece, List.append_assoc]
    · rw [hfull hnone, List.flatten_cons]

/-- The pieces that a receiver hears of. -/
def heard (pieces : List (List UInt8)) : List (List UInt8) := pieces.filter (· ≠ [])

theorem heard_cons_nil (pieces : List (List UInt8)) : heard ([] :: pieces) = heard pieces := rfl

theorem heard_cons {piece : List UInt8} (h : piece ≠ []) (pieces : List (List UInt8)) :
    heard (piece :: pieces) = piece :: heard pieces := by
  simp [heard, h]

theorem flatten_heard (pieces : List (List UInt8)) : (heard pieces).flatten = pieces.flatten := by
  induction pieces with
  | nil => rfl
  | cons piece pieces ih =>
    by_cases h : piece = []
    · rw [h, heard_cons_nil, ih]
      rfl
    · rw [heard_cons h, List.flatten_cons, List.flatten_cons, ih]

theorem send_of_ne_nil {piece : List UInt8} (h : piece ≠ []) (w : ω) :
    send w piece = write w piece := by
  simp [send, h]

theorem takes_send (w : ω) (piece : List UInt8) :
    Takes w (heard [piece]) (finish (send w piece)) := by
  by_cases h : piece = []
  · rw [h]
    exact .flush w
  · rw [heard_cons h, send_of_ne_nil h]
    cases hwrite : write w piece with
    | mk w' result =>
      cases result with
      | none => exact .take hwrite (.flush w')
      | some error => exact .refuse hwrite _

/-- Spans that are sent one by one are the pieces that are sent for them. -/
theorem takes_sink (colors buffering : Bool) (spans : List (Span Style)) (w : ω) :
    Takes w (heard (spans.map fun s => utf8 (Ansi.encode colors s)))
      (finish ((sink colors buffering).send spans w)) := by
  induction spans generalizing w with
  | nil => exact .flush w
  | cons s spans ih =>
    have hsend : (sink colors buffering : Sink ω ε).write w s =
        send w (utf8 (Ansi.encode colors s)) := rfl
    rw [List.map_cons]
    by_cases h : utf8 (Ansi.encode colors s) = []
    · have hskip : (sink colors buffering : Sink ω ε).write w s = (w, none) := by
        rw [hsend, h]
        rfl
      rw [h, heard_cons_nil, Sink.send_cons_of_none (by rw [hskip]), hskip]
      exact ih w
    · rw [send_of_ne_nil h] at hsend
      rw [heard_cons h]
      cases hwrite : write w (utf8 (Ansi.encode colors s)) with
      | mk w' result =>
        rw [hwrite] at hsend
        cases result with
        | none =>
          rw [Sink.send_cons_of_none (by rw [hsend]), hsend]
          exact .take hwrite (ih w')
        | some error =>
          rw [Sink.send_cons_of_some (by rw [hsend]), hsend]
          exact .refuse hwrite _

end Receiver

/-! ## 2. Buffers -/

theorem Buffer.send_sink (colors : Bool) (spans : List (Span Style)) (b : Buffer) :
    (Buffer.sink colors : Sink Buffer ε).send spans b =
      (b ++ spans.flatMap fun s => utf8 (Ansi.encode colors s), none) := by
  induction spans generalizing b with
  | nil => exact congrArg (·, none) (List.append_nil b).symm
  | cons s spans ih =>
    rw [Sink.send_cons_of_none rfl, ih, List.flatMap_cons, ← List.append_assoc]
    rfl

/-! ## 3. Targets -/

namespace Target

open Receiver

theorem rendering_eq (t : Target ω) (e : Event) :
    t.rendering e = (t.painter.spans e).flatMap fun s => utf8 (Ansi.encode t.colors s) := by
  rw [rendering, Painter.run_render, Buffer.send_sink]
  rfl

theorem sendWhole_eq (t : Target ω) (e : Event) :
    t.sendWhole e = send t.writer (t.rendering e) := by
  rw [sendWhole, Painter.run_render, Buffer.send_sink, rendering_eq]
  rfl

theorem sendSpans_eq (t : Target ω) (e : Event) :
    t.sendSpans e = (Receiver.sink t.colors false).send (t.painter.spans e) t.writer := by
  rw [sendSpans, Painter.run_render]
  rcases (Receiver.sink t.colors false : Sink ω ε).send (t.painter.spans e) t.writer with
    ⟨w, _ | error⟩
  · rfl
  · rfl

/-- **An event is sent in pieces, and its target flushed.**  Only the writer of the target
changes. -/
theorem takes_emit (t : Target ω) (e : Event) :
    ∃ pieces r, pieces.flatten = t.rendering e ∧ Takes t.writer pieces r ∧
      t.emit e = ({ t with writer := r.1 }, r.2) := by
  have hemit : t.emit e =
      ({ t with writer := (finish (if t.buffered then t.sendWhole e else t.sendSpans e)).1 },
        (finish (if t.buffered then t.sendWhole e else t.sendSpans e)).2) := rfl
  rw [hemit]
  split
  · refine ⟨heard [t.rendering e], _, ?_, takes_send t.writer (t.rendering e), ?_⟩
    · rw [flatten_heard]
      exact List.append_nil _
    · rw [sendWhole_eq]
  · refine ⟨_, _, ?_, takes_sink t.colors false (t.painter.spans e) t.writer, ?_⟩
    · rw [flatten_heard, rendering_eq]
      rfl
    · rw [sendSpans_eq]

end Target

/-! ## 4. The console -/

namespace Console

open Receiver

/-- An event that is not below the minimum level is sent to the target of its level. -/
theorem emit_of_not_lt (c : Console ω) {e : Event} (h : ¬ e.level < c.minimumLevel) :
    c.emit e = (c.withTarget e.level ((c.target e.level).emit e).1,
      ((c.target e.level).emit e).2) := by
  rw [emit, if_neg h]

end Console

end Logbook
