/-
# Stopping at a failure

What a failing end does to an event, for any sink and for the console (`stops_at_failure`).
A rendering makes its writes up to the one that fails, and returns the error of that one.
The console sends the rendering in pieces to the writer of its target, and returns the error
of the writer; what has arrived by then is the front of the rendering.
-/
import Logbook.Proofs.Console.Delivery

namespace Logbook

/-! ## 1. A capture with room for some writes -/

namespace Capture

/-- The sink that records every attempt, and accepts the first ones only. -/
def limited {ε : Type} (room : Nat) (error : ε) : Sink Capture ε :=
  ⟨⟨true, true⟩, fun c s => (c ++ [s], if c.length < room then none else some error)⟩

theorem failsAfter_limited {ε : Type} (room : Nat) (error : ε) (n : Nat) (c : Capture)
    (h : c.length + n = room) : (limited room error).FailsAfter error n c := by
  induction n generalizing c with
  | zero =>
    intro s
    have hfull : ¬ c.length < room := by omega
    exact if_neg hfull
  | succ n ih =>
    intro s
    have hroom : c.length < room := by omega
    refine ⟨if_pos hroom, ih (c ++ [s]) ?_⟩
    rw [List.length_append, List.length_singleton]
    omega

theorem attempt_limited {ε : Type} (room : Nat) (error : ε) (spans : List (Span Style))
    (c : Capture) : (limited room error).attempt spans c = c ++ spans := by
  induction spans generalizing c with
  | nil => exact (List.append_nil c).symm
  | cons s spans ih =>
    rw [Sink.attempt_cons, ih]
    exact (List.append_cons c s spans).symm

end Capture

/-! ## 2. Events -/

namespace Console

/-- **The first failure ends an event.**  On a sink that accepts some writes and fails the next
one, an event makes its writes up to that one and returns its error; if it has no more
writes than are accepted, it makes them all and succeeds.  The console sends the rendering
of an event in pieces to the writer of its target, up to the operation that fails, whose
error it returns; what has arrived is the front of the rendering. -/
theorem stops_at_failure (e : Event) :
    (∀ (p : Painter) {α ε : Type} (k : Sink α ε) (n : Nat) (error : ε) (a : α),
      k.FailsAfter error n a →
        (p.render e).run k a =
          (if n < (p.render e).captured.length then .error error else .ok (),
            k.attempt ((p.render e).captured.take (n + 1)) a)) ∧
    ∀ {ω ε : Type} [Receiver ω ε] (c : Console ω), ¬ e.level < c.minimumLevel →
      ∃ pieces r,
        c.emit e = (c.withTarget e.level { c.target e.level with writer := r.1 }, r.2) ∧
        pieces.flatten = (c.target e.level).rendering e ∧
        Receiver.Takes (c.target e.level).writer pieces r ∧
        ∃ delivered, delivered <+: (c.target e.level).rendering e ∧
          Receiver.received r.1 = Receiver.received (c.target e.level).writer ++ delivered ∧
          (r.2 = none → delivered = (c.target e.level).rendering e) := by
  constructor
  · intro p α ε k n error a hfails
    exact p.run_of_failsAfter e hfails
  · intro ω ε _ c hlevel
    obtain ⟨pieces, r, hpieces, htakes, hemit⟩ := (c.target e.level).takes_emit e
    refine ⟨pieces, r, ?_, hpieces, htakes, ?_⟩
    · rw [c.emit_of_not_lt hlevel, hemit]
    · rw [← hpieces]
      exact htakes.delivered

/-- A capture with room for two writes, and a writer with room for four bytes. -/
theorem stops_at_failure_limited :
    let p : Painter :=
      ⟨⟨.parse "\x7bLevel:u3\x7d \x7bMessage\x7d", .invariant, .full⟩, .empty⟩
    let e : Event := ⟨.warning, ⟨0, 0, 0⟩, .parse "hi", .empty, none⟩
    let c : Console :=
      ⟨⟨⟨some 4, [], 0⟩, p, false⟩, ⟨.unlimited, p, false⟩, .information, some .error⟩
    (Capture.limited 2 "full").FailsAfter "full" 2 [] ∧ ¬ e.level < c.minimumLevel ∧
    (p.render e).run (Capture.limited 2 "full") [] = (.error "full", (p.render e).captured) ∧
    ∃ w, c.emit e = (c.withTarget e.level { c.target e.level with writer := w }, some .closed) ∧
      w.received = utf8 "WRN " ∧ w.received <+: (c.target e.level).rendering e := by
  intro p e c
  have hfails : (Capture.limited 2 "full").FailsAfter "full" 2 [] :=
    Capture.failsAfter_limited 2 "full" 2 [] rfl
  have hlevel : ¬ e.level < c.minimumLevel := by decide
  have hlength : (p.render e).captured.length = 3 := by decide +kernel
  have hclosed : (c.emit e).2 = some .closed := by decide +kernel
  have hfour : (c.emit e).1.out.writer.received = utf8 "WRN " := by decide +kernel
  obtain ⟨hrender, hemit⟩ := stops_at_failure e
  refine ⟨hfails, hlevel, ?_, ?_⟩
  · rw [hrender p _ 2 "full" [] hfails, Capture.attempt_limited, List.nil_append, hlength,
      List.take_of_length_le (Nat.le_of_eq hlength)]
    rfl
  · obtain ⟨pieces, ⟨w, result⟩, heq, -, -, delivered, hprefix, hreceived, -⟩ := hemit c hlevel
    rw [heq] at hclosed hfour
    obtain rfl : result = some .closed := hclosed
    obtain rfl : w.received = delivered := hreceived
    exact ⟨w, heq, hfour, hprefix⟩

end Console

end Logbook
