/-
# Sinks that fail

A sink accepts a number of writes, whatever they are, and fails the next one
(`Sink.FailsAfter`).  An event that is rendered into it makes those writes, attempts the one
that fails, and stops there with its error (`run_of_failsAfter`).

The measuring pass of an aligned rendering does not show: it makes its writes on a measure,
which never fails, so the writes that count are those of the list that the event has on any
sink.
-/
import Logbook.Proofs.Rendering.Layout

namespace Logbook

variable {α ε : Type}

/-! ## 1. Sending to a sink that fails -/

namespace Sink

/-- The sink accepts a number of writes, whatever they are, and fails the next one with an
error. -/
def FailsAfter (k : Sink α ε) (error : ε) : Nat → α → Prop
  | 0, a => ∀ s, (k.write a s).2 = some error
  | n + 1, a => ∀ s, (k.write a s).2 = none ∧ k.FailsAfter error n (k.write a s).1

/-- The state after all of some writes were attempted. -/
def attempt (k : Sink α ε) (spans : List (Span Style)) (a : α) : α :=
  spans.foldl (fun a s => (k.write a s).1) a

theorem attempt_cons (k : Sink α ε) (s : Span Style) (spans : List (Span Style)) (a : α) :
    k.attempt (s :: spans) a = k.attempt spans (k.write a s).1 := rfl

theorem send_cons_of_none {k : Sink α ε} {s : Span Style} {a : α} (h : (k.write a s).2 = none)
    (spans : List (Span Style)) : k.send (s :: spans) a = k.send spans (k.write a s).1 := by
  rw [send]
  generalize k.write a s = r at h ⊢
  obtain ⟨b, result⟩ := r
  obtain rfl : result = none := h
  rfl

theorem send_cons_of_some {k : Sink α ε} {s : Span Style} {a : α} {error : ε}
    (h : (k.write a s).2 = some error) (spans : List (Span Style)) :
    k.send (s :: spans) a = ((k.write a s).1, some error) := by
  rw [send]
  generalize k.write a s = r at h ⊢
  obtain ⟨b, result⟩ := r
  obtain rfl : result = some error := h
  rfl

/-- Sending stops behind the write that fails. -/
theorem send_of_failsAfter {k : Sink α ε} {error : ε} {n : Nat} {a : α}
    (h : k.FailsAfter error n a) (spans : List (Span Style)) :
    k.send spans a =
      (k.attempt (spans.take (n + 1)) a, if n < spans.length then some error else none) := by
  induction spans generalizing n a with
  | nil => rfl
  | cons s spans ih =>
    cases n with
    | zero =>
      have hfail : (k.write a s).2 = some error := h s
      rw [send_cons_of_some hfail]
      simp [attempt]
    | succ n =>
      obtain ⟨haccept, hrest⟩ : (k.write a s).2 = none ∧ k.FailsAfter error n (k.write a s).1 :=
        h s
      rw [send_cons_of_none haccept, ih hrest, List.take_succ_cons, attempt_cons]
      simp only [List.length_cons, Nat.add_lt_add_iff_right]

end Sink

/-! ## 2. Events -/

namespace Painter

/-- What an event makes on a sink: its writes up to the first one that fails. -/
theorem run_render (p : Painter) (e : Event) (k : Sink α ε) (a : α) :
    (p.render e).run k a =
      match k.send (p.spans e) a with
      | (a, none) => (.ok (), a)
      | (a, some error) => (.error error, a) := by
  rw [render_eq]
  exact Rendering.run_puts (p.spans e) k a

theorem captured_render (p : Painter) (e : Event) : (p.render e).captured = p.spans e := by
  rw [render_eq, Rendering.captured_puts]

/-- An event stops behind the write that fails, with the error of that write. -/
theorem run_of_failsAfter (p : Painter) (e : Event) {k : Sink α ε} {error : ε} {n : Nat} {a : α}
    (h : k.FailsAfter error n a) :
    (p.render e).run k a =
      (if n < (p.render e).captured.length then .error error else .ok (),
        k.attempt ((p.render e).captured.take (n + 1)) a) := by
  rw [run_render, captured_render, Sink.send_of_failsAfter h]
  by_cases hn : n < (p.spans e).length
  · simp only [hn, if_true]
  · simp only [hn, if_false]

end Painter

end Logbook
