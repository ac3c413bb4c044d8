/-
# A rendering is a list of writes

Whatever the sink is, a rendering of this library makes a list of writes that depends
neither on the sink nor on how its writes turn out.  `Rendering.puts` is the rendering that
makes given writes, and the equations below bring the building blocks to that form:

* `run_puts`: making writes is what `Sink.send` does, errors and states included;
* `aligned_eq`: the measuring pass costs no write and learns the width of the text, so an
  aligned rendering makes the writes of `Padding.align`;
* `tally_append`, `total_tally`: the same with a count of the styled writes.

With them the equation of a renderer is found by following its recursion.
-/
import Logbook.Rendering

namespace Logbook

variable {α ε : Type}

/-! ## 1. Painting, piece by piece -/

namespace Theme

@[simp] theorem paint_nil (t : Theme) : t.paint [] = [] := rfl

@[simp] theorem paint_cons (t : Theme) (s : Span Role) (spans : List (Span Role)) :
    t.paint (s :: spans) = s.map t.style :: t.paint spans := rfl

@[simp] theorem paint_append (t : Theme) (xs ys : List (Span Role)) :
    t.paint (xs ++ ys) = t.paint xs ++ t.paint ys := List.map_append

theorem paint_flatMap {β : Type} (t : Theme) (f : β → List (Span Role)) (xs : List β) :
    t.paint (xs.flatMap f) = xs.flatMap fun x => t.paint (f x) := List.map_flatMap

end Theme

/-- The characters of a list of spans. -/
def Span.chars {σ : Type} (spans : List (Span σ)) : List Char := spans.flatMap (·.text.toList)

@[simp] theorem Span.chars_nil {σ : Type} : chars ([] : List (Span σ)) = [] := rfl

@[simp] theorem Span.chars_cons {σ : Type} (s : Span σ) (spans : List (Span σ)) :
    chars (s :: spans) = s.text.toList ++ chars spans := List.flatMap_cons

@[simp] theorem Span.chars_append {σ : Type} (xs ys : List (Span σ)) :
    chars (xs ++ ys) = chars xs ++ chars ys := List.flatMap_append

theorem Span.toList_texts {σ : Type} (spans : List (Span σ)) :
    (texts spans).toList = chars spans := by
  simp [texts, chars, List.flatMap, Function.comp_def]

@[simp] theorem Span.map_inRole (t : Theme) (r : Role) (text : String) :
    (Span.inRole r text).map t.style = ⟨some (t.style r), text⟩ := rfl

@[simp] theorem Span.map_plain (t : Theme) (text : String) :
    (Span.plain text : Span Role).map t.style = .plain text := rfl

/-! ## 2. Writes in a row -/

namespace Rendering

variable {β γ : Type}

theorem run_bind (r : Rendering α ε β) (f : β → Rendering α ε γ) (k : Sink α ε) (a : α) :
    (r >>= f).run k a =
      match r.run k a with
      | (.ok x, a) => (f x).run k a
      | (.error e, a) => (.error e, a) := by
  change ExceptT.bindCont (fun x => f x k) (r.run k a).1 (r.run k a).2 = _
  rcases r.run k a with ⟨_ | _, a⟩
  · rfl
  · rfl

/-- Makes the writes of a list in order. -/
def puts (spans : List (Span Style)) : Rendering α ε Unit := spans.forM put

@[simp] theorem puts_nil : (puts [] : Rendering α ε Unit) = pure () := rfl

theorem puts_cons (s : Span Style) (spans : List (Span Style)) :
    (puts (s :: spans) : Rendering α ε Unit) = (do put s; puts spans) := rfl

theorem puts_singleton (s : Span Style) : (puts [s] : Rendering α ε Unit) = put s := by
  rw [puts_cons, puts_nil]
  exact bind_pure_unit

theorem puts_append (xs ys : List (Span Style)) :
    (puts (xs ++ ys) : Rendering α ε Unit) = (do puts xs; puts ys) := by
  induction xs with
  | nil => rw [List.nil_append, puts_nil, pure_bind]
  | cons x xs ih => rw [List.cons_append, puts_cons, ih, puts_cons, bind_assoc]

/-- A loop whose body makes writes makes the writes of all its rounds. -/
theorem forM_puts {xs : List β} {f : β → Rendering α ε Unit}
    {spans : β → List (Span Style)} (h : ∀ x ∈ xs, f x = puts (spans x)) :
    xs.forM f = puts (xs.flatMap spans) := by
  induction xs with
  | nil => rfl
  | cons x xs ih =>
    have hx : f x = puts (spans x) := h x List.mem_cons_self
    have hxs : xs.forM f = puts (xs.flatMap spans) :=
      ih fun y hy => h y (List.mem_cons_of_mem x hy)
    rw [List.flatMap_cons, puts_append, ← hx, ← hxs]
    rfl

/-- **Making writes is sending spans.**  The state is the one that sending leaves, and the
error, if there is one, is that of the first write that failed. -/
theorem run_puts (spans : List (Span Style)) (k : Sink α ε) (a : α) :
    (puts spans).run k a =
      match k.send spans a with
      | (a, none) => (.ok (), a)
      | (a, some e) => (.error e, a) := by
  induction spans generalizing a with
  | nil => rfl
  | cons s spans ih =>
    have hput : (put s).run k a =
        match k.write a s with
        | (a, none) => (.ok (), a)
        | (a, some e) => (.error e, a) := rfl
    rw [puts_cons, run_bind, hput, Sink.send]
    rcases k.write a s with ⟨a, _ | e⟩
    · exact ih a
    · rfl

theorem send_capture (b : Bool) (spans : List (Span Style)) (c : Capture) :
    (Capture.sink b : Sink Capture ε).send spans c = (c ++ spans, none) := by
  induction spans generalizing c with
  | nil => rw [Sink.send, List.append_nil]
  | cons s spans ih =>
    have hwrite : (Capture.sink b : Sink Capture ε).write c s = (c ++ [s], none) := rfl
    rw [Sink.send, hwrite]
    simp only [ih, List.append_assoc, List.singleton_append]

theorem send_measure (like : Capabilities) (spans : List (Span Style)) (m : Measure) :
    (Measure.sink like : Sink Measure ε).send spans m = (m ++ Span.texts spans, none) := by
  induction spans generalizing m with
  | nil =>
    rw [Sink.send]
    simp [Span.texts]
  | cons s spans ih =>
    have hwrite : (Measure.sink like : Sink Measure ε).write m s = (m ++ s.text, none) := rfl
    rw [Sink.send, hwrite]
    simp [ih, Span.texts, String.append_assoc]

/-- A capture records exactly the writes, and no write fails. -/
theorem run_puts_capture (b : Bool) (spans : List (Span Style)) (c : Capture) :
    (puts spans).run (Capture.sink b : Sink Capture ε) c = (.ok (), c ++ spans) := by
  rw [run_puts, send_capture]

theorem captured_puts (spans : List (Span Style)) : (puts spans).captured = spans := by
  rw [captured, run_puts_capture]
  rfl

theorem collected_puts (spans : List (Span Style)) :
    (puts spans).collected = Span.texts spans := by
  rw [collected, run_puts, send_measure]
  exact String.empty_append

theorem captured_bind_pure (spans : List (Span Style)) (x : β) :
    (do puts spans; pure x).captured = spans := by
  rw [captured, run_bind, run_puts_capture]
  rfl

/-- Only the writes of a rendering count for its text, not its result. -/
theorem collected_bind_pure (r : Rendering Measure Empty Unit) (x : β) :
    (do r; pure x).collected = r.collected := by
  unfold collected
  rw [run_bind]
  rcases r.run (Measure.sink ⟨false, false⟩) "" with ⟨_ | _, m⟩
  · rfl
  · rfl

theorem measure_puts (like : Capabilities) (spans : List (Span Style)) :
    (measure (puts spans) like : Except ε Measure) = .ok (Span.texts spans) := by
  rw [measure, run_puts, send_measure]
  simp

/-! ## 3. Fields -/

theorem inRole_eq (t : Theme) (r : Role) (text : String) :
    (inRole t r text : Rendering α ε Unit) = puts (t.paint [.inRole r text]) :=
  (puts_singleton _).symm

theorem plain_eq (t : Theme) (text : String) :
    (plain text : Rendering α ε Unit) = puts (t.paint [.plain text]) :=
  (puts_singleton _).symm

theorem spaces_eq (n : Nat) : (spaces n : Rendering α ε Unit) = puts (Padding.blanks n) := by
  unfold spaces Padding.blanks
  split
  · rfl
  · exact (puts_singleton _).symm

theorem void_eq (a : Option Alignment) :
    (void a : Rendering α ε Unit) = puts (Padding.void a) := spaces_eq _

/-- A known text fills its field as any content does. -/
theorem padded_eq (text : String) (style : Style) (a : Option Alignment) :
    (padded text style a : Rendering α ε Unit) =
      puts (Padding.align a [⟨some style, text⟩]) := by
  have htexts : Span.texts [(⟨some style, text⟩ : Span Style)] = text := by
    simp [Span.texts]
  have hstyled : (styled text style : Rendering α ε Unit) = puts [⟨some style, text⟩] :=
    (puts_singleton _).symm
  cases a with
  | none =>
    simp only [padded, Option.elim_none, Nat.lt_irrefl, false_and, if_false, spaces_eq, hstyled]
    rw [← puts_append]
    rfl
  | some a =>
    simp only [padded, Option.elim_some, Option.map_some, Option.some.injEq, Padding.align,
      Padding.field, Padding.lack, htexts, spaces_eq, hstyled, ← puts_append]
    rcases Nat.eq_zero_or_pos (a.width - Text.columns text) with hlack | hlack
    · cases a.side <;> simp [hlack, Padding.blanks]
    · cases a.side <;> simp [hlack]

/-- **An aligned rendering makes the writes of its content, and those of the padding.**  The
measuring pass makes the same writes on another sink, so what it measures is the text. -/
theorem aligned_eq {r : (σ : Type) → Rendering σ ε Unit} {spans : List (Span Style)}
    (h : ∀ σ, r σ = puts spans) (a : Option Alignment) :
    (aligned a r : Rendering α ε Unit) = puts (Padding.align a spans) := by
  cases a with
  | none => exact h α
  | some a =>
    obtain ⟨side, width, hwidth⟩ := a
    cases side with
    | right =>
      have hpass : (aligned (some ⟨.right, width, hwidth⟩) r : Rendering α ε Unit) =
          (do spaces (width - Measure.width (Span.texts spans)); r α) := by
        funext k
        simp only [aligned, h, measure_puts]
        rfl
      rw [hpass, h, spaces_eq, ← puts_append]
      rfl
    | left =>
      have hpass : (aligned (some ⟨.left, width, hwidth⟩) r : Rendering α ε Unit) =
          (do r α; spaces (width - Measure.width (Span.texts spans))) := by
        funext k
        simp only [aligned, h, measure_puts]
        rfl
      rw [hpass, h, spaces_eq, ← puts_append]
      rfl

end Rendering

/-! ## 4. Counted writes -/

namespace Counting

/-- Makes the writes of a list in order, and counts those with a style. -/
def tally (spans : List (Span Style)) : Counting α ε Unit := fun n => do
  Rendering.puts spans
  pure ((), n + Span.styledCount spans)

theorem tally_nil : (tally [] : Counting α ε Unit) = pure () := by
  funext n
  exact pure_bind _ _

theorem tally_append (xs ys : List (Span Style)) :
    (tally (xs ++ ys) : Counting α ε Unit) = (do tally xs; tally ys) := by
  funext n
  have hcount : n + Span.styledCount (xs ++ ys) =
      n + Span.styledCount xs + Span.styledCount ys := by
    rw [Span.styledCount, List.countP_append, ← Nat.add_assoc]
    rfl
  change _ = (tally xs n >>= fun x => tally ys x.2)
  simp only [tally, Rendering.puts_append, hcount, bind_assoc, pure_bind]

theorem inRole_eq (t : Theme) (r : Role) (text : String) :
    (inRole t r text : Counting α ε Unit) = tally (t.paint [.inRole r text]) := by
  funext n
  change (Rendering.inRole t r text >>= fun _ => pure ((), n)) >>= (fun x => pure ((), x.2 + 1)) = _
  simp only [Rendering.inRole_eq, bind_assoc, pure_bind]
  rfl

theorem plain_eq (t : Theme) (text : String) :
    (plain text : Counting α ε Unit) = tally (t.paint [.plain text]) := by
  funext n
  change (Rendering.plain text >>= fun _ => pure ((), n)) = _
  rw [Rendering.plain_eq t]
  rfl

theorem mark_eq (t : Theme) (text : String) :
    (mark t text : Counting α ε Unit) = tally (t.paint [.mark text]) := inRole_eq t _ text

/-- The count of a rendering that only makes writes is the number of its styled writes. -/
theorem total_tally (spans : List (Span Style)) :
    ((tally spans).total : Rendering α ε Nat) =
      (do Rendering.puts spans; pure (Span.styledCount spans)) := by
  change (tally spans 0 >>= fun x => pure x.2) = _
  simp only [tally, Nat.zero_add, bind_assoc, pure_bind]

end Counting

end Logbook
