/-
# Where events go

A console whose writers do not fail is given events one after the other (`Console.emitAll`).
Standard output receives the renderings of the events below the error level, in their order,
standard error those of the others, and neither any of the events below the minimum level
(`build_emitAll`).  Whether the targets are buffered makes no difference to the bytes.

One event is one step.  It leaves everything about the console as it was but the writer of
one target, which goes on not failing, so the run is an induction on the events
(`emitAll_of_reliable`).
-/
import Logbook.Proofs.Console.Delivery

namespace Logbook

variable {ω ε : Type} [Receiver ω ε]

/-! ## 1. Receivers that do not fail -/

namespace Receiver

/-- No operation on the receiver fails, now or after any others. -/
def Reliable (w : ω) : Prop :=
  ∃ Good : ω → Prop, Good w ∧ ∀ w, Good w →
    (∀ piece, (write w piece).2 = none ∧ Good (write w piece).1) ∧
      (flush w).2 = none ∧ Good (flush w).1

theorem Reliable.write {w : ω} (h : Reliable w) (piece : List UInt8) :
    (Receiver.write w piece).2 = none ∧ Reliable (Receiver.write w piece).1 := by
  obtain ⟨Good, hw, hgood⟩ := h
  obtain ⟨hwrite, -⟩ := hgood w hw
  exact ⟨(hwrite piece).1, Good, (hwrite piece).2, hgood⟩

theorem Reliable.flush {w : ω} (h : Reliable w) :
    (Receiver.flush w).2 = none ∧ Reliable (Receiver.flush w).1 := by
  obtain ⟨Good, hw, hgood⟩ := h
  obtain ⟨-, hflush, hnext⟩ := hgood w hw
  exact ⟨hflush, Good, hnext, hgood⟩

theorem Takes.reliable {w : ω} {pieces : List (List UInt8)} {r : ω × Option ε}
    (h : Takes w pieces r) (hw : Reliable w) : r.2 = none ∧ Reliable r.1 := by
  induction h with
  | flush w => exact hw.flush
  | @refuse w w' piece error h pieces =>
    have hnone : (Receiver.write w piece).2 = none := (hw.write piece).1
    rw [h] at hnone
    cases hnone
  | @take w w' piece pieces r h rest ih =>
    have hnext : Reliable (Receiver.write w piece).1 := (hw.write piece).2
    rw [h] at hnext
    exact ih hnext

end Receiver

theorem Writer.reliable_of_limit {w : Writer} (h : w.limit = none) : Receiver.Reliable w := by
  refine ⟨fun w => w.limit = none, h, fun w hw => ⟨fun piece => ⟨?_, hw⟩, rfl, hw⟩⟩
  have hroom : w.room piece.length = piece.length := by
    rw [room, hw]
  have hfits : ¬ w.room piece.length < piece.length := by omega
  exact if_neg hfits

open Receiver

/-! ## 2. One event -/

namespace Target

/-- A target that does not fail is sent the whole rendering. -/
theorem emit_of_reliable (t : Target ω) (e : Event) (h : Reliable t.writer) :
    ∃ w, Reliable w ∧ received w = received t.writer ++ t.rendering e ∧
      t.emit e = ({ t with writer := w }, none) := by
  obtain ⟨pieces, ⟨w, result⟩, hpieces, htakes, hemit⟩ := t.takes_emit e
  obtain ⟨hnone, hw⟩ := htakes.reliable h
  obtain ⟨delivered, -, hreceived, hall⟩ := htakes.delivered
  obtain rfl : result = none := hnone
  refine ⟨w, hw, ?_, hemit⟩
  rw [hreceived, hall rfl, hpieces]

end Target

namespace Console

/-- Whether an event goes to standard output. -/
def printsTo (c : Console ω) (e : Event) : Bool :=
  !decide (e.level < c.minimumLevel) && !c.isError e.level

/-- Whether an event goes to standard error. -/
def reportsTo (c : Console ω) (e : Event) : Bool :=
  !decide (e.level < c.minimumLevel) && c.isError e.level

/-- The console with other writers. -/
def withWriters (c : Console ω) (out err : ω) : Console ω :=
  { c with out := { c.out with writer := out }, err := { c.err with writer := err } }

/-- **One event goes to one writer, or to none.** -/
theorem emit_of_reliable (c : Console ω) (e : Event) (hout : Reliable c.out.writer)
    (herr : Reliable c.err.writer) :
    ∃ out err, Reliable out ∧ Reliable err ∧ c.emit e = (c.withWriters out err, none) ∧
      received out = received c.out.writer ++ (if c.printsTo e then c.out.rendering e else []) ∧
      received err =
        received c.err.writer ++ (if c.reportsTo e then c.err.rendering e else []) := by
  by_cases hlevel : e.level < c.minimumLevel
  · refine ⟨c.out.writer, c.err.writer, hout, herr, if_pos hlevel, ?_, ?_⟩
    · simp [printsTo, hlevel]
    · simp [reportsTo, hlevel]
  · rw [c.emit_of_not_lt hlevel]
    by_cases herror : c.isError e.level
    · obtain ⟨w, hw, hreceived, hemit⟩ := c.err.emit_of_reliable e herr
      refine ⟨c.out.writer, w, hout, hw, ?_, ?_, ?_⟩
      · have htarget : c.target e.level = c.err := if_pos herror
        rw [htarget, hemit, withTarget, if_pos herror]
        rfl
      · simp [printsTo, herror]
      · simp [reportsTo, hlevel, herror, hreceived]
    · obtain ⟨w, hw, hreceived, hemit⟩ := c.out.emit_of_reliable e hout
      refine ⟨w, c.err.writer, hw, herr, ?_, ?_, ?_⟩
      · have htarget : c.target e.level = c.out := if_neg herror
        rw [htarget, hemit, withTarget, if_neg herror]
        rfl
      · simp [printsTo, hlevel, herror, hreceived]
      · simp [reportsTo, herror]

/-! ## 3. Many events -/

/-- Writes events one after the other, and collects what came back. -/
def emitAll (c : Console ω) : List Event → Console ω × List (Option ε)
  | [] => (c, [])
  | e :: events =>
    let (c, result) := c.emit e
    let (c, results) := c.emitAll events
    (c, result :: results)

theorem emitAll_cons (c : Console ω) (e : Event) (events : List Event) :
    c.emitAll (e :: events) =
      (((c.emit e).1.emitAll events).1, (c.emit e).2 :: ((c.emit e).1.emitAll events).2) := rfl

theorem flatMap_filter_cons {α β : Type} (p : α → Bool) (f : α → List β) (x : α) (xs : List α) :
    ((x :: xs).filter p).flatMap f = (if p x then f x else []) ++ (xs.filter p).flatMap f := by
  rw [List.filter_cons]
  split
  · rw [List.flatMap_cons]
  · rfl

/-- **Every event goes to one writer, or to none, in its turn.** -/
theorem emitAll_of_reliable (c : Console ω) (events : List Event) (hout : Reliable c.out.writer)
    (herr : Reliable c.err.writer) :
    ∃ out err, c.emitAll events = (c.withWriters out err, events.map fun _ => none) ∧
      received out =
        received c.out.writer ++ (events.filter c.printsTo).flatMap c.out.rendering ∧
      received err =
        received c.err.writer ++ (events.filter c.reportsTo).flatMap c.err.rendering := by
  induction events generalizing c with
  | nil => exact ⟨c.out.writer, c.err.writer, rfl, by simp, by simp⟩
  | cons e events ih =>
    obtain ⟨out, err, hout', herr', hemit, hprinted, hreported⟩ := c.emit_of_reliable e hout herr
    obtain ⟨last, lastErr, hall, hprints, hreports⟩ := ih (c.withWriters out err) hout' herr'
    refine ⟨last, lastErr, ?_, ?_, ?_⟩
    · rw [emitAll_cons, hemit, hall]
      rfl
    · rw [hprints, flatMap_filter_cons, ← List.append_assoc, ← hprinted]
      rfl
    · rw [hreports, flatMap_filter_cons, ← List.append_assoc, ← hreported]
      rfl

/-! ## 4. Consoles as they are built -/

theorem not_level_lt (a b : Level) : (!decide (a < b)) = decide (b ≤ a) :=
  decide_not.symm.trans (decide_eq_decide.mpr Nat.not_lt)

theorem not_level_le (a b : Level) : (!decide (a ≤ b)) = decide (b < a) :=
  decide_not.symm.trans (decide_eq_decide.mpr Nat.not_le)

theorem printsTo_eq (c : Console ω) (e : Event) :
    c.printsTo e = (c.minimumLevel ≤ e.level && c.errorLevel.all (e.level < ·)) := by
  rw [printsTo, isError, not_level_lt]
  cases c.errorLevel with
  | none => rfl
  | some threshold => exact congrArg (_ && ·) (not_level_le threshold e.level)

theorem reportsTo_eq (c : Console ω) (e : Event) :
    c.reportsTo e = (c.minimumLevel ≤ e.level && c.errorLevel.any (· ≤ e.level)) := by
  rw [reportsTo, isError, not_level_lt]

/-- The console that a blueprint with a template and a theme gives to two writers of its own. -/
def ofWriters (b : Blueprint) (template : String) (theme : Theme) (out err : ω) : Console ω where
  out := ⟨out, ⟨⟨.parse template, b.provider, b.exceptions⟩, theme⟩, b.buffered⟩
  err := ⟨err, ⟨⟨.parse template, b.provider, b.exceptions⟩, theme⟩, b.buffered⟩
  minimumLevel := b.minimumLevel
  errorLevel := b.errorLevel

theorem build_eq (b : Blueprint) {template : String} {theme : Theme}
    (htemplate : b.template = some template) (htheme : b.theme = some theme) (out err : ω) :
    b.build ⟨out, false⟩ ⟨err, false⟩ = .ok (ofWriters b template theme out err) := by
  rw [Blueprint.build, htemplate, htheme]
  rfl

/-- **Events are routed by their levels, and none is lost.**  A console with a template, a theme
and two writers that do not fail is built, and every event succeeds.  Standard output receives
the renderings of the events from the minimum level on that are below the error level,
standard error those of the events from both levels on, each in the order of the events and
with colours if the theme has a style; buffering does not matter. -/
theorem build_emitAll (b : Blueprint) {template : String} {theme : Theme}
    (htemplate : b.template = some template) (htheme : b.theme = some theme) {out err : ω}
    (hout : Reliable out) (herr : Reliable err) (events : List Event) :
    let painter : Painter := ⟨⟨.parse template, b.provider, b.exceptions⟩, theme⟩
    let rendering : Event → Buffer := fun e =>
      ((painter.render e).run (Buffer.sink (!theme.isEmpty) : Sink Buffer Empty) []).2
    ∃ (c : Console ω) (out' err' : ω),
      b.build ⟨out, false⟩ ⟨err, false⟩ = .ok c ∧
      c.emitAll events = (c.withWriters out' err', events.map fun _ => none) ∧
      received out' = received out ++
        (events.filter fun e =>
          b.minimumLevel ≤ e.level && b.errorLevel.all (e.level < ·)).flatMap rendering ∧
      received err' = received err ++
        (events.filter fun e =>
          b.minimumLevel ≤ e.level && b.errorLevel.any (· ≤ e.level)).flatMap rendering := by
  intro painter rendering
  obtain ⟨out', err', hall, hprinted, hreported⟩ :=
    (ofWriters b template theme out err).emitAll_of_reliable events hout herr
  refine ⟨_, out', err', build_eq b htemplate htheme out err, hall, ?_, ?_⟩
  · have hfilter : ∀ e ∈ events, (ofWriters b template theme out err).printsTo e =
        (b.minimumLevel ≤ e.level && b.errorLevel.all (e.level < ·)) := fun e _ => printsTo_eq _ e
    rw [hprinted, List.filter_congr hfilter]
    rfl
  · have hfilter : ∀ e ∈ events, (ofWriters b template theme out err).reportsTo e =
        (b.minimumLevel ≤ e.level && b.errorLevel.any (· ≤ e.level)) := fun e _ => reportsTo_eq _ e
    rw [hreported, List.filter_congr hfilter]
    rfl

/-- An event below the minimum level, one between both levels, and one above them, on writers
without a limit. -/
theorem build_emitAll_three_levels :
    let b : Blueprint :=
      { template := some "\x7bLevel:u3\x7d \x7bMessage\x7d", theme := some Preset.none.theme,
        minimumLevel := .information, errorLevel := some .error, buffered := false }
    let event : Level → Event := fun level => ⟨level, ⟨0, 0, 0⟩, .parse "hi", .empty, none⟩
    Reliable Writer.unlimited ∧
    ∃ (c : Console Writer) (out err : Writer),
      b.build ⟨.unlimited, false⟩ ⟨.unlimited, false⟩ = .ok c ∧
      c.emitAll [event .debug, event .warning, event .fatal] =
        (c.withWriters out err, [none, none, none]) ∧
      out.received = utf8 "WRN hi" ∧ err.received = utf8 "FTL hi" := by
  intro b event
  have hreliable : Reliable Writer.unlimited := Writer.reliable_of_limit rfl
  obtain ⟨c, out, err, hbuild, hall, hout, herr⟩ :=
    build_emitAll b rfl rfl hreliable hreliable [event .debug, event .warning, event .fatal]
  refine ⟨hreliable, c, out, err, hbuild, hall, ?_, ?_⟩
  · exact hout.trans (by decide +kernel)
  · exact herr.trans (by decide +kernel)

end Console

end Logbook
