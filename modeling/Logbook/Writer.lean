/-
# Writers

The end of the line: a receiver of bytes.  It takes what it is given from the front, and may
fail before it has taken all of it; of a write that does not fail it has taken all.  That is
what is known of any receiver (`Receiver`), and what is sent to it is what a terminal is
sent for spans.

Two receivers are here.  A buffer in memory takes everything.  A writer may have room for a
number of bytes only: it then takes what fits and fails on the rest, and on every later write
that is not empty.

Bytes are those of the UTF-8 form of the text, so a writer may stop within a character;
such a rest is shown by the replacement character.
-/
import Logbook.Sink

namespace Logbook

/-! ## 1. Receivers -/

/-- The bytes of a text. -/
def utf8 (text : String) : List UInt8 := text.toUTF8.toList

/-- A receiver of bytes with states in `ω` and errors in `ε`. -/
class Receiver (ω : Type) (ε : outParam Type) where
  /-- What was taken, in order. -/
  received : ω → List UInt8
  /-- What a write does to the state, in however many calls, and the error if one of them
  fails. -/
  write : ω → List UInt8 → ω × Option ε
  /-- Passes on what was taken. -/
  flush : ω → ω × Option ε
  /-- A write takes bytes from the front, and all of them unless it fails. -/
  received_write : ∀ w bs, ∃ n,
    received (write w bs).1 = received w ++ bs.take n ∧
      ((write w bs).2 = none → bs.length ≤ n)
  received_flush : ∀ w, received (flush w).1 = received w

namespace Receiver

variable {ω ε : Type} [Receiver ω ε]

/-- Sends bytes to a receiver.  It does not hear of nothing. -/
def send (w : ω) (bs : List UInt8) : ω × Option ε := if bs = [] then (w, none) else write w bs

/-- Flushes a receiver that has not failed. -/
def finish : ω × Option ε → ω × Option ε
  | (w, none) => flush w
  | (w, some error) => (w, some error)

/-- The sink that sends spans to a receiver. -/
def sink (colors buffering : Bool) : Sink ω ε :=
  ⟨⟨colors, buffering⟩, fun w s => send w (utf8 (Ansi.encode colors s))⟩

end Receiver

/-! ## 2. Buffers -/

/-- Bytes in memory. -/
abbrev Buffer := List UInt8

/-- The sink that collects what a terminal is sent for spans. -/
def Buffer.sink {ε : Type} (colors : Bool) : Sink Buffer ε :=
  ⟨⟨colors, true⟩, fun b s => (b ++ utf8 (Ansi.encode colors s), none)⟩

/-! ## 3. Writers -/

/-- Why a write failed. -/
inductive WriteError where
  | closed
  deriving DecidableEq, Repr

/-- The text of an error. -/
def WriteError.message : WriteError → String
  | .closed => "closed"

/-- A receiver of bytes. -/
structure Writer where
  /-- The number of bytes that it takes in all, if there is a limit. -/
  limit : Option Nat
  received : List UInt8
  flushes : Nat
  deriving DecidableEq, Repr

namespace Writer

/-- The number of bytes that a writer still takes of a given number. -/
def room (w : Writer) (n : Nat) : Nat :=
  match w.limit with
  | none => n
  | some limit => min n (limit - w.received.length)

/-- Writes bytes: as many as fit, with an error if that is not all. -/
def writeAll (w : Writer) (bs : List UInt8) : Writer × Option WriteError :=
  let n := w.room bs.length
  ({ w with received := w.received ++ bs.take n },
    if n < bs.length then some .closed else none)

/-- Passes on what was written. -/
def flush (w : Writer) : Writer := { w with flushes := w.flushes + 1 }

/-- A writer without a limit that has received nothing. -/
def unlimited : Writer := ⟨none, [], 0⟩

instance : Receiver Writer WriteError where
  received := Writer.received
  write := writeAll
  flush w := (w.flush, none)
  received_write w bs := by
    refine ⟨w.room bs.length, rfl, fun h => Nat.le_of_not_lt fun hlt => ?_⟩
    simp [writeAll, hlt] at h
  received_flush _ := rfl

/-- The sink that sends spans to the writer. -/
def sink (colors buffering : Bool) : Sink Writer WriteError := Receiver.sink colors buffering

/-- The text of bytes that are those of a text, cut somewhere. -/
def decode (bs : List UInt8) : String :=
  let text? (bs : List UInt8) : Option String := String.fromUTF8? ⟨bs.toArray⟩
  match text? bs with
  | some s => s
  | none =>
    match [1, 2, 3].findSome? fun n => text? (bs.take (bs.length - n)) with
    | some s => s ++ "\ufffd"
    | none => "\ufffd"

end Writer

end Logbook
