/-
# Renderings

A rendering is a computation that writes to a sink.  It knows the sink only through its
writes and its capabilities, and the first write that fails ends it; what was written up to
there stays written.

Aligned content that is only known once it is rendered is rendered twice: first into a
measure that stands in for the sink, to learn how many columns it takes, and then into the
sink itself (`Rendering.aligned`).  So an aligned rendering has to run on either sink, and
alignments nest.  Memory is taken as unbounded, so the blanks of a field can be written however
many they are.
-/
import Logbook.Padding
import Logbook.Sink
import Logbook.Theme

namespace Logbook

/-! ## 1. Computations that write -/

/-- A computation that writes to a sink with states in `α` and errors in `ε`. -/
abbrev Rendering (α ε β : Type) : Type := ReaderT (Sink α ε) (ExceptT ε (StateM α)) β

namespace Rendering

variable {α ε β : Type}

/-- The result or the error of a rendering, and the state in which it leaves the sink. -/
def run (r : Rendering α ε β) (k : Sink α ε) (a : α) : Except ε β × α := (r k).run a

/-- The spans that a rendering writes, as a capture records them. -/
def captured (r : Rendering Capture Empty β) : Capture := (r.run (Capture.sink true) []).2

/-- The text that a rendering writes. -/
def collected (r : Rendering Measure Empty β) : String :=
  (r.run (Measure.sink ⟨false, false⟩) "").2

/-! ## 2. Single writes -/

/-- Writes one span. -/
def put (s : Span Style) : Rendering α ε Unit := fun k a =>
  match k.write a s with
  | (a, none) => (.ok (), a)
  | (a, some e) => (.error e, a)

/-- Writes a text in a style. -/
def styled (text : String) (style : Style) : Rendering α ε Unit := put ⟨some style, text⟩

/-- Writes a text without a style. -/
def plain (text : String) : Rendering α ε Unit := put (.plain text)

/-- Writes a text in the style that a theme gives to a role. -/
def inRole (theme : Theme) (role : Role) (text : String) : Rendering α ε Unit :=
  styled text (theme.style role)

/-- Writes a number of blanks, unless it is zero. -/
def spaces (n : Nat) : Rendering α ε Unit :=
  if n = 0 then pure () else plain (String.ofList (List.replicate n ' '))

/-! ## 3. Fields -/

/-- Writes a text in a style, in the field of an alignment. -/
def padded (text : String) (style : Style) (a : Option Alignment) : Rendering α ε Unit := do
  let pad := a.elim 0 (Padding.lack · text)
  if 0 < pad ∧ a.map (·.side) = some .right then
    spaces pad
    styled text style
  else
    styled text style
    spaces pad

/-- Writes the field of an alignment with nothing in it. -/
def void (a : Option Alignment) : Rendering α ε Unit := spaces (a.elim 0 (·.width))

/-- The text that a rendering writes to a measure with some capabilities. -/
def measure (r : Rendering Measure ε Unit) (like : Capabilities) : Except ε Measure :=
  match r.run (Measure.sink like) "" with
  | (.ok _, m) => .ok m
  | (.error e, _) => .error e

/-- Runs a rendering in the field of an alignment.  It is measured before it is written. -/
def aligned (a : Option Alignment) (r : (σ : Type) → Rendering σ ε Unit) :
    Rendering α ε Unit :=
  match a with
  | none => r α
  | some a => do
    let k ← read
    let m ← measure (r Measure) k.capabilities
    let pad := a.width - Measure.width m
    match a.side with
    | .right =>
      spaces pad
      r α
    | .left =>
      r α
      spaces pad

end Rendering

/-! ## 4. Counting -/

/-- A rendering that counts the styled texts that it writes. -/
abbrev Counting (α ε β : Type) : Type := StateT Nat (Rendering α ε) β

namespace Counting

variable {α ε : Type}

/-- Writes a text in the style of a role, and counts it. -/
def inRole (theme : Theme) (role : Role) (text : String) : Counting α ε Unit := do
  (Rendering.inRole theme role text : Rendering α ε Unit)
  modify (· + 1)

/-- Writes a text without a style. -/
def plain (text : String) : Counting α ε Unit := do
  (Rendering.plain text : Rendering α ε Unit)

/-- Writes punctuation between the parts of a value. -/
def mark (theme : Theme) (text : String) : Counting α ε Unit := inRole theme .tertiaryText text

/-- Writes the comma in front of a part, unless it is the first one. -/
def comma (theme : Theme) (first : Bool) : Counting α ε Unit :=
  if first then pure () else mark theme ", "

/-- The count of a rendering that starts at zero. -/
def total (r : Counting α ε Unit) : Rendering α ε Nat := do
  let (_, n) ← r.run 0
  return n

end Counting

end Logbook
