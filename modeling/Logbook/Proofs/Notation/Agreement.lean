/-
# Where the notations agree

The two notations are written by different functions, and each has its own writer of scalars.
The display notation asks the provider for the text of a number or of a truth value, and the JSON
notation converts it by itself; strings are quoted in two places; and a format is for scalars at
the top alone.  With the invariant provider the two still agree on the values that both can say in
the same words: nulls, strings, integers, finite floating point data, truth values, and sequences
of such values at any depth (`same_writes`).

The argument is an induction on how such a value is built (`Value.Common`).  Below the top neither
notation has a format, and there the scalars meet (`scalarSpan_eq`).  At the top a scalar is
written in the display notation anyway, and a sequence does not look at the format.
-/
import Logbook.Proofs.Rendering.Notation
import Logbook.Theme.Preset

namespace Logbook

/-! ## 1. Values that both notations know -/

/-- A string, an integer, a finite floating point datum or a truth value. -/
inductive Scalar.Common : Scalar → Prop
  | string (s : String) : Common (.string s)
  | integer (n : Integer) : Common (.integer n)
  | single {x : Binary .single} (h : x.isFinite = true) : Common (.single x)
  | double {x : Binary .double} (h : x.isFinite = true) : Common (.double x)
  | bool (b : Bool) : Common (.bool b)

/-- A value that is built from nulls and from scalars of these kinds by sequences alone. -/
inductive Value.Common : Value → Prop
  | null : Common .null
  | scalar {s : Scalar} (h : s.Common) : Common (.scalar s)
  | sequence {items : List Value} (h : ∀ v ∈ items, Common v) : Common (.sequence items)

namespace JsonNotation

/-! ## 2. Below the top -/

/-- A finite datum is written in its digits. -/
theorem floatText_of_isFinite {p : Precision} {x : Binary p} (h : x.isFinite = true) :
    floatText x = String.ofList x.text := if_pos h

/-- **Below the top both notations write such a scalar in the same words.** -/
theorem scalarSpan_eq {s : Scalar} (h : s.Common) :
    scalarSpan s = Display.scalarSpan .invariant none s := by
  have htext : scalarText s = Display.scalarText .invariant none s := by
    cases h with
    | string s => rfl
    | integer n => rfl
    | single hx => exact floatText_of_isFinite hx
    | double hx => exact floatText_of_isFinite hx
    | bool b => cases b <;> rfl
  rw [scalarSpan, Display.scalarSpan, htext]

/-- Items that are written alike make sequences that are written alike. -/
theorem itemSpans_eq {p : Provider} {items : List Value}
    (h : ∀ v ∈ items, nested p v = Display.spans p none v) :
    itemSpans p items = Display.itemSpans p items := by
  induction items with
  | nil => rfl
  | cons v items ih =>
    obtain ⟨hv, hitems⟩ := List.forall_mem_cons.mp h
    rw [itemSpans, Display.itemSpans, hv, ih hitems]

theorem nested_eq {v : Value} (h : v.Common) :
    nested .invariant v = Display.spans .invariant none v := by
  induction h with
  | null => rfl
  | scalar hs => rw [nested, Display.spans, scalarSpan_eq hs]
  | sequence _ ih => rw [nested, Display.spans, itemSpans_eq ih]

/-! ## 3. At the top -/

theorem spans_eq (f : Option String) {v : Value} (h : v.Common) :
    spans .invariant f true v = Display.spans .invariant f v := by
  cases h with
  | null => rfl
  | scalar _ => rfl
  | sequence hitems =>
    -- a sequence does not hand on the format
    exact nested_eq (.sequence hitems)

end JsonNotation

namespace Notation

/-- **On common values the notations are one.**  A value that is built from nulls, strings,
integers, finite floating point data and truth values by sequences is written at the top with the
same writes in either notation, in the same styles and with the same count, whatever the sink, the
theme and the format are. -/
theorem same_writes (t : Theme) (f : Option String) (v : Value) (h : v.Common) :
    ∃ writes : List (Span Style), ∀ (kind : Notation) (α ε : Type),
      (kind.format .invariant t f true v : Rendering α ε Nat) =
        (do Rendering.puts writes; pure (Span.styledCount writes)) := by
  have hspans : ∀ kind : Notation,
      kind.spans .invariant f true v = Display.spans .invariant f v := by
    intro kind
    cases kind with
    | display => rfl
    | json => exact JsonNotation.spans_eq f h
  refine ⟨t.paint (Display.spans .invariant f v), fun kind α ε => ?_⟩
  rw [format_eq, hspans, Theme.paint, Span.styledCount_map]

/-- A format that leaves out quotes at the top, above a string, the ends of the integers, negative
zero, a tenth as a single, and a sequence of nulls. -/
theorem same_writes_nested :
    let tenth : Binary .single := .finite false 13421773 (-27) (by decide)
    let zero : Binary .double := .finite true 0 (-1074) (by decide)
    let least : Integer := ⟨.signed128, IntegerKind.signed128.least, by decide, by decide⟩
    let v : Value := .sequence
      [.ofString "a\"\n", .scalar (.integer least), .scalar (.single tenth),
        .scalar (.double zero), .scalar (.bool true), .sequence [.null, .sequence []]]
    v.Common ∧
    ∃ writes : List (Span Style),
      (∀ (kind : Notation) (α ε : Type),
        (kind.format .invariant Preset.literate.theme (some "l") true v : Rendering α ε Nat) =
          (do Rendering.puts writes; pure (Span.styledCount writes))) ∧
      Span.texts writes =
        "[\"a\\\"\\n\", -170141183460469231731687303715884105728, 0.1, -0, true, [null, []]]" ∧
      Span.styledCount writes = 18 := by
  intro tenth zero least v
  have hinner : (Value.sequence [.null, .sequence []]).Common := by
    refine .sequence (List.forall_mem_cons.mpr ⟨.null, List.forall_mem_singleton.mpr ?_⟩)
    exact .sequence (List.forall_mem_nil _)
  have hv : v.Common := by
    refine .sequence ?_
    simp only [List.forall_mem_cons]
    exact ⟨.scalar (.string _), .scalar (.integer _), .scalar (.single rfl), .scalar (.double rfl),
      .scalar (.bool _), hinner, List.forall_mem_nil _⟩
  obtain ⟨writes, hwrites⟩ := same_writes Preset.literate.theme (some "l") v hv
  have hcaptured : writes =
      (json.format .invariant Preset.literate.theme (some "l") true v).captured := by
    rw [hwrites json, Rendering.captured_bind_pure]
  refine ⟨hv, writes, hwrites, ?_, ?_⟩
  · rw [hcaptured]
    decide +kernel
  · rw [hcaptured]
    decide +kernel

end Notation

end Logbook
