/-
# The writes of a value

Rendering a value in either notation makes the writes of its spans, painted with the theme:
`Display.visit_eq` and `JsonNotation.visit_eq`.  Both go by the recursion of the renderer,
with one lemma for each kind of container.

The two sides place their commas differently.  The spans have one between neighbouring
groups (`Span.commaJoin`); the renderer writes one in front of every part but the first.
`Span.separated` is the second form, and `separated_true` joins them.
-/
import Logbook.Proofs.Rendering.Writes
import Logbook.Rendering.Value

namespace Logbook

variable {α ε : Type}

/-! ## 1. Commas in front -/

namespace Span

/-- Groups of spans with a comma in front of each, the first one perhaps excepted. -/
def separated (first : Bool) : List (List (Span Role)) → List (Span Role)
  | [] => []
  | group :: groups => (if first then [] else [mark ", "]) ++ group ++ separated false groups

theorem separated_true (groups : List (List (Span Role))) :
    separated true groups = commaJoin groups := by
  induction groups with
  | nil => rfl
  | cons group groups ih =>
    cases groups with
    | nil => simp [separated, commaJoin]
    | cons next groups =>
      rw [commaJoin, ← ih]
      · simp [separated]
      · simp

theorem separated_append (first : Bool) (xs ys : List (List (Span Role))) :
    separated first (xs ++ ys) = separated first xs ++ separated (first && xs.isEmpty) ys := by
  induction xs generalizing first with
  | nil => simp [separated]
  | cons x xs ih => simp [separated, ih]

end Span

theorem Counting.comma_eq (t : Theme) (first : Bool) :
    (comma t first : Counting α ε Unit) =
      tally (t.paint (if first then [] else [.mark ", "])) := by
  cases first with
  | true => exact tally_nil.symm
  | false => exact mark_eq t ", "

/-! ## 2. The display notation -/

namespace Display

open Counting

theorem visitScalar_eq (p : Provider) (t : Theme) (format : Option String) (s : Scalar) :
    (visitScalar p t format s : Counting α ε Unit) =
      tally (t.paint [scalarSpan p format s]) := inRole_eq t _ _

theorem visitTag_eq (t : Theme) (tag : Option String) :
    (visitTag t tag : Counting α ε Unit) = tally (t.paint (tagSpans tag)) := by
  cases tag with
  | none => exact tally_nil.symm
  | some tag =>
    rw [visitTag, inRole_eq, plain_eq t, ← tally_append]
    rfl

mutual
/-- **A value in display notation makes the writes of its spans.** -/
theorem visit_eq (p : Provider) (t : Theme) (format : Option String) : ∀ v : Value,
    (visit p t format v : Counting α ε Unit) = tally (t.paint (spans p format v))
  | .null => inRole_eq t .null "null"
  | .scalar s => visitScalar_eq p t format s
  | .sequence items => by
    rw [visit, visitItems_eq p t true items, mark_eq, mark_eq, Span.separated_true,
      ← tally_append, ← tally_append]
    simp [spans]
  | .record tag fields => by
    rw [visit, visitTag_eq, visitFields_eq p t true fields, mark_eq, mark_eq,
      Span.separated_true, ← tally_append, ← tally_append, ← tally_append]
    simp [spans]
  | .dictionary entries => by
    rw [visit, visitEntries_eq p t true entries, mark_eq, mark_eq, Span.separated_true,
      ← tally_append, ← tally_append]
    simp [spans]

theorem visitItems_eq (p : Provider) (t : Theme) (first : Bool) : ∀ items : List Value,
    (visitItems p t first items : Counting α ε Unit) =
      tally (t.paint (Span.separated first (itemSpans p items)))
  | [] => tally_nil.symm
  | v :: rest => by
    rw [visitItems, comma_eq, visit_eq p t none v, visitItems_eq p t false rest,
      ← tally_append, ← tally_append]
    simp [itemSpans, Span.separated]

theorem visitFields_eq (p : Provider) (t : Theme) (first : Bool) :
    ∀ fields : List (String × Value),
    (visitFields p t first fields : Counting α ε Unit) =
      tally (t.paint (Span.separated first (fieldSpans p fields)))
  | [] => tally_nil.symm
  | (name, v) :: rest => by
    rw [visitFields, comma_eq, inRole_eq, mark_eq, visit_eq p t none v,
      visitFields_eq p t false rest]
    simp only [← tally_append]
    simp [fieldSpans, Span.separated]

theorem visitEntries_eq (p : Provider) (t : Theme) (first : Bool) :
    ∀ entries : List (Value × Value),
    (visitEntries p t first entries : Counting α ε Unit) =
      tally (t.paint (Span.separated first (entrySpans p entries)))
  | [] => tally_nil.symm
  | (key, v) :: rest => by
    rw [visitEntries, comma_eq, mark_eq, visit_eq p t none key, mark_eq, visit_eq p t none v,
      visitEntries_eq p t false rest]
    simp only [← tally_append]
    simp [entrySpans, Span.separated]
end

theorem format_eq (p : Provider) (t : Theme) (f : Option String) (v : Value) :
    (format p t f v : Rendering α ε Nat) =
      (do Rendering.puts (t.paint (spans p f v)); pure (Span.styledCount (spans p f v))) := by
  rw [format, visit_eq, total_tally, Theme.paint, Span.styledCount_map]

/-- The text that is written is that of the spans, whatever the theme is. -/
theorem written_eq (p : Provider) (t : Theme) (f : Option String) (v : Value) :
    written p t f v = text p f v := by
  rw [written, format_eq, Rendering.collected_bind_pure, Rendering.collected_puts,
    Theme.texts_paint, text]

end Display

/-! ## 3. The JSON notation -/

namespace JsonNotation

open Counting

theorem visitScalar_eq (t : Theme) (s : Scalar) :
    (visitScalar t s : Counting α ε Unit) = tally (t.paint [scalarSpan s]) := inRole_eq t _ _

theorem writtenKey_eq (p : Provider) (t : Theme) (key : Value) :
    writtenKey p t key = keyText p key := by
  cases key with
  | null => rfl
  | scalar s => cases s <;> rfl
  | sequence items => rw [writtenKey, keyText, Display.written_eq] <;> simp
  | record tag fields => rw [writtenKey, keyText, Display.written_eq] <;> simp
  | dictionary entries => rw [writtenKey, keyText, Display.written_eq] <;> simp

theorem visitKey_eq (p : Provider) (t : Theme) (key : Value) :
    (visitKey p t key : Counting α ε Unit) = tally (t.paint [keySpan p key]) := by
  rw [visitKey, writtenKey_eq, inRole_eq]
  rfl

theorem visitTag_eq (t : Theme) (first : Bool) (tag : Option String) :
    (visitTag t first tag : Counting α ε Unit) =
      tally (t.paint (Span.separated first (tagGroups tag))) := by
  cases tag with
  | none => exact tally_nil.symm
  | some tag =>
    rw [visitTag, comma_eq, inRole_eq, mark_eq, inRole_eq]
    simp only [← tally_append]
    simp [tagGroups, Span.separated]

theorem isEmpty_fieldSpans (p : Provider) (fields : List (String × Value)) :
    (fieldSpans p fields).isEmpty = fields.isEmpty := by
  cases fields with
  | nil => rfl
  | cons field fields => rfl

theorem spans_false (p : Provider) (f : Option String) (v : Value) :
    spans p f false v = nested p v := by
  cases v <;> rfl

mutual
/-- **A value in JSON notation makes the writes of its spans.** -/
theorem visit_eq (p : Provider) (t : Theme) (format : Option String) (top : Bool) :
    ∀ v : Value,
    (visit p t format top v : Counting α ε Unit) = tally (t.paint (spans p format top v))
  | .null => inRole_eq t .null "null"
  | .scalar s => by
    cases top with
    | true => exact Display.visitScalar_eq p t format s
    | false => exact visitScalar_eq t s
  | .sequence items => by
    rw [visit, visitItems_eq p t true items, mark_eq, mark_eq, Span.separated_true,
      ← tally_append, ← tally_append]
    simp [spans, nested]
  | .record tag fields => by
    rw [visit, visitFields_eq p t true fields, visitTag_eq, mark_eq, mark_eq]
    simp only [← tally_append]
    simp [spans, nested, object, ← Span.separated_true, Span.separated_append,
      isEmpty_fieldSpans]
  | .dictionary entries => by
    rw [visit, visitEntries_eq p t true entries, mark_eq, mark_eq, Span.separated_true,
      ← tally_append, ← tally_append]
    simp [spans, nested, object]

theorem visitItems_eq (p : Provider) (t : Theme) (first : Bool) : ∀ items : List Value,
    (visitItems p t first items : Counting α ε Unit) =
      tally (t.paint (Span.separated first (itemSpans p items)))
  | [] => tally_nil.symm
  | v :: rest => by
    rw [visitItems, comma_eq, visit_eq p t none false v, visitItems_eq p t false rest,
      spans_false, ← tally_append, ← tally_append]
    simp [itemSpans, Span.separated]

theorem visitFields_eq (p : Provider) (t : Theme) (first : Bool) :
    ∀ fields : List (String × Value),
    (visitFields p t first fields : Counting α ε Unit) =
      tally (t.paint (Span.separated first (fieldSpans p fields)))
  | [] => tally_nil.symm
  | (name, v) :: rest => by
    rw [visitFields, comma_eq, inRole_eq, mark_eq, visit_eq p t none false v, spans_false,
      visitFields_eq p t false rest]
    simp only [← tally_append]
    simp [fieldSpans, Span.separated]

theorem visitEntries_eq (p : Provider) (t : Theme) (first : Bool) :
    ∀ entries : List (Value × Value),
    (visitEntries p t first entries : Counting α ε Unit) =
      tally (t.paint (Span.separated first (entrySpans p entries)))
  | [] => tally_nil.symm
  | (key, v) :: rest => by
    rw [visitEntries, comma_eq, visitKey_eq, mark_eq, visit_eq p t none false v, spans_false,
      visitEntries_eq p t false rest]
    simp only [← tally_append]
    simp [entrySpans, Span.separated]
end

theorem format_eq (p : Provider) (t : Theme) (f : Option String) (top : Bool) (v : Value) :
    (format p t f top v : Rendering α ε Nat) =
      (do
        Rendering.puts (t.paint (spans p f top v))
        pure (Span.styledCount (spans p f top v))) := by
  rw [format, visit_eq, total_tally, Theme.paint, Span.styledCount_map]

end JsonNotation

/-! ## 4. Either notation -/

theorem Notation.format_eq (n : Notation) (p : Provider) (t : Theme) (f : Option String)
    (top : Bool) (v : Value) :
    (n.format p t f top v : Rendering α ε Nat) =
      (do
        Rendering.puts (t.paint (n.spans p f top v))
        pure (Span.styledCount (n.spans p f top v))) := by
  cases n with
  | display => exact Display.format_eq p t f v
  | json => exact JsonNotation.format_eq p t f top v

end Logbook
