/-
# The document of a value

A value in the JSON notation is one JSON document, and a reader gets back the document that
one expects of the value (`read?_output_format`): nested containers with their parts in order,
the tag of a record as its last member, the keys of a dictionary as their texts, and strings
where JSON has no word.

`JsonNotation.document` is that document, said without regard to how it is written.  The
formatter prints it with a blank after each comma and colon (`chars_nested`), and a printed
document is read back as long as its numbers are numerals, which the texts of integers and of
finite data are (`spelled_document`).
-/
import Logbook.Proofs.Json.Reading
import Logbook.Proofs.Number.Numeral
import Logbook.Proofs.Rendering.Notation
import Logbook.Proofs.Timestamp.Charset

namespace Logbook

namespace JsonNotation

/-! ## 1. The expected document -/

/-- The document of a floating point datum, whose text is used if it is finite. -/
def floatDocument {p : Precision} (text : String) : Binary p → Json
  | .nan => .string "NaN"
  | .infinite false => .string "Infinity"
  | .infinite true => .string "-Infinity"
  | .finite .. => .number text

/-- The document of a scalar. -/
def scalarDocument : Scalar → Json
  | .string s | .other s => .string s
  | .integer n => .number (toString n.value)
  | .single x => floatDocument (Provider.invariant.scalarText (.single x) none) x
  | .double x => floatDocument (Provider.invariant.scalarText (.double x) none) x
  | .bool b => .bool b
  | .char c => .string (String.singleton c)
  | .instant t => .string (String.ofList t.roundTrip)

/-- The member for the tag of a record. -/
def tagMember : Option String → List (String × Json)
  | none => []
  | some tag => [("$type", .string tag)]

mutual
/-- The document of a value. -/
def document (p : Provider) : Value → Json
  | .null => .null
  | .scalar s => scalarDocument s
  | .sequence items => .array (itemDocuments p items)
  | .record tag fields => .object (fieldDocuments p fields ++ tagMember tag)
  | .dictionary entries => .object (entryDocuments p entries)

/-- The documents of the items of a sequence. -/
def itemDocuments (p : Provider) : List Value → List Json
  | [] => []
  | v :: rest => document p v :: itemDocuments p rest

/-- The members for the fields of a record. -/
def fieldDocuments (p : Provider) : List (String × Value) → List (String × Json)
  | [] => []
  | (name, v) :: rest => (name, document p v) :: fieldDocuments p rest

/-- The members for the entries of a dictionary. -/
def entryDocuments (p : Provider) : List (Value × Value) → List (String × Json)
  | [] => []
  | (key, v) :: rest => ((keyText p key).2, document p v) :: entryDocuments p rest
end

/-! ## 2. Numbers -/

open Json

theorem spelled_floatDocument {p : Precision} (x : Binary p) :
    Spelled (floatDocument (String.ofList x.text) x) := by
  cases x with
  | nan => trivial
  | infinite negative => cases negative <;> trivial
  | finite s m e h =>
    change isNumeral (String.ofList _).toList = true
    rw [String.toList_ofList]
    exact Binary.isNumeral_text rfl

theorem spelled_scalarDocument (s : Scalar) : Spelled (scalarDocument s) := by
  cases s with
  | integer n =>
    change isNumeral (toString n.value).toList = true
    rw [← ofList_signedDecimal, String.toList_ofList]
    exact isNumeral_signedDecimal n.value
  | single x => exact spelled_floatDocument x
  | double x => exact spelled_floatDocument x
  | _ => trivial

theorem spelledMembers_append {xs ys : List (String × Json)} (hx : SpelledMembers xs)
    (hy : SpelledMembers ys) : SpelledMembers (xs ++ ys) := by
  induction xs with
  | nil => exact hy
  | cons x xs ih => exact ⟨hx.1, ih hx.2⟩

theorem spelled_tagMember (tag : Option String) : SpelledMembers (tagMember tag) := by
  cases tag with
  | none => trivial
  | some tag => exact ⟨trivial, trivial⟩

mutual
/-- **Every number in the document of a value is a numeral.** -/
theorem spelled_document (p : Provider) : ∀ v : Value, Spelled (document p v)
  | .null => trivial
  | .scalar s => spelled_scalarDocument s
  | .sequence items => spelled_itemDocuments p items
  | .record tag fields =>
    spelledMembers_append (spelled_fieldDocuments p fields) (spelled_tagMember tag)
  | .dictionary entries => spelled_entryDocuments p entries

theorem spelled_itemDocuments (p : Provider) : ∀ items : List Value,
    SpelledItems (itemDocuments p items)
  | [] => trivial
  | v :: rest => ⟨spelled_document p v, spelled_itemDocuments p rest⟩

theorem spelled_fieldDocuments (p : Provider) : ∀ fields : List (String × Value),
    SpelledMembers (fieldDocuments p fields)
  | [] => trivial
  | (_, v) :: rest => ⟨spelled_document p v, spelled_fieldDocuments p rest⟩

theorem spelled_entryDocuments (p : Provider) : ∀ entries : List (Value × Value),
    SpelledMembers (entryDocuments p entries)
  | [] => trivial
  | (_, v) :: rest => ⟨spelled_document p v, spelled_entryDocuments p rest⟩
end

/-! ## 3. The printed document -/

theorem toList_quote (s : String) : (Text.quote s).toList = Text.quoteChars s.toList :=
  String.toList_ofList

theorem toList_floatText {p : Precision} (x : Binary p) :
    (floatText x).toList = printed [' '] (floatDocument (String.ofList x.text) x) := by
  cases x with
  | nan => exact toList_quote "NaN"
  | infinite negative =>
    cases negative with
    | false => exact toList_quote "Infinity"
    | true => exact toList_quote "-Infinity"
  | finite s m e h => rfl

theorem toList_scalarText (s : Scalar) :
    (scalarText s).toList = printed [' '] (scalarDocument s) := by
  cases s with
  | string s => exact toList_quote s
  | other s => exact toList_quote s
  | integer n =>
    change (String.ofList n.text).toList = (toString n.value).toList
    rw [← ofList_signedDecimal]
    rfl
  | single x => exact toList_floatText x
  | double x => exact toList_floatText x
  | bool b => cases b <;> rfl
  | char c => exact toList_quote _
  | instant t =>
    have hquote := Timestamp.quoteChars_roundTrip t
    rw [scalarText, scalarDocument, printed]
    simp [hquote]

theorem chars_commaJoin : ∀ groups : List (List (Span Role)),
    Span.chars (Span.commaJoin groups) = List.intercalate [',', ' '] (groups.map Span.chars)
  | [] => rfl
  | [group] => by rw [Span.commaJoin, List.map_singleton, List.intercalate_singleton]
  | group :: next :: groups => by
    have hrest := chars_commaJoin (next :: groups)
    have hmark : (Span.mark ", ").text.toList = [',', ' '] := by decide
    have hcons : Span.commaJoin (group :: next :: groups)
        = group ++ .mark ", " :: Span.commaJoin (next :: groups) := rfl
    rw [hcons, Span.chars_append, Span.chars_cons, hmark, hrest, List.map_cons, List.map_cons,
      List.map_cons, List.intercalate_cons_cons, List.append_assoc]

theorem chars_object (groups : List (List (Span Role))) :
    Span.chars (object groups)
      = '{' :: (List.intercalate [',', ' '] (groups.map Span.chars) ++ ['}']) := by
  have hopen : (Span.mark "\x7b").text.toList = ['{'] := by decide
  have hclose : (Span.mark "\x7d").text.toList = ['}'] := by decide
  rw [object, Span.chars_cons, Span.chars_append, Span.chars_cons, hopen, hclose,
    chars_commaJoin, Span.chars_nil]
  rfl

/-- A named part of an object prints as a member. -/
theorem chars_member (role : Role) (name : String) (spans : List (Span Role)) :
    Span.chars (.inRole role (Text.quote name) :: .mark ": " :: spans)
      = Text.quoteChars name.toList ++ ':' :: ([' '] ++ Span.chars spans) := by
  have hmark : (Span.mark ": ").text.toList = [':', ' '] := by decide
  rw [Span.chars_cons, Span.chars_cons, hmark, Span.inRole, toList_quote]
  rfl

theorem chars_tagGroups (tag : Option String) :
    (tagGroups tag).map Span.chars = printedMembers [' '] (tagMember tag) := by
  cases tag with
  | none => rfl
  | some tag =>
    have hname : "\"$type\"" = Text.quote "$type" := by decide
    have htag : Span.chars [.inRole .string (Text.quote tag)] = Text.quoteChars tag.toList := by
      rw [Span.chars_cons, Span.chars_nil, List.append_nil]
      exact toList_quote tag
    rw [tagGroups, hname, List.map_singleton, chars_member, htag]
    rfl

theorem printedMembers_append (gap : List Char) (xs ys : List (String × Json)) :
    printedMembers gap (xs ++ ys) = printedMembers gap xs ++ printedMembers gap ys := by
  induction xs with
  | nil => rfl
  | cons x xs ih =>
    obtain ⟨name, doc⟩ := x
    rw [List.cons_append, printedMembers, printedMembers, ih, List.cons_append]

mutual
/-- **The formatter prints the document**, with a blank after each comma and colon. -/
theorem chars_nested (p : Provider) : ∀ v : Value,
    Span.chars (nested p v) = printed [' '] (document p v)
  | .null => rfl
  | .scalar s => by
    rw [document, ← toList_scalarText]
    exact List.append_nil _
  | .sequence items => by
    have hopen : (Span.mark "[").text.toList = ['['] := by decide
    have hclose : (Span.mark "]").text.toList = [']'] := by decide
    rw [nested, document, printed, Span.chars_cons, Span.chars_append, Span.chars_cons, hopen,
      hclose, chars_commaJoin, chars_itemSpans p items, Span.chars_nil]
    rfl
  | .record tag fields => by
    rw [nested, document, printed, chars_object, List.map_append, chars_fieldSpans p fields,
      chars_tagGroups, printedMembers_append]
  | .dictionary entries => by
    rw [nested, document, printed, chars_object, chars_entrySpans p entries]

theorem chars_itemSpans (p : Provider) : ∀ items : List Value,
    (itemSpans p items).map Span.chars = printedItems [' '] (itemDocuments p items)
  | [] => rfl
  | v :: rest => by
    rw [itemSpans, List.map_cons, chars_nested p v, chars_itemSpans p rest]
    rfl

theorem chars_fieldSpans (p : Provider) : ∀ fields : List (String × Value),
    (fieldSpans p fields).map Span.chars = printedMembers [' '] (fieldDocuments p fields)
  | [] => rfl
  | (name, v) :: rest => by
    rw [fieldSpans, List.map_cons, chars_member, chars_nested p v, chars_fieldSpans p rest]
    rfl

theorem chars_entrySpans (p : Provider) : ∀ entries : List (Value × Value),
    (entrySpans p entries).map Span.chars = printedMembers [' '] (entryDocuments p entries)
  | [] => rfl
  | (key, v) :: rest => by
    rw [entrySpans, keySpan, List.map_cons, chars_member, chars_nested p v,
      chars_entrySpans p rest]
    rfl
end

/-! ## 4. Reading the output -/

theorem spans_of_nested (p : Provider) (f : Option String) {top : Bool} {v : Value}
    (h : v.scalar? = none ∨ top = false) : spans p f top v = nested p v := by
  rcases h with h | rfl
  · cases v with
    | scalar s => exact absurd h (by simp [Value.scalar?])
    | _ => rfl
  · exact spans_false p f v

/-- **What the formatter writes is the document of the value.**  Below the top, and for
containers and null also at the top, the text that reaches the sink is one JSON document, and
a reader gets the expected tree from it, whatever theme, provider and format are given. -/
theorem read?_output_format (p : Provider) (t : Theme) (f : Option String) (top : Bool)
    (v : Value) (h : v.scalar? = none ∨ top = false) :
    read? (format p t f top v).captured.output = some (document p v) := by
  have houtput : (format p t f top v).captured.output
      = String.ofList (printed [' '] (document p v)) := by
    rw [format_eq, Rendering.captured_bind_pure, Capture.output, Theme.texts_paint,
      spans_of_nested p f h, ← chars_nested, ← Span.toList_texts, String.ofList_toList]
  rw [houtput]
  exact read?_printed (List.all_eq_true.mp (by decide)) (spelled_document p v)

/-- A tagged record with a quote in a name, a NaN, a control character and a null as a key. -/
theorem read?_output_format_record :
    read? (format Provider.invariant Theme.empty (some "x") true
        (.record (some "T")
          [("a\"b", .sequence [.scalar (.double .nan), .null]),
           ("k", .dictionary [(.null, .scalar (.char '\n'))])])).captured.output
      = some (.object
          [("a\"b", .array [.string "NaN", .null]), ("k", .object [("null", .string "\n")]),
           ("$type", .string "T")]) :=
  read?_output_format Provider.invariant Theme.empty (some "x") true _ (.inl rfl)

end JsonNotation

end Logbook
