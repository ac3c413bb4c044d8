/-
# Documents that pass through unchanged

A JSON document that is captured as a value and written in the JSON notation is read back as
the same document, with its items and members in their order, at any depth
(`read?_format_ofJson`).  The one condition is on its numbers: they are integers of a 64-bit
word, signed or unsigned.  Any other number becomes a double, whose text need not be the
spelling that it came from.

The argument compares two trees.  Capturing keeps the shape of a document, and so does the
document that one expects of a value, so that they undo each other follows constructor by
constructor (`document_ofJson`).  At the leaves it says that an integer is read from its own
text (`readInteger?_signedDecimal`), and that one of the two kinds of words holds it.
-/
import Logbook.Proofs.Json.Document
import Logbook.Value.OfJson

namespace Logbook

/-! ## 1. Integers and their texts -/

namespace Value

theorem readNatural?_decimal (n : Nat) : readNatural? (decimal n) = some n := by
  have hne : decimal n ≠ [] := Nat.toDigits_ne_nil
  have hdigits : (decimal n).all Char.isDigit = true :=
    List.all_eq_true.mpr fun c hc => isDigit_of_mem_decimal hc
  have hvalue : Binary.readDigits 0 (decimal n) = n := Nat.ofDigitChars_ten_toDigits
  rw [readNatural?, if_pos ⟨hne, hdigits⟩, hvalue]

/-- **An integer is read from its own text.** -/
theorem readInteger?_signedDecimal (n : Int) : readInteger? (signedDecimal n) = some n := by
  unfold signedDecimal
  split
  · rename_i hneg
    have hvalue : -(n.natAbs : Int) = n := by omega
    rw [readInteger?, readNatural?_decimal]
    exact congrArg some hvalue
  · rename_i hneg
    have hvalue : (n.natAbs : Int) = n := by omega
    have hsign : ∀ digits, decimal n.natAbs = '-' :: digits → False := by
      intro digits h
      have hmem : '-' ∈ decimal n.natAbs := h ▸ List.mem_cons_self
      exact absurd (isDigit_of_mem_decimal hmem) (by decide)
    rw [readInteger?.eq_2 _ hsign, readNatural?_decimal]
    exact congrArg some hvalue

/-- The text of zero has no sign. -/
theorem not_zero_signed (n : Int) : ¬ (n = 0 ∧ (signedDecimal n).head? = some '-') := by
  rintro ⟨rfl, h⟩
  exact absurd h (by decide)

/-- A kind of machine integers holds the integer. -/
def Holds (kind : IntegerKind) (n : Int) : Prop := kind.least ≤ n ∧ n ≤ kind.greatest

/-- The integer is in the range of the signed or of the unsigned word of 64 bits. -/
def IsWord (n : Int) : Prop := Holds .signed64 n ∨ Holds .unsigned64 n

theorem ofInt?_of_holds {kind : IntegerKind} {n : Int} (h : Holds kind n) :
    ofInt? kind n = some (.scalar (.integer ⟨kind, n, h.1, h.2⟩)) := by
  have hint : Integer.ofInt? kind n = some ⟨kind, n, h.1, h.2⟩ := dif_pos h
  rw [ofInt?, hint]
  rfl

theorem ofInt?_of_not_holds {kind : IntegerKind} {n : Int} (h : ¬ Holds kind n) :
    ofInt? kind n = none := by
  have hint : Integer.ofInt? kind n = none := dif_neg h
  rw [ofInt?, hint]
  rfl

/-- The numeral of a word becomes an integer with its value. -/
theorem ofNumeral_signedDecimal {n : Int} (h : IsWord n) :
    ∃ i : Integer, i.value = n ∧ ofNumeral (signedDecimal n) = .scalar (.integer i) := by
  rw [ofNumeral, readInteger?_signedDecimal]
  simp only [if_neg (not_zero_signed n)]
  by_cases hsigned : Holds .signed64 n
  · rw [ofInt?_of_holds hsigned]
    exact ⟨_, rfl, rfl⟩
  · have hunsigned : Holds .unsigned64 n := h.resolve_left hsigned
    rw [ofInt?_of_not_holds hsigned, ofInt?_of_holds hunsigned]
    exact ⟨_, rfl, rfl⟩

end Value

/-! ## 2. Capturing and the expected document -/

namespace Json

mutual
/-- Every number of the document is written as an integer of a 64-bit word. -/
def Words : Json → Prop
  | .number spelling => ∃ n : Int, spelling = toString n ∧ Value.IsWord n
  | .array items => WordItems items
  | .object members => WordMembers members
  | _ => True

/-- Every number of the items is an integer of a 64-bit word. -/
def WordItems : List Json → Prop
  | [] => True
  | doc :: docs => Words doc ∧ WordItems docs

/-- Every number of the members is an integer of a 64-bit word. -/
def WordMembers : List (String × Json) → Prop
  | [] => True
  | (_, doc) :: docs => Words doc ∧ WordMembers docs
end

end Json

namespace JsonNotation

open Json

theorem document_ofNumeral (p : Provider) {n : Int} (h : Value.IsWord n) :
    document p (.ofNumeral (toString n).toList) = .number (toString n) := by
  obtain ⟨i, hi, hvalue⟩ := Value.ofNumeral_signedDecimal h
  rw [← ofList_signedDecimal, String.toList_ofList, hvalue, document, scalarDocument, hi,
    ofList_signedDecimal]

mutual
/-- **The expected document of a captured document is that document.** -/
theorem document_ofJson (p : Provider) : ∀ doc : Json, Words doc →
    document p (.ofJson doc) = doc
  | .null, _ => rfl
  | .bool _, _ => rfl
  | .number _, ⟨n, hspelling, hword⟩ => by
    rw [hspelling]
    exact document_ofNumeral p hword
  | .string _, _ => rfl
  | .array items, h => by
    rw [Value.ofJson, document, itemDocuments_ofJsonItems p items h]
  | .object members, h => by
    rw [Value.ofJson, document, fieldDocuments_ofJsonMembers p members h]
    exact congrArg Json.object (List.append_nil members)

theorem itemDocuments_ofJsonItems (p : Provider) : ∀ docs : List Json, WordItems docs →
    itemDocuments p (Value.ofJsonItems docs) = docs
  | [], _ => rfl
  | doc :: docs, h => by
    rw [Value.ofJsonItems, itemDocuments, document_ofJson p doc h.1,
      itemDocuments_ofJsonItems p docs h.2]

theorem fieldDocuments_ofJsonMembers (p : Provider) : ∀ docs : List (String × Json),
    WordMembers docs → fieldDocuments p (Value.ofJsonMembers docs) = docs
  | [], _ => rfl
  | (name, doc) :: docs, h => by
    rw [Value.ofJsonMembers, fieldDocuments, document_ofJson p doc h.1,
      fieldDocuments_ofJsonMembers p docs h.2]
end

/-! ## 3. Through the notation and back -/

/-- What is written for a value where the rules of JSON apply. -/
theorem output_format (p : Provider) (t : Theme) (f : Option String) {top : Bool} {v : Value}
    (h : v.scalar? = none ∨ top = false) :
    (format p t f top v).captured.output = String.ofList (printed [' '] (document p v)) := by
  rw [format_eq, Rendering.captured_bind_pure, Capture.output, Theme.texts_paint,
    spans_of_nested p f h, ← chars_nested, ← Span.toList_texts, String.ofList_toList]

theorem scalar?_ofJson {doc : Json}
    (h : (∃ items, doc = .array items) ∨ ∃ members, doc = .object members) :
    (Value.ofJson doc).scalar? = none := by
  rcases h with ⟨items, rfl⟩ | ⟨members, rfl⟩
  · rfl
  · rfl

/-- **A captured document is written as it was.**  A document whose numbers are integers of a
64-bit word becomes a value, the value is written in the JSON notation, and a reader gets the
document back: below the top any document, and at the top an array or an object. -/
theorem read?_format_ofJson (p : Provider) (t : Theme) (f : Option String) (top : Bool)
    (doc : Json) (hwords : Words doc)
    (h : top = false ∨ (∃ items, doc = .array items) ∨ ∃ members, doc = .object members) :
    read? (format p t f top (.ofJson doc)).captured.output = some doc := by
  have hplace : (Value.ofJson doc).scalar? = none ∨ top = false := h.symm.imp_left scalar?_ofJson
  have hspelled : Spelled doc := by
    rw [← document_ofJson p doc hwords]
    exact spelled_document p _
  rw [output_format p t f hplace, document_ofJson p doc hwords]
  exact read?_printed (List.all_eq_true.mp (by decide)) hspelled

/-- The ends of both ranges, a key that needs escapes, and empty containers. -/
theorem read?_format_ofJson_nested :
    let doc : Json := .object
      [("a\"\n", .array [.number (toString IntegerKind.signed64.least),
          .number (toString IntegerKind.unsigned64.greatest)]),
       ("", .object []), ("b", .array [.array [], .null, .string "\\u0000", .bool false])]
    Words doc ∧
    read? (format Provider.worded Theme.empty none true (.ofJson doc)).captured.output
      = some doc := by
  intro doc
  have hleast : Value.IsWord IntegerKind.signed64.least := .inl ⟨by decide, by decide⟩
  have hgreatest : Value.IsWord IntegerKind.unsigned64.greatest := .inr ⟨by decide, by decide⟩
  have hrest : WordItems [.array [], .null, .string "\\u0000", .bool false] :=
    ⟨trivial, trivial, trivial, trivial, trivial⟩
  have hwords : Words doc :=
    ⟨⟨⟨_, rfl, hleast⟩, ⟨_, rfl, hgreatest⟩, trivial⟩, trivial, hrest, trivial⟩
  exact ⟨hwords, read?_format_ofJson Provider.worded Theme.empty none true doc hwords
    (.inr (.inr ⟨_, rfl⟩))⟩

end JsonNotation

end Logbook
