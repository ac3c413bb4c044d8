/-
# Reading what was written

A document that is written with blanks after its commas and colons, as many as one likes, is
read back exactly (`read?_printed`), members in order and numbers in their spelling.

Reading has two stages and so has the argument.  The text gives the lexemes of the document
(`lexes_printed`), and these, pushed one by one, leave the document on the stack of open
containers (`run_lexemes`).  Only numbers can go wrong, since their spelling is free: it has
to be a numeral (`Spelled`).
-/
import Logbook.Proofs.Json.Lexing
import Mathlib.Data.List.TakeWhile

namespace Logbook

namespace Json

/-! ## 1. Numerals are words -/

/-- The second text is left after some characters of words at the front of the first. -/
def Peels (s rest : List Char) : Prop :=
  ∃ front : List Char, s = front ++ rest ∧ ∀ c ∈ front, isWordChar c = true

theorem Peels.refl (s : List Char) : Peels s s := ⟨[], rfl, by simp⟩

theorem Peels.cons {c : Char} {s rest : List Char} (hc : isWordChar c = true)
    (h : Peels s rest) : Peels (c :: s) rest := by
  obtain ⟨front, rfl, hfront⟩ := h
  refine ⟨c :: front, rfl, fun d hd => ?_⟩
  rcases List.mem_cons.mp hd with rfl | hd
  · exact hc
  · exact hfront d hd

theorem Peels.trans {s t u : List Char} (h : Peels s t) (h' : Peels t u) : Peels s u := by
  obtain ⟨front, rfl, hfront⟩ := h
  obtain ⟨front', rfl, hfront'⟩ := h'
  refine ⟨front ++ front', (List.append_assoc _ _ _).symm, fun c hc => ?_⟩
  rcases List.mem_append.mp hc with hc | hc
  · exact hfront c hc
  · exact hfront' c hc

theorem isWordChar_of_isDigit {c : Char} (h : c.isDigit = true) : isWordChar c = true := by
  simp [isWordChar, Char.isAlphanum, h]

theorem peels_of_afterDigits? {s rest : List Char} (h : afterDigits? s = some rest) :
    Peels s rest := by
  cases s with
  | nil => exact absurd h (by simp [afterDigits?])
  | cons c s =>
    obtain ⟨hc, hrest⟩ := Option.ite_none_right_eq_some.mp h
    obtain rfl := Option.some.inj hrest
    refine ⟨c :: s.takeWhile Char.isDigit, ?_, fun d hd => ?_⟩
    · rw [List.cons_append, List.takeWhile_append_dropWhile]
    · rcases List.mem_cons.mp hd with rfl | hd
      · exact isWordChar_of_isDigit hc
      · exact isWordChar_of_isDigit (List.mem_takeWhile_imp hd)

theorem peels_of_afterWhole? {s rest : List Char} (h : afterWhole? s = some rest) :
    Peels s rest := by
  unfold afterWhole? at h
  split at h
  · obtain rfl := Option.some.inj h
    exact (Peels.refl _).cons (by decide)
  · exact peels_of_afterDigits? h

theorem peels_of_afterFraction? {s rest : List Char} (h : afterFraction? s = some rest) :
    Peels s rest := by
  unfold afterFraction? at h
  split at h
  · exact (peels_of_afterDigits? h).cons (by decide)
  · obtain rfl := Option.some.inj h
    exact Peels.refl _

theorem peels_of_afterExponent? {s rest : List Char} (h : afterExponent? s = some rest) :
    Peels s rest := by
  unfold afterExponent? at h
  split at h
  · split at h
    · rename_i c s hc
      have hletter : isWordChar c = true := by rcases hc with rfl | rfl <;> decide
      split at h
      · exact ((peels_of_afterDigits? h).cons (by decide)).cons hletter
      · exact ((peels_of_afterDigits? h).cons (by decide)).cons hletter
      · exact (peels_of_afterDigits? h).cons hletter
    · obtain rfl := Option.some.inj h
      exact Peels.refl _
  · obtain rfl := Option.some.inj h
    exact Peels.refl _

/-- **A numeral is a bare word.** -/
theorem wordChars_of_isNumeral {s : List Char} (h : isNumeral s = true) :
    s ≠ [] ∧ ∀ c ∈ s, isWordChar c = true := by
  have hpeels : ∀ {u : List Char}, (afterWhole? u >>= afterFraction? >>= afterExponent?) = some [] →
      Peels u [] := by
    intro u hu
    obtain ⟨v, hv, hexponent⟩ := Option.bind_eq_some_iff.mp hu
    obtain ⟨w, hwhole, hfraction⟩ := Option.bind_eq_some_iff.mp hv
    exact (peels_of_afterWhole? hwhole).trans
      ((peels_of_afterFraction? hfraction).trans (peels_of_afterExponent? hexponent))
  have hall : Peels s [] := by
    simp only [isNumeral, beq_iff_eq] at h
    split at h
    · exact (hpeels h).cons (by decide)
    · exact hpeels h
  refine ⟨?_, ?_⟩
  · rintro rfl
    exact absurd h (by decide)
  · obtain ⟨front, hs, hfront⟩ := hall
    rw [hs, List.append_nil]
    exact hfront

/-! ## 2. The lexemes of a document -/

mutual
/-- The lexemes that a document is written with. -/
def lexemes : Json → List Lexeme
  | .null => [.word ['n', 'u', 'l', 'l']]
  | .bool true => [.word ['t', 'r', 'u', 'e']]
  | .bool false => [.word ['f', 'a', 'l', 's', 'e']]
  | .number spelling => [.word spelling.toList]
  | .string s => [.text s.toList]
  | .array items =>
    .openBracket :: (List.intercalate [.comma] (itemLexemes items) ++ [.closeBracket])
  | .object members =>
    .openBrace :: (List.intercalate [.comma] (memberLexemes members) ++ [.closeBrace])

/-- The lexemes of each item. -/
def itemLexemes : List Json → List (List Lexeme)
  | [] => []
  | doc :: docs => lexemes doc :: itemLexemes docs

/-- The lexemes of each member. -/
def memberLexemes : List (String × Json) → List (List Lexeme)
  | [] => []
  | (name, doc) :: docs => (.text name.toList :: .colon :: lexemes doc) :: memberLexemes docs
end

mutual
/-- The text of a document with a gap after each comma and colon. -/
def printed (gap : List Char) : Json → List Char
  | .null => ['n', 'u', 'l', 'l']
  | .bool true => ['t', 'r', 'u', 'e']
  | .bool false => ['f', 'a', 'l', 's', 'e']
  | .number spelling => spelling.toList
  | .string s => Text.quoteChars s.toList
  | .array items => '[' :: (List.intercalate (',' :: gap) (printedItems gap items) ++ [']'])
  | .object members =>
    '{' :: (List.intercalate (',' :: gap) (printedMembers gap members) ++ ['}'])

/-- The text of each item. -/
def printedItems (gap : List Char) : List Json → List (List Char)
  | [] => []
  | doc :: docs => printed gap doc :: printedItems gap docs

/-- The text of each member. -/
def printedMembers (gap : List Char) : List (String × Json) → List (List Char)
  | [] => []
  | (name, doc) :: docs =>
    (Text.quoteChars name.toList ++ ':' :: (gap ++ printed gap doc)) :: printedMembers gap docs
end

mutual
/-- Every number of the document is spelled as a numeral. -/
def Spelled : Json → Prop
  | .number spelling => isNumeral spelling.toList = true
  | .array items => SpelledItems items
  | .object members => SpelledMembers members
  | _ => True

/-- Every number of the items is spelled as a numeral. -/
def SpelledItems : List Json → Prop
  | [] => True
  | doc :: docs => Spelled doc ∧ SpelledItems docs

/-- Every number of the members is spelled as a numeral. -/
def SpelledMembers : List (String × Json) → Prop
  | [] => True
  | (_, doc) :: docs => Spelled doc ∧ SpelledMembers docs
end

mutual
/-- **A printed document gives its lexemes.** -/
theorem lexes_printed {gap : List Char} (hgap : ∀ c ∈ gap, isSpace c = true) :
    ∀ doc : Json, Spelled doc → Lexes (printed gap doc) (lexemes doc)
  | .null, _ => .word (s := ['n', 'u', 'l', 'l']) (by simp) (List.all_eq_true.mp (by decide))
  | .bool true, _ => .word (s := ['t', 'r', 'u', 'e']) (by simp) (List.all_eq_true.mp (by decide))
  | .bool false, _ =>
    .word (s := ['f', 'a', 'l', 's', 'e']) (by simp) (List.all_eq_true.mp (by decide))
  | .number _, h => .word (wordChars_of_isNumeral h).1 (wordChars_of_isNumeral h).2
  | .string s, _ => .text s.toList
  | .array items, h => by
    have hitems := Lexes.intercalate hgap (lexes_printedItems hgap items h)
    have hstop : Stops [']'] := (by decide : isWordChar ']' = false)
    exact .cons_mark (by decide) (hitems.append (.mark (by decide)) hstop)
  | .object members, h => by
    have hmembers := Lexes.intercalate hgap (lexes_printedMembers hgap members h)
    have hstop : Stops ['}'] := (by decide : isWordChar '}' = false)
    exact .cons_mark (by decide) (hmembers.append (.mark (by decide)) hstop)

theorem lexes_printedItems {gap : List Char} (hgap : ∀ c ∈ gap, isSpace c = true) :
    ∀ docs : List Json, SpelledItems docs →
      List.Forall₂ Lexes (printedItems gap docs) (itemLexemes docs)
  | [], _ => .nil
  | doc :: docs, h => .cons (lexes_printed hgap doc h.1) (lexes_printedItems hgap docs h.2)

theorem lexes_printedMembers {gap : List Char} (hgap : ∀ c ∈ gap, isSpace c = true) :
    ∀ docs : List (String × Json), SpelledMembers docs →
      List.Forall₂ Lexes (printedMembers gap docs) (memberLexemes docs)
  | [], _ => .nil
  | (name, doc) :: docs, h => by
    have hdoc := Lexes.append_spaces hgap (lexes_printed hgap doc h.1)
    have hcolon : isWordChar ':' = false := by decide
    exact .cons ((Lexes.text name.toList).append (.cons_mark (by decide) hdoc) hcolon)
      (lexes_printedMembers hgap docs h.2)
end

/-! ## 3. Pushing the lexemes -/

theorem run_cons (r : Reading) (x : Lexeme) (xs : List Lexeme) :
    run r (x :: xs) = (step r x).bind (run · xs) := List.foldlM_cons

theorem step_value (stack : List Frame) (x : Lexeme) :
    step (.value stack) x = begin? stack x := rfl

theorem step_nextName_text (members : List (String × Json)) (stack : List Frame)
    (s : List Char) :
    step (.nextName members stack) (.text s) = some (.colon members (String.ofList s) stack) := rfl

/-- The first lexeme of a document begins a value. -/
theorem run_item_lexemes (doc : Json) (stack : List Frame) (rest : List Lexeme) :
    run (.item stack) (lexemes doc ++ rest)
      = run (.value (.array [] :: stack)) (lexemes doc ++ rest) := by
  cases doc with
  | bool b => cases b <;> rfl
  | _ => rfl

theorem exists_intercalate_cons {α : Type} (sep x : List α) (xs : List (List α)) :
    ∃ rest, List.intercalate sep (x :: xs) = x ++ rest := by
  cases xs with
  | nil => exact ⟨[], by rw [List.intercalate_singleton, List.append_nil]⟩
  | cons y xs => exact ⟨_, by rw [List.intercalate_cons_cons, List.append_assoc]⟩

theorem ofWord?_of_isNumeral {s : List Char} (h : isNumeral s = true) :
    ofWord? s = some (.number (String.ofList s)) := by
  have hne : ∀ t : List Char, isNumeral t = false → s ≠ t := by
    rintro t ht rfl
    exact absurd (h.symm.trans ht) (by decide)
  rw [ofWord?, if_neg (hne _ (by decide)), if_neg (hne _ (by decide)), if_neg (hne _ (by decide)),
    if_pos h]

/-- Pushed where a value must come, the lexemes of the document have the effect of that value,
whatever containers are open. -/
def Pushes (doc : Json) : Prop :=
  ∀ stack : List Frame, run (.value stack) (lexemes doc) = some (close doc stack)

/-- The items that are left, and the end of the array. -/
theorem run_itemLexemes {docs : List Json} (h : ∀ doc ∈ docs, Pushes doc) (hne : docs ≠ [])
    (items : List Json) (stack : List Frame) :
    run (.value (.array items :: stack))
        (List.intercalate [.comma] (itemLexemes docs) ++ [.closeBracket])
      = some (close (.array (items.reverse ++ docs)) stack) := by
  induction docs generalizing items with
  | nil => exact absurd rfl hne
  | cons doc docs ih =>
    have hdoc := h doc List.mem_cons_self (.array items :: stack)
    cases docs with
    | nil =>
      rw [itemLexemes, itemLexemes, List.intercalate_singleton, run_append, hdoc,
        ← List.reverse_cons]
      rfl
    | cons next docs =>
      have hrest := ih (fun d hd => h d (List.mem_cons_of_mem _ hd)) (by simp) (doc :: items)
      rw [List.reverse_cons, List.append_assoc, List.singleton_append] at hrest
      rw [itemLexemes, itemLexemes, List.intercalate_cons_cons, List.append_assoc,
        List.append_assoc, run_append, hdoc, ← itemLexemes]
      exact hrest

/-- The members that are left, and the end of the object. -/
theorem run_memberLexemes {docs : List (String × Json)} (h : ∀ m ∈ docs, Pushes m.2)
    (hne : docs ≠ []) (members : List (String × Json)) (stack : List Frame) :
    run (.nextName members stack)
        (List.intercalate [.comma] (memberLexemes docs) ++ [.closeBrace])
      = some (close (.object (members.reverse ++ docs)) stack) := by
  induction docs generalizing members with
  | nil => exact absurd rfl hne
  | cons member docs ih =>
    obtain ⟨name, doc⟩ := member
    have hdoc := h (name, doc) List.mem_cons_self (.object members name :: stack)
    -- The name and the colon bring the reading to the place of the value.
    have hname : ∀ rest : List Lexeme,
        run (.nextName members stack) ((.text name.toList :: .colon :: lexemes doc) ++ rest)
          = run (.after (.object members name) doc stack) rest := by
      intro rest
      rw [List.cons_append, List.cons_append, run_cons, step_nextName_text, String.ofList_toList]
      change run (.value (.object members name :: stack)) (lexemes doc ++ rest) = _
      rw [run_append, hdoc]
      rfl
    cases docs with
    | nil =>
      rw [memberLexemes, memberLexemes, List.intercalate_singleton, hname, ← List.reverse_cons]
      rfl
    | cons next docs =>
      have hrest := ih (fun m hm => h m (List.mem_cons_of_mem _ hm)) (by simp)
        ((name, doc) :: members)
      rw [List.reverse_cons, List.append_assoc, List.singleton_append] at hrest
      rw [memberLexemes]
      obtain ⟨name', next⟩ := next
      rw [memberLexemes, List.intercalate_cons_cons, List.append_assoc, List.append_assoc, hname,
        ← memberLexemes]
      exact hrest

theorem Pushes.array {docs : List Json} (h : ∀ doc ∈ docs, Pushes doc) :
    Pushes (.array docs) := by
  intro stack
  cases docs with
  | nil => rfl
  | cons doc docs =>
    have hitems := run_itemLexemes h (by simp) [] stack
    obtain ⟨rest, hrest⟩ := exists_intercalate_cons [.comma] (lexemes doc) (itemLexemes docs)
    rw [itemLexemes, hrest, List.append_assoc, ← run_item_lexemes] at hitems
    rw [lexemes, itemLexemes, hrest, List.append_assoc, run_cons]
    exact hitems

theorem Pushes.object {docs : List (String × Json)} (h : ∀ m ∈ docs, Pushes m.2) :
    Pushes (.object docs) := by
  intro stack
  cases docs with
  | nil => rfl
  | cons member docs =>
    obtain ⟨name, doc⟩ := member
    have hmembers := run_memberLexemes h (by simp) [] stack
    obtain ⟨rest, hrest⟩ := exists_intercalate_cons [.comma]
      (.text name.toList :: .colon :: lexemes doc) (memberLexemes docs)
    rw [memberLexemes, hrest, List.append_assoc] at hmembers
    rw [lexemes, memberLexemes, hrest, List.append_assoc, run_cons]
    -- The first name of an object is taken as any other is.
    exact hmembers

mutual
/-- **The lexemes of a document leave the document.** -/
theorem run_lexemes : ∀ doc : Json, Spelled doc → Pushes doc
  | .null, _ => fun _ => rfl
  | .bool true, _ => fun _ => rfl
  | .bool false, _ => fun _ => rfl
  | .number spelling, h => by
    intro stack
    rw [lexemes, run_cons, step_value, begin?, ofWord?_of_isNumeral h, String.ofList_toList]
    rfl
  | .string s, _ => by
    intro stack
    rw [lexemes, run_cons, step_value, begin?, String.ofList_toList]
    rfl
  | .array docs, h => .array (run_items docs h)
  | .object docs, h => .object (run_members docs h)

theorem run_items : ∀ docs : List Json, SpelledItems docs → ∀ doc ∈ docs, Pushes doc
  | [], _ => by simp
  | doc :: docs, h => by
    intro d hd
    rcases List.mem_cons.mp hd with hd | hd
    · rw [hd]
      exact run_lexemes doc h.1
    · exact run_items docs h.2 d hd

theorem run_members : ∀ docs : List (String × Json), SpelledMembers docs →
    ∀ m ∈ docs, Pushes m.2
  | [], _ => by simp
  | (name, doc) :: docs, h => by
    intro m hm
    rcases List.mem_cons.mp hm with hm | hm
    · rw [hm]
      exact run_lexemes doc h.1
    · exact run_members docs h.2 m hm
end

/-! ## 4. Reading -/

/-- **A printed document is read back**, whatever blanks stand after its commas and colons. -/
theorem read?_printed {gap : List Char} (hgap : ∀ c ∈ gap, isSpace c = true) {doc : Json}
    (h : Spelled doc) : read? (String.ofList (printed gap doc)) = some doc := by
  have hlex : lex (printed gap doc) = some (lexemes doc) := by
    have hall := lexes_printed hgap doc h [] trivial
    rw [List.append_nil] at hall
    rw [hall, lex]
    simp
  have hrun : run (.value []) (lexemes doc) = some (.done doc) := run_lexemes doc h []
  rw [read?, String.toList_ofList, hlex, Option.bind_some, hrun]

end Json

end Logbook
