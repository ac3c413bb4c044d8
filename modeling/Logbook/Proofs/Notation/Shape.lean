/-
# The display notation is uniquely readable

The display notation uses few marks for many things: a bracket opens a sequence and the key of an
entry, a brace opens a record and a dictionary, and names and tags may hold any text, marks
included.  Still, the spans of a value with their roles tell its shape: how nulls, scalars,
sequences, records and dictionaries are nested, the tags and the names of fields, and the role
and the text of every scalar.  The only two shapes that are written alike are an empty record
without a tag and an empty dictionary (`same_spans_iff`).

The argument reads from the left, as a person would.

* The first span tells the kind of a value (`opening`), except that a brace may open a record or a
  dictionary.  These differ in the next span, unless there is nothing between the braces
  (`fields_ne_entries`).
* No item, field or entry begins with the mark that closes its container, so it is seen whether
  there is one more, and all of them can be read one by one (`separated_inj`).
* So every value can be read in front of any other spans, and it is seen where it ends
  (`Readable`).  This is the statement that goes through the recursion: a container is readable
  if its parts are.

Roles are told by their styles if no two of them have the same one.
-/
import Logbook.Proofs.Rendering.Notation
import Mathlib.Data.List.Forall2

namespace Logbook

/-! ## 1. Reading groups with commas between them -/

namespace Span

theorem mark_inj {a b : String} : mark a = mark b ↔ a = b := by
  simp [mark, inRole]

/-- A role other than that of punctuation. -/
theorem inRole_ne_mark {r : Role} (h : r ≠ .tertiaryText) (text text' : String) :
    inRole r text ≠ mark text' := by
  simp [mark, inRole, h]

variable {α : Type} {group : α → List (Span Role)} {close : String}

/-- Where the closing mark stands there is no further group. -/
theorem separated_cons_ne (hcomma : close ≠ ", ")
    (hopen : ∀ x rest rest', group x ++ rest ≠ mark close :: rest') (first : Bool) (x : α)
    (groups : List (List (Span Role))) (rest rest' : List (Span Role)) :
    separated first (group x :: groups) ++ rest ≠ mark close :: rest' := by
  intro h
  cases first with
  | true =>
    rw [separated, if_pos rfl, List.nil_append, List.append_assoc] at h
    exact hopen x _ _ h
  | false =>
    have hmark : mark ", " = mark close := (List.cons.inj h).1
    exact hcomma (mark_inj.mp hmark).symm

/-- **Groups can be read one by one** if each of them can, in front of any other spans, and none
begins with the closing mark. -/
theorem separated_inj {R : α → α → Prop} (hcomma : close ≠ ", ")
    (hopen : ∀ x rest rest', group x ++ rest ≠ mark close :: rest') {xs : List α}
    (hread : ∀ x ∈ xs, ∀ y rest rest', group x ++ rest = group y ++ rest' →
      R x y ∧ rest = rest') {ys : List α} {first : Bool} {rest rest' : List (Span Role)}
    (h : separated first (xs.map group) ++ mark close :: rest =
      separated first (ys.map group) ++ mark close :: rest') :
    List.Forall₂ R xs ys ∧ rest = rest' := by
  induction xs generalizing ys first with
  | nil =>
    cases ys with
    | nil => exact ⟨.nil, (List.cons.inj h).2⟩
    | cons y ys => exact absurd h.symm (separated_cons_ne hcomma hopen first y _ _ _)
  | cons x xs ih =>
    cases ys with
    | nil => exact absurd h (separated_cons_ne hcomma hopen first x _ _ _)
    | cons y ys =>
      simp only [List.map_cons, separated, List.append_assoc] at h
      obtain ⟨hxy, hrest⟩ := hread x List.mem_cons_self y _ _ (List.append_cancel_left h)
      obtain ⟨htail, hend⟩ := ih (fun z hz => hread z (List.mem_cons_of_mem x hz)) hrest
      exact ⟨.cons hxy htail, hend⟩

end Span

namespace Display

open Logbook.Span

variable {p : Provider}

/-! ## 2. Shapes -/

/-- Two values of the same shape: nested alike, with the same tags and names, and with scalars of
the same role and text in the same places.  An empty record without a tag counts as an empty
dictionary. -/
inductive SameShape (p : Provider) : Value → Value → Prop
  | null : SameShape p .null .null
  | scalar {s r : Scalar} (hrole : role s = role r)
    (htext : scalarText p none s = scalarText p none r) : SameShape p (.scalar s) (.scalar r)
  | sequence {xs ys : List Value} (hitems : List.Forall₂ (SameShape p) xs ys) :
    SameShape p (.sequence xs) (.sequence ys)
  | record (tag : Option String) {fs gs : List (String × Value)}
    (hnames : fs.map Prod.fst = gs.map Prod.fst)
    (hvalues : List.Forall₂ (SameShape p) (fs.map Prod.snd) (gs.map Prod.snd)) :
    SameShape p (.record tag fs) (.record tag gs)
  | dictionary {es ds : List (Value × Value)}
    (hkeys : List.Forall₂ (SameShape p) (es.map Prod.fst) (ds.map Prod.fst))
    (hvalues : List.Forall₂ (SameShape p) (es.map Prod.snd) (ds.map Prod.snd)) :
    SameShape p (.dictionary es) (.dictionary ds)
  | emptyRecord : SameShape p (.record none []) (.dictionary [])
  | emptyDictionary : SameShape p (.dictionary []) (.record none [])

/-! ## 3. Spans of containers -/

/-- The spans of a field. -/
def fieldGroup (p : Provider) (field : String × Value) : List (Span Role) :=
  .inRole .name field.1 :: .mark "=" :: spans p none field.2

/-- The spans of an entry. -/
def entryGroup (p : Provider) (entry : Value × Value) : List (Span Role) :=
  .mark "[" :: (spans p none entry.1 ++ .mark "]=" :: spans p none entry.2)

theorem itemSpans_eq_map (items : List Value) : itemSpans p items = items.map (spans p none) := by
  induction items with
  | nil => rfl
  | cons v items ih => rw [itemSpans, ih, List.map_cons]

theorem fieldSpans_eq_map (fields : List (String × Value)) :
    fieldSpans p fields = fields.map (fieldGroup p) := by
  induction fields with
  | nil => rfl
  | cons field fields ih =>
    rw [fieldSpans, ih, List.map_cons]
    rfl

theorem entrySpans_eq_map (entries : List (Value × Value)) :
    entrySpans p entries = entries.map (entryGroup p) := by
  induction entries with
  | nil => rfl
  | cons entry entries ih =>
    rw [entrySpans, ih, List.map_cons]
    rfl

/-- A sequence in front of other spans. -/
theorem sequence_append (items : List Value) (rest : List (Span Role)) :
    spans p none (.sequence items) ++ rest =
      .mark "[" :: (separated true (items.map (spans p none)) ++ .mark "]" :: rest) := by
  rw [spans, itemSpans_eq_map, separated_true]
  simp

/-- A record in front of other spans. -/
theorem record_append (tag : Option String) (fields : List (String × Value))
    (rest : List (Span Role)) :
    spans p none (.record tag fields) ++ rest =
      tagSpans tag ++
        .mark "\x7b" :: (separated true (fields.map (fieldGroup p)) ++ .mark "\x7d" :: rest) := by
  rw [spans, fieldSpans_eq_map, separated_true]
  simp

/-- A dictionary in front of other spans. -/
theorem dictionary_append (entries : List (Value × Value)) (rest : List (Span Role)) :
    spans p none (.dictionary entries) ++ rest =
      .mark "\x7b" ::
        (separated true (entries.map (entryGroup p)) ++ .mark "\x7d" :: rest) := by
  rw [spans, entrySpans_eq_map, separated_true]
  simp

/-! ## 4. The first span -/

/-- The first span of a value. -/
def opening (p : Provider) : Value → Span Role
  | .null => .inRole .null "null"
  | .scalar s => scalarSpan p none s
  | .sequence _ => .mark "["
  | .record (some tag) _ => .inRole .name tag
  | .record none _ => .mark "\x7b"
  | .dictionary _ => .mark "\x7b"

theorem spans_eq_cons (v : Value) : ∃ rest, spans p none v = opening p v :: rest := by
  cases v with
  | null => exact ⟨_, rfl⟩
  | scalar s => exact ⟨_, rfl⟩
  | sequence items => exact ⟨_, rfl⟩
  | record tag fields => cases tag <;> exact ⟨_, rfl⟩
  | dictionary entries => exact ⟨_, rfl⟩

/-- Values that begin the same lists of spans have the same first span. -/
theorem opening_eq {v w : Value} {rest rest' : List (Span Role)}
    (h : spans p none v ++ rest = spans p none w ++ rest') : opening p v = opening p w := by
  obtain ⟨xs, hv⟩ := spans_eq_cons (p := p) v
  obtain ⟨ys, hw⟩ := spans_eq_cons (p := p) w
  rw [hv, hw] at h
  exact (List.cons.inj h).1

/-- Scalars have roles of their own. -/
theorem role_ne (s : Scalar) : role s ≠ .null ∧ role s ≠ .name ∧ role s ≠ .tertiaryText := by
  cases s <;> simp [role]

theorem eq_null_of_opening {w : Value} (h : opening p w = .inRole .null "null") : w = .null := by
  cases w with
  | null => rfl
  | scalar s => simp [opening, scalarSpan, inRole, role_ne s] at h
  | sequence items => simp [opening, mark, inRole] at h
  | record tag fields => cases tag <;> simp [opening, mark, inRole] at h
  | dictionary entries => simp [opening, mark, inRole] at h

theorem eq_scalar_of_opening {w : Value} {s : Scalar} (h : opening p w = scalarSpan p none s) :
    ∃ r, w = .scalar r ∧ role s = role r ∧ scalarText p none s = scalarText p none r := by
  have hs := role_ne s
  cases w with
  | null => simp [opening, scalarSpan, inRole, hs.1.symm] at h
  | scalar r =>
    obtain ⟨hrole, htext⟩ := Span.mk.inj h
    exact ⟨r, rfl, (Option.some.inj hrole).symm, htext.symm⟩
  | sequence items => simp [opening, scalarSpan, mark, inRole, hs.2.2.symm] at h
  | record tag fields =>
    cases tag <;> simp [opening, scalarSpan, mark, inRole, hs.2.1.symm, hs.2.2.symm] at h
  | dictionary entries => simp [opening, scalarSpan, mark, inRole, hs.2.2.symm] at h

theorem eq_sequence_of_opening {w : Value} (h : opening p w = .mark "[") :
    ∃ items, w = .sequence items := by
  cases w with
  | null => simp [opening, mark, inRole] at h
  | scalar s => simp [opening, scalarSpan, mark, inRole, role_ne s] at h
  | sequence items => exact ⟨items, rfl⟩
  | record tag fields => cases tag <;> simp [opening, mark, inRole] at h
  | dictionary entries => simp [opening, mark, inRole] at h

theorem eq_record_of_opening {w : Value} {tag : String} (h : opening p w = .inRole .name tag) :
    ∃ fields, w = .record (some tag) fields := by
  cases w with
  | null => simp [opening, inRole] at h
  | scalar s => simp [opening, scalarSpan, inRole, role_ne s] at h
  | sequence items => simp [opening, mark, inRole] at h
  | record tag' fields =>
    cases tag' with
    | none => simp [opening, mark, inRole] at h
    | some tag' =>
      obtain rfl : tag' = tag := (Span.mk.inj h).2
      exact ⟨fields, rfl⟩
  | dictionary entries => simp [opening, mark, inRole] at h

/-- A brace opens a record or a dictionary. -/
theorem eq_braces_of_opening {w : Value} (h : opening p w = .mark "\x7b") :
    (∃ fields, w = .record none fields) ∨ ∃ entries, w = .dictionary entries := by
  cases w with
  | null => simp [opening, mark, inRole] at h
  | scalar s => simp [opening, scalarSpan, mark, inRole, role_ne s] at h
  | sequence items => simp [opening, mark, inRole] at h
  | record tag fields =>
    cases tag with
    | none => exact .inl ⟨fields, rfl⟩
    | some tag => simp [opening, mark, inRole] at h
  | dictionary entries => exact .inr ⟨entries, rfl⟩

/-- No value begins with the end of a sequence. -/
theorem spans_ne_close (v : Value) (rest rest' : List (Span Role)) :
    spans p none v ++ rest ≠ .mark "]" :: rest' := by
  intro h
  obtain ⟨xs, hv⟩ := spans_eq_cons (p := p) v
  rw [hv] at h
  have hopening : opening p v = .mark "]" := (List.cons.inj h).1
  cases v with
  | null => simp [opening, mark, inRole] at hopening
  | scalar s => simp [opening, scalarSpan, mark, inRole, role_ne s] at hopening
  | sequence items => simp [opening, mark, inRole] at hopening
  | record tag fields => cases tag <;> simp [opening, mark, inRole] at hopening
  | dictionary entries => simp [opening, mark, inRole] at hopening

/-! ## 5. Reading one value -/

/-- In front of any other spans, those of the value tell its shape and where they end. -/
def Readable (p : Provider) (v : Value) : Prop :=
  ∀ w rest rest', spans p none v ++ rest = spans p none w ++ rest' →
    SameShape p v w ∧ rest = rest'

theorem forall₂_map {α β : Type} {R : α → α → Prop} {S : β → β → Prop} {f : α → β}
    (himp : ∀ x y, R x y → S (f x) (f y)) {xs ys : List α} (h : List.Forall₂ R xs ys) :
    List.Forall₂ S (xs.map f) (ys.map f) :=
  List.forall₂_map_left_iff.mpr (List.forall₂_map_right_iff.mpr (h.imp himp))

theorem fieldGroup_ne_close (field : String × Value) (rest rest' : List (Span Role)) :
    fieldGroup p field ++ rest ≠ .mark "\x7d" :: rest' := fun h =>
  inRole_ne_mark (by decide) _ _ (List.cons.inj h).1

theorem entryGroup_ne_close (entry : Value × Value) (rest rest' : List (Span Role)) :
    entryGroup p entry ++ rest ≠ .mark "\x7d" :: rest' := fun h =>
  absurd (mark_inj.mp (List.cons.inj h).1) (by decide)

/-- The fields of a record are read one by one. -/
theorem fields_inj {fs gs : List (String × Value)} (hfs : ∀ f ∈ fs, Readable p f.2)
    {rest rest' : List (Span Role)}
    (h : separated true (fs.map (fieldGroup p)) ++ .mark "\x7d" :: rest =
      separated true (gs.map (fieldGroup p)) ++ .mark "\x7d" :: rest') :
    (∀ tag, SameShape p (.record tag fs) (.record tag gs)) ∧ rest = rest' := by
  have hread : ∀ f ∈ fs, ∀ g rest rest', fieldGroup p f ++ rest = fieldGroup p g ++ rest' →
      (f.1 = g.1 ∧ SameShape p f.2 g.2) ∧ rest = rest' := by
    intro f hf g rest rest' hfg
    obtain ⟨hname, hvalue⟩ := List.cons.inj hfg
    obtain ⟨hsame, hrest⟩ := hfs f hf g.2 rest rest' (List.cons.inj hvalue).2
    exact ⟨⟨(Span.mk.inj hname).2, hsame⟩, hrest⟩
  obtain ⟨hall, hrest⟩ := separated_inj (by decide) fieldGroup_ne_close hread h
  have hnames : List.Forall₂ Eq (fs.map Prod.fst) (gs.map Prod.fst) :=
    forall₂_map (fun _ _ h => h.1) hall
  rw [List.forall₂_eq_eq_eq] at hnames
  exact ⟨fun tag => .record tag hnames (forall₂_map (fun _ _ h => h.2) hall), hrest⟩

/-- The entries of a dictionary are read one by one. -/
theorem entries_inj {es ds : List (Value × Value)}
    (hes : ∀ e ∈ es, Readable p e.1 ∧ Readable p e.2) {rest rest' : List (Span Role)}
    (h : separated true (es.map (entryGroup p)) ++ .mark "\x7d" :: rest =
      separated true (ds.map (entryGroup p)) ++ .mark "\x7d" :: rest') :
    SameShape p (.dictionary es) (.dictionary ds) ∧ rest = rest' := by
  have hread : ∀ e ∈ es, ∀ d rest rest', entryGroup p e ++ rest = entryGroup p d ++ rest' →
      (SameShape p e.1 d.1 ∧ SameShape p e.2 d.2) ∧ rest = rest' := by
    intro e he d rest rest' hed
    simp only [entryGroup, List.cons_append, List.append_assoc] at hed
    obtain ⟨hkey, hafter⟩ := (hes e he).1 d.1 _ _ (List.cons.inj hed).2
    obtain ⟨hvalue, hrest⟩ := (hes e he).2 d.2 _ _ (List.cons.inj hafter).2
    exact ⟨⟨hkey, hvalue⟩, hrest⟩
  obtain ⟨hall, hrest⟩ := separated_inj (by decide) entryGroup_ne_close hread h
  exact ⟨.dictionary (forall₂_map (fun _ _ h => h.1) hall)
    (forall₂_map (fun _ _ h => h.2) hall), hrest⟩

/-- **Fields and entries are told apart**, unless there are none. -/
theorem fields_ne_entries {fs : List (String × Value)} {es : List (Value × Value)}
    {rest rest' : List (Span Role)}
    (h : separated true (fs.map (fieldGroup p)) ++ .mark "\x7d" :: rest =
      separated true (es.map (entryGroup p)) ++ .mark "\x7d" :: rest') :
    fs = [] ∧ es = [] ∧ rest = rest' := by
  cases fs with
  | nil =>
    cases es with
    | nil => exact ⟨rfl, rfl, (List.cons.inj h).2⟩
    | cons e es =>
      exact absurd h.symm (separated_cons_ne (by decide) entryGroup_ne_close true e _ _ _)
  | cons f fs =>
    cases es with
    | nil => exact absurd h (separated_cons_ne (by decide) fieldGroup_ne_close true f _ _ _)
    | cons e es => exact absurd (List.cons.inj h).1 (inRole_ne_mark (by decide) _ _)

namespace Readable

theorem null : Readable p .null := by
  intro w rest rest' h
  obtain rfl := eq_null_of_opening (opening_eq h).symm
  exact ⟨.null, (List.cons.inj h).2⟩

theorem scalar (s : Scalar) : Readable p (.scalar s) := by
  intro w rest rest' h
  obtain ⟨r, rfl, hrole, htext⟩ := eq_scalar_of_opening (opening_eq h).symm
  exact ⟨.scalar hrole htext, (List.cons.inj h).2⟩

theorem sequence {items : List Value} (hitems : ∀ v ∈ items, Readable p v) :
    Readable p (.sequence items) := by
  intro w rest rest' h
  obtain ⟨items', rfl⟩ := eq_sequence_of_opening (opening_eq h).symm
  rw [sequence_append, sequence_append] at h
  obtain ⟨hall, hrest⟩ :=
    separated_inj (by decide) spans_ne_close hitems (List.cons.inj h).2
  exact ⟨.sequence hall, hrest⟩

theorem record (tag : Option String) {fields : List (String × Value)}
    (hfields : ∀ f ∈ fields, Readable p f.2) : Readable p (.record tag fields) := by
  intro w rest rest' h
  cases tag with
  | some tag =>
    obtain ⟨fields', rfl⟩ := eq_record_of_opening (opening_eq h).symm
    rw [record_append, record_append] at h
    obtain ⟨hsame, hrest⟩ := fields_inj hfields (List.cons.inj (List.append_cancel_left h)).2
    exact ⟨hsame (some tag), hrest⟩
  | none =>
    rcases eq_braces_of_opening (opening_eq h).symm with ⟨fields', rfl⟩ | ⟨entries, rfl⟩
    · rw [record_append, record_append] at h
      obtain ⟨hsame, hrest⟩ := fields_inj hfields (List.cons.inj h).2
      exact ⟨hsame none, hrest⟩
    · rw [record_append, dictionary_append] at h
      obtain ⟨rfl, rfl, hrest⟩ := fields_ne_entries (List.cons.inj h).2
      exact ⟨.emptyRecord, hrest⟩

theorem dictionary {entries : List (Value × Value)}
    (hentries : ∀ e ∈ entries, Readable p e.1 ∧ Readable p e.2) :
    Readable p (.dictionary entries) := by
  intro w rest rest' h
  rcases eq_braces_of_opening (opening_eq h).symm with ⟨fields, rfl⟩ | ⟨entries', rfl⟩
  · rw [dictionary_append, record_append] at h
    obtain ⟨rfl, rfl, hrest⟩ := fields_ne_entries (List.cons.inj h).2.symm
    exact ⟨.emptyDictionary, hrest.symm⟩
  · rw [dictionary_append, dictionary_append] at h
    exact entries_inj hentries (List.cons.inj h).2

end Readable

mutual
/-- **Every value is readable.** -/
theorem readable (p : Provider) : ∀ v : Value, Readable p v
  | .null => .null
  | .scalar s => .scalar s
  | .sequence items => .sequence (readable_items p items)
  | .record tag fields => .record tag (readable_fields p fields)
  | .dictionary entries => .dictionary (readable_entries p entries)

theorem readable_items (p : Provider) : ∀ items : List Value, ∀ v ∈ items, Readable p v
  | [] => List.forall_mem_nil _
  | v :: items => List.forall_mem_cons.mpr ⟨readable p v, readable_items p items⟩

theorem readable_fields (p : Provider) : ∀ fields : List (String × Value),
    ∀ f ∈ fields, Readable p f.2
  | [] => List.forall_mem_nil _
  | (_, v) :: fields => List.forall_mem_cons.mpr ⟨readable p v, readable_fields p fields⟩

theorem readable_entries (p : Provider) : ∀ entries : List (Value × Value),
    ∀ e ∈ entries, Readable p e.1 ∧ Readable p e.2
  | [] => List.forall_mem_nil _
  | (key, v) :: entries =>
    List.forall_mem_cons.mpr ⟨⟨readable p key, readable p v⟩, readable_entries p entries⟩
end

/-! ## 6. Writing one shape -/

theorem fieldSpans_eq_zipWith (fields : List (String × Value)) :
    fieldSpans p fields =
      List.zipWith (fun name group => .inRole .name name :: .mark "=" :: group)
        (fields.map Prod.fst) ((fields.map Prod.snd).map (spans p none)) := by
  rw [fieldSpans_eq_map, List.map_map, List.zipWith_map, List.zipWith_self]
  rfl

theorem entrySpans_eq_zipWith (entries : List (Value × Value)) :
    entrySpans p entries =
      List.zipWith (fun key group => .mark "[" :: (key ++ .mark "]=" :: group))
        ((entries.map Prod.fst).map (spans p none))
        ((entries.map Prod.snd).map (spans p none)) := by
  rw [entrySpans_eq_map, List.map_map, List.map_map, List.zipWith_map, List.zipWith_self]
  rfl

/-- Values of one shape are written alike. -/
theorem spans_eq_of_sameShape {v w : Value} (h : SameShape p v w) :
    spans p none v = spans p none w := by
  -- the second motive is for lists of values
  refine @SameShape.rec p (fun v w _ => spans p none v = spans p none w)
    (fun xs ys _ => xs.map (spans p none) = ys.map (spans p none))
    rfl ?_ ?_ ?_ ?_ rfl rfl rfl ?_ v w h
  · intro s r hrole htext
    rw [spans, spans, scalarSpan, scalarSpan, hrole, htext]
  · intro xs ys _ hitems
    rw [spans, spans, itemSpans_eq_map, itemSpans_eq_map, hitems]
  · intro tag fs gs hnames _ hvalues
    rw [spans, spans, fieldSpans_eq_zipWith, fieldSpans_eq_zipWith, hnames, hvalues]
  · intro es ds _ _ hkeys hvalues
    rw [spans, spans, entrySpans_eq_zipWith, entrySpans_eq_zipWith, hkeys, hvalues]
  · intro x y xs ys _ _ hxy hxys
    rw [List.map_cons, List.map_cons, hxy, hxys]

end Display

/-! ## 7. Recorded spans -/

/-- Different styles tell the roles. -/
theorem Theme.paint_injective {t : Theme} (h : Function.Injective t.style) :
    Function.Injective t.paint := by
  refine List.map_injective_iff.mpr fun a b hab => ?_
  obtain ⟨style, text⟩ := a
  obtain ⟨style', text'⟩ := b
  obtain ⟨hstyle, rfl⟩ := Span.mk.inj hab
  obtain rfl := Option.map_injective h hstyle
  rfl

/-- A theme that tells the roles apart: each has the palette colour of its number. -/
def Theme.numbered : Theme :=
  ⟨none, fun r => some { foreground := some (.index (Fin.ofNat 256 (Role.all.idxOf r))) }⟩

theorem Theme.style_numbered_injective : Function.Injective numbered.style := by
  have hall : ∀ r ∈ Role.all, ∀ r' ∈ Role.all, numbered.style r = numbered.style r' → r = r' := by
    decide +kernel
  exact fun r r' h => hall r (Role.mem_all r) r' (Role.mem_all r') h

namespace Display

/-- **The display notation is uniquely readable.**  Under a theme that gives every role a style of
its own, two values are recorded with the same spans if they have the same shape, and only
then. -/
theorem same_spans_iff (p : Provider) (t : Theme) (h : Function.Injective t.style)
    (v w : Value) :
    (format p t none v : Rendering Capture Empty Nat).captured =
        (format p t none w : Rendering Capture Empty Nat).captured ↔ SameShape p v w := by
  rw [format_eq, format_eq, Rendering.captured_bind_pure, Rendering.captured_bind_pure,
    (Theme.paint_injective h).eq_iff]
  constructor
  · intro hspans
    have hread := readable p v w [] []
    rw [List.append_nil, List.append_nil] at hread
    exact (hread hspans).1
  · exact spans_eq_of_sameShape

/-- A character and a foreign value with the same text, below a tag and next to empty braces. -/
theorem same_spans_iff_numbered :
    Function.Injective Theme.numbered.style ∧
    (format Provider.invariant Theme.numbered none
        (.sequence [.record (some "[") [("=", .scalar (.char 'x'))], .record none []]) :
          Rendering Capture Empty Nat).captured =
      (format Provider.invariant Theme.numbered none
        (.sequence [.record (some "[") [("=", .scalar (.other "'x'"))], .dictionary []]) :
          Rendering Capture Empty Nat).captured := by
  refine ⟨Theme.style_numbered_injective, ?_⟩
  have hscalar : SameShape Provider.invariant (.scalar (.char 'x')) (.scalar (.other "'x'")) :=
    .scalar rfl (by decide)
  have htagged : SameShape Provider.invariant (.record (some "[") [("=", .scalar (.char 'x'))])
      (.record (some "[") [("=", .scalar (.other "'x'"))]) :=
    .record (some "[") rfl (.cons hscalar .nil)
  exact (same_spans_iff Provider.invariant Theme.numbered Theme.style_numbered_injective _ _).mpr
    (.sequence (.cons htagged (.cons .emptyRecord .nil)))

end Display

end Logbook
