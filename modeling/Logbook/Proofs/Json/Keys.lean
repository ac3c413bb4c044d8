/-
# The keys of a value

An object may have two members of one name.  Such a document is well formed, but a reader that
keeps one value for each key, as most do, loses one of the two.  What such a reader gets is
`Json.keyed`, whatever it does with a second value, and it gets the whole document exactly if the
keys of every object are distinct (`keyed_eq_iff`).

The keys in the document of a value come from three places: the names of fields, the keys of
dictionaries, and the name under which a tag is written.  If no record repeats a name and the keys
of a dictionary are different strings, then each of the first two is without repetition by itself.
What is left is that a record with a tag has a field with the name of the tag.  Nothing prevents
it, and it is the only way in which a key can come twice (`distinctKeys_document_iff`).

* `distinct_keys_iff`: the keys in the output are distinct exactly if that does not occur, and
  then nothing is lost.
* `repeated_tag_key` is a record in which it does occur.
-/
import Logbook.Proofs.Json.Capture
import Mathlib.Data.List.Nodup

namespace Logbook

/-! ## 1. Documents with distinct keys -/

namespace Json

/-- No object in the document has two members of one name. -/
inductive DistinctKeys : Json → Prop
  | null : DistinctKeys .null
  | bool (b : Bool) : DistinctKeys (.bool b)
  | number (spelling : String) : DistinctKeys (.number spelling)
  | string (text : String) : DistinctKeys (.string text)
  | array {items : List Json} (h : ∀ doc ∈ items, DistinctKeys doc) : DistinctKeys (.array items)
  | object {members : List (String × Json)} (hnames : (members.map Prod.fst).Nodup)
    (h : ∀ m ∈ members, DistinctKeys m.2) : DistinctKeys (.object members)

theorem distinctKeys_array_iff {items : List Json} :
    (array items).DistinctKeys ↔ ∀ doc ∈ items, doc.DistinctKeys :=
  ⟨fun | .array h => h, .array⟩

theorem distinctKeys_object_iff {members : List (String × Json)} :
    (object members).DistinctKeys ↔
      (members.map Prod.fst).Nodup ∧ ∀ m ∈ members, m.2.DistinctKeys :=
  ⟨fun | .object hnames h => ⟨hnames, h⟩, fun h => .object h.1 h.2⟩

/-! ## 2. Readers that keep one value for a key -/

variable (keep : Json → Json → Json)

/-- Puts a document under a name, behind the others.  If the name is there already, `keep` makes
one document of the two. -/
def put (name : String) (doc : Json) : List (String × Json) → List (String × Json)
  | [] => [(name, doc)]
  | (n, old) :: rest =>
    if n = name then (n, keep old doc) :: rest else (n, old) :: put name doc rest

mutual
/-- What a reader gets that keeps one value for each key of an object, and makes one of two by
`keep`. -/
def keyed : Json → Json
  | .array items => .array (keyedItems items)
  | .object members => .object (keyedMembers [] members)
  | doc => doc

/-- What the reader gets of the items of an array. -/
def keyedItems : List Json → List Json
  | [] => []
  | doc :: docs => keyed doc :: keyedItems docs

/-- What the reader has after further members of an object. -/
def keyedMembers (kept : List (String × Json)) : List (String × Json) → List (String × Json)
  | [] => kept
  | (name, doc) :: docs => keyedMembers (put keep name (keyed doc) kept) docs
end

variable {keep}

theorem map_fst_put (name : String) (doc : Json) (members : List (String × Json)) :
    (put keep name doc members).map Prod.fst =
      if name ∈ members.map Prod.fst then members.map Prod.fst
      else members.map Prod.fst ++ [name] := by
  induction members with
  | nil => rfl
  | cons member rest ih =>
    obtain ⟨n, old⟩ := member
    by_cases h : n = name
    · simp [put, h]
    · rw [put, if_neg h, List.map_cons, ih]
      by_cases hmem : name ∈ rest.map Prod.fst
      · simp [hmem]
      · simp [hmem, Ne.symm h]

theorem put_of_notMem {name : String} {members : List (String × Json)}
    (h : name ∉ members.map Prod.fst) (doc : Json) :
    put keep name doc members = members ++ [(name, doc)] := by
  induction members with
  | nil => rfl
  | cons member rest ih =>
    obtain ⟨n, old⟩ := member
    rw [List.map_cons, List.mem_cons, not_or] at h
    rw [put, if_neg (Ne.symm h.1), ih h.2, List.cons_append]

theorem nodup_put {name : String} {members : List (String × Json)}
    (h : (members.map Prod.fst).Nodup) (doc : Json) :
    ((put keep name doc members).map Prod.fst).Nodup := by
  rw [map_fst_put]
  by_cases hmem : name ∈ members.map Prod.fst
  · rwa [if_pos hmem]
  · rw [if_neg hmem, ← List.concat_eq_append]
    exact h.concat hmem

/-- The reader never has two values for a key. -/
theorem nodup_keyedMembers {kept : List (String × Json)} (h : (kept.map Prod.fst).Nodup)
    (members : List (String × Json)) : ((keyedMembers keep kept members).map Prod.fst).Nodup := by
  induction members generalizing kept with
  | nil => exact h
  | cons member rest ih => exact ih (nodup_put h _)

theorem keyedItems_eq_map (items : List Json) : keyedItems keep items = items.map (keyed keep) := by
  induction items with
  | nil => rfl
  | cons doc items ih => rw [keyedItems, ih, List.map_cons]

/-- As long as the names are new, the members are put one behind the other. -/
theorem keyedMembers_of_nodup {kept members : List (String × Json)}
    (h : ((kept ++ members).map Prod.fst).Nodup) :
    keyedMembers keep kept members = kept ++ members.map fun m => (m.1, keyed keep m.2) := by
  induction members generalizing kept with
  | nil => exact (List.append_nil kept).symm
  | cons member rest ih =>
    obtain ⟨name, doc⟩ := member
    have hnew : name ∉ kept.map Prod.fst := by
      intro hmem
      rw [List.map_append, List.nodup_append] at h
      exact h.2.2 name hmem name List.mem_cons_self rfl
    have hnext : (((kept ++ [(name, keyed keep doc)]) ++ rest).map Prod.fst).Nodup := by
      simpa using h
    rw [keyedMembers, put_of_notMem hnew, ih hnext, List.append_assoc, List.map_cons,
      List.singleton_append]

theorem keyedMembers_nil_of_nodup {members : List (String × Json)}
    (h : (members.map Prod.fst).Nodup) :
    keyedMembers keep [] members = members.map fun m => (m.1, keyed keep m.2) :=
  keyedMembers_of_nodup h

/-- Nothing is lost of a document with distinct keys. -/
theorem keyed_of_distinctKeys {doc : Json} (h : doc.DistinctKeys) : doc.keyed keep = doc := by
  induction h with
  | array _ ih =>
    rw [keyed, keyedItems_eq_map, List.map_congr_left ih, List.map_id']
  | object hnames _ ih =>
    have hsame : ∀ m ∈ _, (m.1, keyed keep m.2) = m := fun m hm => Prod.ext rfl (ih m hm)
    rw [keyed, keyedMembers_nil_of_nodup hnames, List.map_congr_left hsame, List.map_id']
  | _ => rfl

mutual
theorem distinctKeys_of_keyed : ∀ doc : Json, doc.keyed keep = doc → doc.DistinctKeys
  | .null, _ => .null
  | .bool b, _ => .bool b
  | .number spelling, _ => .number spelling
  | .string text, _ => .string text
  | .array items, h => by
    rw [keyed, keyedItems_eq_map, array.injEq] at h
    exact .array (distinctItems_of_keyed items h)
  | .object members, h => by
    have hkept : keyedMembers keep [] members = members := object.inj h
    -- whatever the members are, the names that the reader has are distinct, and these are the same
    have hnames : (members.map Prod.fst).Nodup := by
      rw [← hkept]
      exact nodup_keyedMembers (by simp) members
    rw [keyedMembers_nil_of_nodup hnames] at hkept
    exact .object hnames (distinctMembers_of_keyed members hkept)

theorem distinctItems_of_keyed : ∀ items : List Json, items.map (keyed keep) = items →
    ∀ doc ∈ items, doc.DistinctKeys
  | [], _ => List.forall_mem_nil _
  | doc :: items, h => by
    obtain ⟨hdoc, hitems⟩ := List.cons.inj h
    exact List.forall_mem_cons.mpr
      ⟨distinctKeys_of_keyed doc hdoc, distinctItems_of_keyed items hitems⟩

theorem distinctMembers_of_keyed : ∀ members : List (String × Json),
    (members.map fun m => (m.1, keyed keep m.2)) = members → ∀ m ∈ members, m.2.DistinctKeys
  | [], _ => List.forall_mem_nil _
  | (_, doc) :: members, h => by
    obtain ⟨hmember, hmembers⟩ := List.cons.inj h
    exact List.forall_mem_cons.mpr
      ⟨distinctKeys_of_keyed doc (Prod.ext_iff.mp hmember).2,
        distinctMembers_of_keyed members hmembers⟩
end

/-- **A reader that keeps one value for a key gets a document whole exactly if the keys of its
objects are distinct**, whatever it makes of a second value. -/
theorem keyed_eq_iff (keep : Json → Json → Json) {doc : Json} :
    doc.keyed keep = doc ↔ doc.DistinctKeys :=
  ⟨distinctKeys_of_keyed doc, keyed_of_distinctKeys⟩

end Json

/-! ## 3. Where keys come from -/

namespace Value

/-- No record has two fields of one name, and the keys of a dictionary are different strings, at
every level. -/
inductive DistinctNames : Value → Prop
  | null : DistinctNames .null
  | scalar (s : Scalar) : DistinctNames (.scalar s)
  | sequence {items : List Value} (h : ∀ v ∈ items, DistinctNames v) :
    DistinctNames (.sequence items)
  | record (tag : Option String) {fields : List (String × Value)}
    (hnames : (fields.map Prod.fst).Nodup) (h : ∀ f ∈ fields, DistinctNames f.2) :
    DistinctNames (.record tag fields)
  | dictionary {entries : List (Value × Value)} {names : List String}
    (hkeys : entries.map Prod.fst = names.map ofString) (hnames : names.Nodup)
    (h : ∀ e ∈ entries, DistinctNames e.2) : DistinctNames (.dictionary entries)

/-- No record that has a tag has a field of the name under which the tag is written, at any
level. -/
inductive TagsApart : Value → Prop
  | null : TagsApart .null
  | scalar (s : Scalar) : TagsApart (.scalar s)
  | sequence {items : List Value} (h : ∀ v ∈ items, TagsApart v) : TagsApart (.sequence items)
  | record {tag : Option String} {fields : List (String × Value)}
    (htag : tag.isSome = true → "$type" ∉ fields.map Prod.fst) (h : ∀ f ∈ fields, TagsApart f.2) :
    TagsApart (.record tag fields)
  | dictionary {entries : List (Value × Value)} (hkeys : ∀ e ∈ entries, TagsApart e.1)
    (h : ∀ e ∈ entries, TagsApart e.2) : TagsApart (.dictionary entries)

theorem tagsApart_sequence_iff {items : List Value} :
    (sequence items).TagsApart ↔ ∀ v ∈ items, v.TagsApart :=
  ⟨fun | .sequence h => h, .sequence⟩

theorem tagsApart_record_iff {tag : Option String} {fields : List (String × Value)} :
    (record tag fields).TagsApart ↔
      (tag.isSome = true → "$type" ∉ fields.map Prod.fst) ∧ ∀ f ∈ fields, f.2.TagsApart :=
  ⟨fun | .record htag h => ⟨htag, h⟩, fun h => .record h.1 h.2⟩

/-- Strings have no tags in them. -/
theorem tagsApart_dictionary_iff {entries : List (Value × Value)} {names : List String}
    (hkeys : entries.map Prod.fst = names.map ofString) :
    (dictionary entries).TagsApart ↔ ∀ e ∈ entries, e.2.TagsApart := by
  refine ⟨fun | .dictionary _ h => h, .dictionary fun e he => ?_⟩
  have hmem : e.1 ∈ names.map ofString := hkeys ▸ List.mem_map_of_mem he
  obtain ⟨s, -, hs⟩ := List.mem_map.mp hmem
  rw [← hs]
  exact .scalar _

end Value

namespace JsonNotation

open Json

theorem itemDocuments_eq_map (p : Provider) (items : List Value) :
    itemDocuments p items = items.map (document p) := by
  induction items with
  | nil => rfl
  | cons v items ih => rw [itemDocuments, ih, List.map_cons]

theorem fieldDocuments_eq_map (p : Provider) (fields : List (String × Value)) :
    fieldDocuments p fields = fields.map fun f => (f.1, document p f.2) := by
  induction fields with
  | nil => rfl
  | cons field fields ih => rw [fieldDocuments, ih, List.map_cons]

theorem entryDocuments_eq_map (p : Provider) (entries : List (Value × Value)) :
    entryDocuments p entries = entries.map fun e => ((keyText p e.1).2, document p e.2) := by
  induction entries with
  | nil => rfl
  | cons entry entries ih => rw [entryDocuments, ih, List.map_cons]

theorem distinctKeys_floatDocument {p : Precision} (text : String) (x : Binary p) :
    (floatDocument text x).DistinctKeys := by
  cases x with
  | nan => exact .string _
  | infinite negative => cases negative <;> exact .string _
  | finite s m e h => exact .number _

theorem distinctKeys_scalarDocument (s : Scalar) : (scalarDocument s).DistinctKeys := by
  cases s with
  | integer n => exact .number _
  | single x => exact distinctKeys_floatDocument _ x
  | double x => exact distinctKeys_floatDocument _ x
  | bool b => exact .bool b
  | _ => exact .string _

theorem distinctKeys_tagMember (tag : Option String) :
    ∀ m ∈ tagMember tag, m.2.DistinctKeys := by
  cases tag with
  | none => exact List.forall_mem_nil _
  | some tag => exact List.forall_mem_singleton.mpr (.string tag)

/-- The keys of a record are the names of its fields, and that of its tag. -/
theorem nodup_record_iff (p : Provider) {tag : Option String} {fields : List (String × Value)}
    (h : (fields.map Prod.fst).Nodup) :
    ((fieldDocuments p fields ++ tagMember tag).map Prod.fst).Nodup ↔
      (tag.isSome = true → "$type" ∉ fields.map Prod.fst) := by
  have hnames : (fieldDocuments p fields).map Prod.fst = fields.map Prod.fst := by
    rw [fieldDocuments_eq_map, List.map_map]
    rfl
  rw [List.map_append, hnames]
  cases tag with
  | none => simpa [tagMember] using h
  | some tag =>
    -- the tag comes last, under a fixed name
    rw [show (tagMember (some tag)).map Prod.fst = ["$type"] from rfl, ← List.concat_eq_append,
      List.nodup_concat, and_iff_left h]
    exact ⟨fun hfree _ => hfree, fun hfree => hfree rfl⟩

/-- The keys of a dictionary whose keys are strings are these strings. -/
theorem map_fst_entryDocuments (p : Provider) {entries : List (Value × Value)}
    {names : List String} (hkeys : entries.map Prod.fst = names.map Value.ofString) :
    (entryDocuments p entries).map Prod.fst = names := by
  calc (entryDocuments p entries).map Prod.fst
      = (entries.map Prod.fst).map fun key => (keyText p key).2 := by
        rw [entryDocuments_eq_map, List.map_map, List.map_map]
        rfl
    _ = names.map fun s => (keyText p (Value.ofString s)).2 := by
        rw [hkeys, List.map_map]
        rfl
    _ = names := List.map_id' names

/-- **The keys in the document of a value are distinct exactly if no tag meets a field of its
name.** -/
theorem distinctKeys_document_iff (p : Provider) {v : Value} (h : v.DistinctNames) :
    (document p v).DistinctKeys ↔ v.TagsApart := by
  induction h with
  | null => exact iff_of_true .null .null
  | scalar s => exact iff_of_true (distinctKeys_scalarDocument s) (.scalar s)
  | sequence _ ih =>
    rw [document, distinctKeys_array_iff, Value.tagsApart_sequence_iff, itemDocuments_eq_map,
      List.forall_mem_map]
    exact forall₂_congr ih
  | @record tag fields hnames _ ih =>
    have hfields : (∀ m ∈ fieldDocuments p fields, m.2.DistinctKeys) ↔
        ∀ f ∈ fields, f.2.TagsApart := by
      rw [fieldDocuments_eq_map, List.forall_mem_map]
      exact forall₂_congr ih
    rw [document, distinctKeys_object_iff, Value.tagsApart_record_iff, nodup_record_iff p hnames,
      List.forall_mem_append, hfields, and_iff_left (distinctKeys_tagMember tag)]
  | dictionary hkeys hnames _ ih =>
    rw [document, distinctKeys_object_iff, Value.tagsApart_dictionary_iff hkeys,
      map_fst_entryDocuments p hkeys, and_iff_right hnames, entryDocuments_eq_map,
      List.forall_mem_map]
    exact forall₂_congr ih

/-! ## 4. Reading the output -/

/-- **A key comes twice only where a tag meets a field of its name.**  If no record repeats the
name of a field and the keys of dictionaries are different strings, then the output is a document
in which the keys of every object are distinct exactly if no record with a tag has a field named
`$type`; and then, and only then, a reader that keeps one value for a key gets every field, entry
and tag, whatever it makes of a second value. -/
theorem distinct_keys_iff (p : Provider) (t : Theme) (f : Option String) (top : Bool) (v : Value)
    (h : v.scalar? = none ∨ top = false) (hv : v.DistinctNames) :
    ∃ doc, read? (format p t f top v).captured.output = some doc ∧
      (doc.DistinctKeys ↔ v.TagsApart) ∧
      ∀ keep, doc.keyed keep = document p v ↔ v.TagsApart := by
  have hdistinct : (document p v).DistinctKeys ↔ v.TagsApart := distinctKeys_document_iff p hv
  refine ⟨document p v, ?_, hdistinct, fun keep => (keyed_eq_iff keep).trans hdistinct⟩
  rw [output_format p t f h]
  exact read?_printed (List.all_eq_true.mp (by decide)) (spelled_document p v)

/-- The name of a tag in places where no tag meets it: as a key above a record with a tag, and as
a field of a record without one. -/
theorem distinct_keys_iff_below_other_keys :
    let v : Value := .dictionary
      [(.ofString "$type", .record (some "$type") [("type", .null), ("$", .sequence [])]),
        (.ofString "", .record none [("$type", .scalar (.bool true))])]
    (v.scalar? = none ∨ true = false) ∧ v.DistinctNames ∧ v.TagsApart ∧
    ∃ doc, read? (format .worded Theme.empty none true v).captured.output = some doc ∧
      doc.DistinctKeys ∧ ∀ keep, doc.keyed keep = document .worded v := by
  intro v
  have hempty : (Value.sequence []).DistinctNames ∧ (Value.sequence []).TagsApart :=
    ⟨.sequence (List.forall_mem_nil _), .sequence (List.forall_mem_nil _)⟩
  have hnames : v.DistinctNames := by
    refine @Value.DistinctNames.dictionary _ ["$type", ""] rfl (by decide) ?_
    simp only [List.forall_mem_cons]
    refine ⟨.record _ (by decide) ?_, .record _ (by decide) ?_, List.forall_mem_nil _⟩
    · simp only [List.forall_mem_cons]
      exact ⟨.null, hempty.1, List.forall_mem_nil _⟩
    · exact List.forall_mem_singleton.mpr (.scalar _)
  have hapart : v.TagsApart := by
    rw [@Value.tagsApart_dictionary_iff _ ["$type", ""] rfl]
    simp only [List.forall_mem_cons]
    refine ⟨.record (by decide) ?_, .record (by decide) ?_, List.forall_mem_nil _⟩
    · simp only [List.forall_mem_cons]
      exact ⟨.null, hempty.2, List.forall_mem_nil _⟩
    · exact List.forall_mem_singleton.mpr (.scalar _)
  obtain ⟨doc, hread, hdistinct, hkept⟩ :=
    distinct_keys_iff .worded Theme.empty none true v (.inl rfl) hnames
  exact ⟨.inl rfl, hnames, hapart, doc, hread, hdistinct.mpr hapart,
    fun keep => (hkept keep).mpr hapart⟩

/-- **A field may have the name under which the tag is written.**  The record repeats no name, and
still its object has the key twice: a reader that keeps one value has one member where two were
written. -/
theorem repeated_tag_key :
    let v : Value := .record (some "User") [("$type", .ofString "Ann")]
    let doc : Json := .object [("$type", .string "Ann"), ("$type", .string "User")]
    v.DistinctNames ∧ read? (format .invariant Theme.empty none true v).captured.output = some doc ∧
      ¬ doc.DistinctKeys ∧
      ∀ keep, doc.keyed keep = .object [("$type", keep (.string "Ann") (.string "User"))] := by
  intro v doc
  have hnames : v.DistinctNames := by
    refine .record _ (by decide) (List.forall_mem_singleton.mpr ?_)
    exact .scalar (.string "Ann")
  refine ⟨hnames, ?_, ?_, fun keep => rfl⟩
  · rw [output_format .invariant Theme.empty none (.inl rfl)]
    exact read?_printed (List.all_eq_true.mp (by decide)) (spelled_document .invariant v)
  · rw [distinctKeys_object_iff]
    exact fun h => absurd h.1 (by decide)

end JsonNotation

end Logbook
