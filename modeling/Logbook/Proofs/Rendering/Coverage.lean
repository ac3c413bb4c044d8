/-
# Which properties are written

A layout with a directive for the message and one for the remaining properties is meant to
write every property of an event: the message writes those that it names, a directive of
its own name writes another, and the rest are fields of one record.

Four places decide about this apart from each other: which names are reserved, which names
the layout has, which the message has, and which properties are left over.  They agree on
every property but one kind: a reserved name counts as named by the layout, though its
directive writes a part of the event and not the property.  Such a property is written by the
message or not at all (`unwritten_reserved_property`); every other one is written, and is a
field of the record exactly if nothing else writes it (`property_written`).
-/
import Logbook.Proofs.Rendering.Layout

namespace Logbook

/-! ## 1. Properties by name -/

theorem lookupNamed_eq_some {name : String} {v : Value} {entries : List (String × Value)}
    (hnodup : (entries.map Prod.fst).Nodup) (h : (name, v) ∈ entries) :
    lookupNamed name entries = some v := by
  induction entries with
  | nil => cases h
  | cons entry rest ih =>
    obtain ⟨n, w⟩ := entry
    obtain ⟨hnew, hrest⟩ := List.nodup_cons.mp hnodup
    rcases List.mem_cons.mp h with heq | hmem
    · obtain ⟨rfl, rfl⟩ := Prod.mk.inj heq
      exact if_pos rfl
    · have hne : n ≠ name := by
        rintro rfl
        exact hnew (List.mem_map.mpr ⟨(n, v), hmem, rfl⟩)
      rw [lookupNamed, if_neg hne]
      exact ih hrest hmem

theorem Properties.get?_eq_some {ps : Properties} {name : String} {v : Value}
    (h : (name, v) ∈ ps.entries) : ps.get? name = some v := lookupNamed_eq_some ps.nodup h

namespace Template

theorem mem_tokens {t : Template} {d : Directive} (h : d ∈ t.directives) :
    .property d ∈ t.tokens := by
  obtain ⟨token, htoken, hd⟩ := List.mem_filterMap.mp h
  cases token with
  | text s => cases hd
  | property d' =>
    obtain rfl : d' = d := Option.some.inj hd
    exact htoken

theorem refersTo_iff {t : Template} {name : String} :
    t.refersTo name ↔ ∃ d ∈ t.directives, d.name = name := by
  rw [refersTo, names, List.contains_iff_mem, List.mem_map]

theorem refersTo_of_mem {t : Template} {name : String} {d : Directive} (hd : d ∈ t.directives)
    (hname : d.name = name) : t.refersTo name := refersTo_iff.mpr ⟨d, hd, hname⟩

end Template

/-! ## 2. Values within spans -/

namespace Span

theorem infix_commaJoin {group : List (Span Role)} {groups : List (List (Span Role))}
    (h : group ∈ groups) : group <:+: commaJoin groups := by
  induction groups with
  | nil => cases h
  | cons first rest ih =>
    cases rest with
    | nil =>
      obtain rfl : group = first := List.mem_singleton.mp h
      exact List.infix_rfl
    | cons next rest =>
      rcases List.mem_cons.mp h with rfl | hrest
      · exact (List.prefix_append group _).isInfix
      · exact (ih hrest).trans (List.suffix_append_of_suffix
          (List.suffix_cons (mark ", ") (commaJoin (next :: rest)))).isInfix

end Span

theorem Display.infix_record (p : Provider) {fields : List (String × Value)} {name : String}
    {v : Value} (h : (name, v) ∈ fields) (f tag : Option String) :
    spans p none v <:+: spans p f (.record tag fields) := by
  have hgroup : .inRole .name name :: .mark "=" :: spans p none v ∈ fieldSpans p fields := by
    induction fields with
    | nil => cases h
    | cons field rest ih =>
      rcases List.mem_cons.mp h with rfl | hrest
      · exact List.mem_cons_self
      · exact List.mem_cons_of_mem _ (ih hrest)
  have hvalue : spans p none v <:+: Span.commaJoin (fieldSpans p fields) :=
    (List.infix_cons (List.infix_cons List.infix_rfl)).trans (Span.infix_commaJoin hgroup)
  rw [spans]
  exact (List.infix_cons (hvalue.trans (List.prefix_append _ _).isInfix)).trans
    (List.suffix_append _ _).isInfix

theorem JsonNotation.infix_record (p : Provider) {fields : List (String × Value)} {name : String}
    {v : Value} (h : (name, v) ∈ fields) (tag : Option String) :
    nested p v <:+: nested p (.record tag fields) := by
  have hgroup : .inRole .name (Text.quote name) :: .mark ": " :: nested p v ∈
      fieldSpans p fields := by
    induction fields with
    | nil => cases h
    | cons field rest ih =>
      rcases List.mem_cons.mp h with rfl | hrest
      · exact List.mem_cons_self
      · exact List.mem_cons_of_mem _ (ih hrest)
  have hvalue : nested p v <:+: Span.commaJoin (fieldSpans p fields ++ tagGroups tag) :=
    (List.infix_cons (List.infix_cons List.infix_rfl)).trans
      (Span.infix_commaJoin (List.mem_append_left _ hgroup))
  rw [nested, object]
  exact List.infix_cons (hvalue.trans (List.prefix_append _ _).isInfix)

/-- The value of a field stands in the spans of a record. -/
theorem Notation.infix_record (n : Notation) (p : Provider) {fields : List (String × Value)}
    {name : String} {v : Value} (h : (name, v) ∈ fields) (tag : Option String) :
    n.spans p none false v <:+: n.spans p none true (.record tag fields) := by
  cases n with
  | display => exact Display.infix_record p h none tag
  | json =>
    simp only [spans, JsonNotation.spans_false]
    exact JsonNotation.infix_record p h tag

theorem Padding.infix_align {σ : Type} (a : Option Alignment) (content : List (Span σ)) :
    content <:+: align a content := by
  cases a with
  | none => exact List.infix_rfl
  | some a =>
    obtain ⟨side, width, hlt⟩ := a
    cases side with
    | left => exact (List.prefix_append _ _).isInfix
    | right => exact (List.suffix_append _ _).isInfix

theorem infix_flatMap {α β : Type} {x : α} {xs : List α} (h : x ∈ xs) (f : α → List β) :
    f x <:+: xs.flatMap f := List.infix_of_mem_flatten (List.mem_map.mpr ⟨x, h, rfl⟩)

/-- The value of a property stands in the spans of a message that names it. -/
theorem MessageStyle.infix_spans (m : MessageStyle) (p : Provider) {t : Template}
    {ps : Properties} {d : Directive} {v : Value} (hd : d ∈ t.directives)
    (hv : ps.get? d.name = some v) : m.valueSpans p d.spec v <:+: m.spans p t ps := by
  have htoken : m.directiveSpans p ps d = Padding.align d.alignment (m.valueSpans p d.spec v) := by
    rw [directiveSpans, hv]
  have hinfix : m.valueSpans p d.spec v <:+: m.directiveSpans p ps d := by
    rw [htoken]
    exact Padding.infix_align _ _
  exact hinfix.trans (infix_flatMap (Template.mem_tokens hd) (m.tokenSpans p ps))

theorem Layout.infix_directiveSpans {l : Layout} {e : Event} {d : Directive}
    {content : List (Span Role)} (h : l.content e d = some content) :
    content <:+: l.directiveSpans e d := by
  rw [directiveSpans, h]
  exact Padding.infix_align _ _

/-! ## 3. Directives that write a property -/

namespace Painter

/-- The writes of a directive of the layout. -/
def directiveWrites (p : Painter) (e : Event) (d : Directive) : Capture :=
  ((p.layout.printer p.theme (.property d)).print e).captured

/-- The writes of a value under a directive of the message, which is itself under a directive of
the layout. -/
def messageValueWrites (p : Painter) (d inner : Directive) (v : Value) : Capture :=
  (MessageStyle.writeValue ⟨d.spec.json, d.spec.literal⟩ p.layout.provider p.theme inner.spec
    v).captured

/-- The writes of a value under a directive of its own name. -/
def namedValueWrites (p : Painter) (d : Directive) (v : Value) : Capture :=
  (Rendering.inRole p.theme .secondaryText (p.layout.propertyText d.spec v)).captured

/-- The writes of a record under the directive for the remaining properties. -/
def recordWrites (p : Painter) (d : Directive) (fields : List (String × Value)) : Capture :=
  ((Notation.ofFlag d.spec.json).format p.layout.provider p.theme none true
    (.record none fields)).captured

/-- The writes of the value of a field of that record. -/
def fieldValueWrites (p : Painter) (d : Directive) (v : Value) : Capture :=
  ((Notation.ofFlag d.spec.json).format p.layout.provider p.theme none false v).captured

/-- A directive of the layout writes the value of a property of the event: the writes of the
value are among its own. -/
inductive Writes (p : Painter) (e : Event) (name : String) (v : Value) (d : Directive) : Prop
  /-- It is for the message, and the message names the property. -/
  | byMessage (inner : Directive) (hpart : Part.ofName d.name = .message)
    (hinner : inner ∈ e.template.directives) (hname : inner.name = name)
    (hwrites : p.messageValueWrites d inner v <:+: p.directiveWrites e d)
  /-- It has the name of the property, and no other meaning. -/
  | byName (hpart : Part.ofName d.name = .property name)
    (hwrites : p.namedValueWrites d v <:+: p.directiveWrites e d)
  /-- It is for the remaining properties, and this is one of them. -/
  | byRecord (hpart : Part.ofName d.name = .properties) (hfield : (name, v) ∈ p.layout.remaining e)
    (hwrites : p.fieldValueWrites d v <:+: p.directiveWrites e d)

theorem directiveWrites_eq (p : Painter) (e : Event) (d : Directive) :
    p.directiveWrites e d = p.theme.paint (p.layout.directiveSpans e d) := by
  rw [directiveWrites, Layout.print_printer, Rendering.captured_puts]
  rfl

theorem recordWrites_eq (p : Painter) (d : Directive) (fields : List (String × Value)) :
    p.recordWrites d fields =
      p.theme.paint ((Notation.ofFlag d.spec.json).spans p.layout.provider none true
        (.record none fields)) := by
  rw [recordWrites, Notation.format_eq, Rendering.captured_bind_pure]

theorem infix_paint (t : Theme) {xs ys : List (Span Role)} (h : xs <:+: ys) :
    t.paint xs <:+: t.paint ys := h.map (Span.map t.style)

theorem infix_render (p : Painter) (e : Event) {d : Directive}
    (hd : d ∈ p.layout.template.directives) :
    p.directiveWrites e d <:+: (p.render e).captured := by
  rw [directiveWrites_eq, render_eq, Rendering.captured_puts, spans, Layout.spans]
  exact infix_paint p.theme
    (infix_flatMap (Template.mem_tokens hd) (p.layout.tokenSpans e))

variable {p : Painter} {e : Event} {name : String} {v : Value} {d : Directive}

theorem writes_of_message (hv : (name, v) ∈ e.properties.entries)
    (hpart : Part.ofName d.name = .message) {inner : Directive}
    (hinner : inner ∈ e.template.directives) (hname : inner.name = name) :
    p.Writes e name v d := by
  refine .byMessage inner hpart hinner hname ?_
  have hget : e.properties.get? inner.name = some v := by
    rw [hname]
    exact Properties.get?_eq_some hv
  have hcontent : p.layout.content e d =
      some (MessageStyle.spans ⟨d.spec.json, d.spec.literal⟩ p.layout.provider e.template
        e.properties) := by
    rw [Layout.content, hpart]
  rw [directiveWrites_eq, messageValueWrites, MessageStyle.writeValue_eq, Rendering.captured_puts]
  exact infix_paint p.theme
    ((MessageStyle.infix_spans _ _ hinner hget).trans (Layout.infix_directiveSpans hcontent))

theorem writes_of_name (hv : (name, v) ∈ e.properties.entries)
    (hpart : Part.ofName d.name = .property name) : p.Writes e name v d := by
  refine .byName hpart ?_
  have hcontent : p.layout.content e d =
      some [.inRole .secondaryText (p.layout.propertyText d.spec v)] := by
    rw [Layout.content, hpart]
    simp only [Properties.get?_eq_some hv, Option.map_some]
  rw [directiveWrites_eq, namedValueWrites, Rendering.inRole_eq, Rendering.captured_puts]
  exact infix_paint p.theme (Layout.infix_directiveSpans hcontent)

theorem content_of_properties (p : Painter) (e : Event) {d : Directive}
    (hpart : Part.ofName d.name = .properties) :
    p.layout.content e d =
      some ((Notation.ofFlag d.spec.json).spans p.layout.provider none true
        (.record none (p.layout.remaining e))) := by
  rw [Layout.content, hpart]

theorem writes_of_remaining (hv : (name, v) ∈ p.layout.remaining e)
    (hpart : Part.ofName d.name = .properties) : p.Writes e name v d := by
  refine .byRecord hpart hv ?_
  rw [directiveWrites_eq, fieldValueWrites, Notation.format_eq, Rendering.captured_bind_pure]
  exact infix_paint p.theme ((Notation.infix_record _ _ hv none).trans
    (Layout.infix_directiveSpans (content_of_properties p e hpart)))

/-- The directive for the remaining properties writes one record of them. -/
theorem directiveWrites_of_properties (p : Painter) (e : Event) {d : Directive}
    (hpart : Part.ofName d.name = .properties) :
    p.directiveWrites e d =
      Padding.align d.alignment (p.recordWrites d (p.layout.remaining e)) := by
  rw [directiveWrites_eq, Layout.directiveSpans, content_of_properties p e hpart, recordWrites_eq,
    ← Padding.paint_align]
  simp only [hpart, reduceCtorEq, if_false]

end Painter

/-! ## 4. Every property -/

namespace Layout

/-- A reserved name that the layout uses.  The directive of that name shows a part of the event,
and never the property. -/
def Reserves (l : Layout) (name : String) : Prop :=
  Part.ofName name ≠ .property name ∧ l.template.refersTo name

theorem mem_remaining {l : Layout} {e : Event} {name : String} {v : Value} :
    (name, v) ∈ l.remaining e ↔
      (name, v) ∈ e.properties.entries ∧ ¬ e.template.refersTo name ∧
        ¬ l.template.refersTo name := by
  simp [remaining]

theorem remaining_sublist (l : Layout) (e : Event) :
    (l.remaining e).Sublist e.properties.entries := List.filter_sublist

theorem nodup_remaining (l : Layout) (e : Event) : ((l.remaining e).map Prod.fst).Nodup :=
  ((l.remaining_sublist e).map Prod.fst).nodup e.properties.nodup

theorem exists_named {l : Layout} {name : String} (h : l.template.refersTo name)
    (hfree : ¬ l.Reserves name) :
    ∃ d ∈ l.template.directives, Part.ofName d.name = .property name := by
  obtain ⟨d, hd, rfl⟩ := Template.refersTo_iff.mp h
  exact ⟨d, hd, Classical.not_not.mp fun hreserved => hfree ⟨hreserved, h⟩⟩

theorem refersTo_of_part {l : Layout} {d : Directive} {name : String}
    (hd : d ∈ l.template.directives) (hpart : Part.ofName d.name = .property name) :
    l.template.refersTo name ∧ ¬ l.Reserves name := by
  obtain rfl : name = d.name := Part.eq_of_ofName hpart
  exact ⟨Template.refersTo_of_mem hd rfl, fun hreserves => hreserves.1 hpart⟩

end Layout

namespace Painter

variable {p : Painter} {e : Event} {name : String} {v : Value}

/-- Apart from the record, a property is written if the message names it or if a directive has
its name and no other meaning. -/
theorem exists_writes_elsewhere_iff (hv : (name, v) ∈ e.properties.entries)
    (hmessage : ∃ d ∈ p.layout.template.directives, Part.ofName d.name = .message) :
    (∃ d ∈ p.layout.template.directives, Part.ofName d.name ≠ .properties ∧ p.Writes e name v d) ↔
      e.template.refersTo name ∨
        (p.layout.template.refersTo name ∧ ¬ p.layout.Reserves name) := by
  constructor
  · rintro ⟨d, hd, hother, hwrites⟩
    cases hwrites with
    | byMessage inner hpart hinner hname => exact .inl (Template.refersTo_of_mem hinner hname)
    | byName hpart => exact .inr (Layout.refersTo_of_part hd hpart)
    | byRecord hpart => exact absurd hpart hother
  · rintro (hnamed | ⟨hused, hfree⟩)
    · obtain ⟨d, hd, hpart⟩ := hmessage
      obtain ⟨inner, hinner, hname⟩ := Template.refersTo_iff.mp hnamed
      refine ⟨d, hd, ?_, writes_of_message hv hpart hinner hname⟩
      rw [hpart]
      simp
    · obtain ⟨d, hd, hpart⟩ := Layout.exists_named hused hfree
      refine ⟨d, hd, ?_, writes_of_name hv hpart⟩
      rw [hpart]
      simp

theorem mem_remaining_iff (hv : (name, v) ∈ e.properties.entries)
    (hmessage : ∃ d ∈ p.layout.template.directives, Part.ofName d.name = .message) :
    (name, v) ∈ p.layout.remaining e ↔
      ¬ p.layout.Reserves name ∧
        ¬ ∃ d ∈ p.layout.template.directives,
          Part.ofName d.name ≠ .properties ∧ p.Writes e name v d := by
  rw [exists_writes_elsewhere_iff hv hmessage, Layout.mem_remaining]
  constructor
  · rintro ⟨-, hunnamed, hunused⟩
    refine ⟨fun hreserves => hunused hreserves.2, ?_⟩
    rintro (hnamed | ⟨hused, -⟩)
    · exact hunnamed hnamed
    · exact hunused hused
  · rintro ⟨hfree, helsewhere⟩
    exact ⟨hv, fun hnamed => helsewhere (.inl hnamed),
      fun hused => helsewhere (.inr ⟨hused, hfree⟩)⟩

/-- A property is written unless only its reserved name stands in the layout. -/
theorem exists_writes_iff (hv : (name, v) ∈ e.properties.entries)
    (hmessage : ∃ d ∈ p.layout.template.directives, Part.ofName d.name = .message)
    (hproperties : ∃ d ∈ p.layout.template.directives, Part.ofName d.name = .properties) :
    (∃ d ∈ p.layout.template.directives, p.Writes e name v d) ↔
      e.template.refersTo name ∨ ¬ p.layout.Reserves name := by
  constructor
  · rintro ⟨d, hd, hwrites⟩
    cases hwrites with
    | byMessage inner hpart hinner hname => exact .inl (Template.refersTo_of_mem hinner hname)
    | byName hpart => exact .inr (Layout.refersTo_of_part hd hpart).2
    | byRecord hpart hfield => exact .inr ((mem_remaining_iff hv hmessage).mp hfield).1
  · intro hreach
    by_cases helsewhere : ∃ d ∈ p.layout.template.directives,
        Part.ofName d.name ≠ .properties ∧ p.Writes e name v d
    · obtain ⟨d, hd, -, hwrites⟩ := helsewhere
      exact ⟨d, hd, hwrites⟩
    · -- nothing else writes it, so it is a field of the record
      have hfree : ¬ p.layout.Reserves name := by
        rcases hreach with hnamed | hfree
        · exact absurd ((exists_writes_elsewhere_iff hv hmessage).mpr (.inl hnamed)) helsewhere
        · exact hfree
      obtain ⟨d, hd, hpart⟩ := hproperties
      exact ⟨d, hd, writes_of_remaining ((mem_remaining_iff hv hmessage).mpr ⟨hfree, helsewhere⟩)
        hpart⟩

/-- **Every property is written, but for reserved names.**  Under a layout with the directives
for the message and for the remaining properties, a property of an event is written by one of
its directives exactly if the message names it or its name is not a reserved one that the
layout uses.  The record of remaining properties has those of them, in the order of the event
and once each, that no other directive writes.  What a directive writes is a part of what the
event writes. -/
theorem property_written (p : Painter) (e : Event)
    (hmessage : ∃ d ∈ p.layout.template.directives, Part.ofName d.name = .message)
    (hproperties : ∃ d ∈ p.layout.template.directives, Part.ofName d.name = .properties) :
    (∀ name v, (name, v) ∈ e.properties.entries →
      ((∃ d ∈ p.layout.template.directives, p.Writes e name v d) ↔
        e.template.refersTo name ∨ ¬ p.layout.Reserves name)) ∧
    (∀ d ∈ p.layout.template.directives, Part.ofName d.name = .properties →
      ∃ fields : List (String × Value),
        p.directiveWrites e d = Padding.align d.alignment (p.recordWrites d fields) ∧
        fields.Sublist e.properties.entries ∧ (fields.map Prod.fst).Nodup ∧
        ∀ name v, (name, v) ∈ e.properties.entries →
          ((name, v) ∈ fields ↔ ¬ p.layout.Reserves name ∧
            ¬ ∃ d ∈ p.layout.template.directives,
              Part.ofName d.name ≠ .properties ∧ p.Writes e name v d)) ∧
    ∀ d ∈ p.layout.template.directives, p.directiveWrites e d <:+: (p.render e).captured := by
  refine ⟨fun name v hv => exists_writes_iff hv hmessage hproperties, fun d hd hpart => ?_,
    fun d hd => p.infix_render e hd⟩
  exact ⟨p.layout.remaining e, p.directiveWrites_of_properties e hpart,
    p.layout.remaining_sublist e, p.layout.nodup_remaining e, fun name v hv => mem_remaining_iff hv hmessage⟩

/-- A property of each kind: named by the message, by the layout, by neither, and reserved. -/
theorem property_written_of_each_kind :
    let p : Painter :=
      ⟨⟨.parse "\x7bLevel\x7d \x7bMessage\x7d \x7bHost\x7d \x7bProperties\x7d", .invariant,
        .full⟩, .empty⟩
    let e : Event :=
      ⟨.information, ⟨0, 0, 0⟩, .parse "saved \x7bId\x7d",
        .ofList [("Id", .ofString "7"), ("Level", .ofString "high"), ("Host", .ofString "db1"),
          ("User", .ofString "ann")], none⟩
    ((∃ d ∈ p.layout.template.directives, Part.ofName d.name = .message) ∧
      ∃ d ∈ p.layout.template.directives, Part.ofName d.name = .properties) ∧
    (∃ d ∈ p.layout.template.directives, p.Writes e "Id" (.ofString "7") d) ∧
    (¬ ∃ d ∈ p.layout.template.directives, p.Writes e "Level" (.ofString "high") d) ∧
    (∃ d ∈ p.layout.template.directives, p.Writes e "Host" (.ofString "db1") d) ∧
    ∃ d ∈ p.layout.template.directives, p.Writes e "User" (.ofString "ann") d := by
  intro p e
  have hdirectives : p.layout.template.directives =
      [.make "Level" none none, .make "Message" none none, .make "Host" none none,
        .make "Properties" none none] := by decide +kernel
  have hmessage : ∃ d ∈ p.layout.template.directives, Part.ofName d.name = .message := by
    rw [hdirectives]
    decide
  have hproperties : ∃ d ∈ p.layout.template.directives, Part.ofName d.name = .properties := by
    rw [hdirectives]
    decide
  have hid : e.template.refersTo "Id" := by decide +kernel
  have hlevel : e.template.refersTo "Level" = false := by decide +kernel
  have hreserved : p.layout.Reserves "Level" := ⟨by decide, by decide +kernel⟩
  have hentries : e.properties.entries =
      [("Id", .ofString "7"), ("Level", .ofString "high"), ("Host", .ofString "db1"),
        ("User", .ofString "ann")] := rfl
  obtain ⟨hwritten, -, -⟩ := property_written p e hmessage hproperties
  rw [hentries] at hwritten
  refine ⟨⟨hmessage, hproperties⟩, ?_, ?_, ?_, ?_⟩
  · exact (hwritten "Id" _ (by simp)).mpr (.inl hid)
  · rw [hwritten "Level" _ (by simp), hlevel]
    exact fun h => h.elim Bool.false_ne_true fun hfree => hfree hreserved
  · exact (hwritten "Host" _ (by simp)).mpr (.inr fun hreserves => hreserves.1 (by decide))
  · exact (hwritten "User" _ (by simp)).mpr (.inr fun hreserves => hreserves.1 (by decide))

/-- A layout for the message and the remaining properties, and an event whose one property has
the name of the message: no directive writes its value. -/
theorem unwritten_reserved_property :
    let p : Painter :=
      ⟨⟨.parse "\x7bMessage\x7d \x7bProperties\x7d", .invariant, .full⟩, .empty⟩
    let e : Event :=
      ⟨.information, ⟨0, 0, 0⟩, .parse "hi", .ofList [("Message", .ofString "lost")], none⟩
    (∃ d ∈ p.layout.template.directives, Part.ofName d.name = .message) ∧
    (∃ d ∈ p.layout.template.directives, Part.ofName d.name = .properties) ∧
    ("Message", .ofString "lost") ∈ e.properties.entries ∧
    (¬ ∃ d ∈ p.layout.template.directives, p.Writes e "Message" (.ofString "lost") d) ∧
    (p.render e).captured.map Span.text = ["hi", " ", "\x7b", "\x7d"] := by
  intro p e
  have hdirectives : p.layout.template.directives =
      [.make "Message" none none, .make "Properties" none none] := by decide +kernel
  have hnone : e.template.directives = [] := by decide +kernel
  have hused : p.layout.template.refersTo "Message" := by decide +kernel
  refine ⟨?_, ?_, ?_, ?_, ?_⟩
  · rw [hdirectives]
    decide
  · rw [hdirectives]
    decide
  · exact List.mem_cons_self
  · rintro ⟨d, hd, hwrites⟩
    cases hwrites with
    | byMessage inner hpart hinner hname =>
      rw [hnone] at hinner
      cases hinner
    | byName hpart =>
      rw [hdirectives] at hd
      rcases List.mem_cons.mp hd with rfl | hd
      · exact absurd hpart (by decide)
      · obtain rfl := List.mem_singleton.mp hd
        exact absurd hpart (by decide)
    | byRecord hpart hfield => exact (Layout.mem_remaining.mp hfield).2.2 hused
  · decide +kernel

end Painter

end Logbook
