/-
# What a history of insertions leaves

The properties of an event are put in one by one: into a set, from a list of pairs, or on the
event itself, and a name may come again at any time.  `History` is such a run, and
`history_kept` says what is left of it: every name once, in the order in which the names first
came, each with the value that came last.

`Keeps` is the invariant.  One insertion keeps it (`Keeps.insert`); this is where replacing a
value in place matters, because the name then stays where it was first put.  Runs follow by
induction (`Keeps.insertAll`, `History.keeps`).
-/
import Logbook.Event
import Mathlib.Data.Finset.Card

namespace Logbook.Properties

/-! ## 1. The last value of a name -/

/-- The last insertion under the name is that of the value. -/
def LastInserted (pairs : List (String × Value)) (name : String) (v : Value) : Prop :=
  ∃ before after, pairs = before ++ (name, v) :: after ∧ name ∉ after.map Prod.fst

theorem not_lastInserted_nil (name : String) (v : Value) : ¬ LastInserted [] name v := by
  rintro ⟨before, after, h, -⟩
  simp at h

theorem lastInserted_concat {pairs : List (String × Value)} {name other : String} {v w : Value} :
    LastInserted (pairs ++ [(name, v)]) other w ↔
      if other = name then w = v else LastInserted pairs other w := by
  constructor
  · rintro ⟨before, after, h, hlast⟩
    rcases List.eq_nil_or_concat after with rfl | ⟨after, last, rfl⟩
    · obtain ⟨-, heq⟩ := List.append_inj' h rfl
      obtain ⟨rfl, rfl⟩ := Prod.mk.inj (List.cons.inj heq).1
      rw [if_pos rfl]
    · rw [List.concat_eq_append, ← List.cons_append, ← List.append_assoc] at h
      obtain ⟨rfl, heq⟩ := List.append_inj' h rfl
      obtain rfl : (name, v) = last := (List.cons.inj heq).1
      rw [List.concat_eq_append, List.map_append, List.mem_append, not_or] at hlast
      have hne : other ≠ name := by simpa using hlast.2
      rw [if_neg hne]
      exact ⟨before, after, rfl, hlast.1⟩
  · intro h
    split at h
    · rename_i heq
      subst heq h
      exact ⟨pairs, [], rfl, by simp⟩
    · rename_i hne
      obtain ⟨before, after, rfl, hlast⟩ := h
      refine ⟨before, after ++ [(name, v)], by simp, ?_⟩
      simpa [hne] using hlast

/-! ## 2. The invariant -/

/-- The set is what the insertions of the pairs leave, from left to right. -/
structure Keeps (ps : Properties) (pairs : List (String × Value)) : Prop where
  mem_names : ∀ name, name ∈ ps.names ↔ name ∈ pairs.map Prod.fst
  /-- A name that was first put in earlier stands earlier. -/
  ordered : ps.names.Pairwise fun n m =>
    (pairs.map Prod.fst).idxOf n < (pairs.map Prod.fst).idxOf m
  get?_eq : ∀ name v, ps.get? name = some v ↔ LastInserted pairs name v

namespace Keeps

variable {ps : Properties} {pairs : List (String × Value)}

theorem empty : Properties.empty.Keeps [] where
  mem_names _ := Iff.rfl
  ordered := .nil
  get?_eq name v := iff_of_false (by simp [get?, Properties.empty, lookupNamed])
    (not_lastInserted_nil name v)

/-- Later insertions do not change where a name was first put in. -/
theorem ordered_append (h : ps.Keeps pairs) (keys : List String) :
    ps.names.Pairwise fun n m =>
      (pairs.map Prod.fst ++ keys).idxOf n < (pairs.map Prod.fst ++ keys).idxOf m := by
  refine h.ordered.imp_of_mem fun {n m} hn hm hlt => ?_
  rwa [List.idxOf_append_of_mem ((h.mem_names n).mp hn),
    List.idxOf_append_of_mem ((h.mem_names m).mp hm)]

/-- A name that is new stands behind all others, as it was put in behind them. -/
theorem ordered_concat (h : ps.Keeps pairs) {name : String} (hnew : name ∉ ps.names) :
    (ps.names ++ [name]).Pairwise fun n m =>
      (pairs.map Prod.fst ++ [name]).idxOf n < (pairs.map Prod.fst ++ [name]).idxOf m := by
  refine List.pairwise_append.mpr ⟨h.ordered_append [name], List.pairwise_singleton _ _, ?_⟩
  intro n hn m hm
  obtain rfl : m = name := List.mem_singleton.mp hm
  have hin : n ∈ pairs.map Prod.fst := (h.mem_names n).mp hn
  have hout : m ∉ pairs.map Prod.fst := fun hmem => hnew ((h.mem_names m).mpr hmem)
  rw [List.idxOf_append_of_mem hin, List.idxOf_append_of_notMem hout]
  exact Nat.lt_of_lt_of_le (List.idxOf_lt_length_iff.mpr hin) (Nat.le_add_right _ _)

/-- **One insertion keeps the invariant.** -/
theorem insert (h : ps.Keeps pairs) (name : String) (v : Value) :
    (ps.insert name v).Keeps (pairs ++ [(name, v)]) := by
  have hkeys : (pairs ++ [(name, v)]).map Prod.fst = pairs.map Prod.fst ++ [name] := by simp
  refine ⟨fun other => ?_, ?_, fun other w => ?_⟩
  · rw [names_insert, hkeys, List.mem_append, List.mem_singleton, ← h.mem_names other]
    split
    · rename_i hold
      refine ⟨.inl, ?_⟩
      rintro (hmem | rfl)
      · exact hmem
      · exact hold
    · rw [List.mem_append, List.mem_singleton]
  · rw [names_insert, hkeys]
    split
    · exact h.ordered_append [name]
    · rename_i hnew
      exact h.ordered_concat hnew
  · rw [get?_insert, lastInserted_concat]
    split
    · rw [Option.some.injEq, eq_comm]
    · exact h.get?_eq other w

/-- Many insertions keep it. -/
theorem insertAll (h : ps.Keeps pairs) (more : List (String × Value)) :
    (ps.insertAll more).Keeps (pairs ++ more) := by
  induction more generalizing ps pairs with
  | nil =>
    rw [List.append_nil]
    exact h
  | cons pair more ih =>
    have hstep := ih (h.insert pair.1 pair.2)
    rw [List.append_assoc, List.singleton_append] at hstep
    exact hstep

/-- There are as many properties as there are different names. -/
theorem size_eq (h : ps.Keeps pairs) : ps.size = (pairs.map Prod.fst).toFinset.card := by
  have hsame : ps.names.toFinset = (pairs.map Prod.fst).toFinset := by
    ext name
    rw [List.mem_toFinset, List.mem_toFinset, h.mem_names]
  calc ps.size
      = ps.names.length := (List.length_map _).symm
    _ = ps.names.toFinset.card := (List.toFinset_card_of_nodup ps.nodup).symm
    _ = (pairs.map Prod.fst).toFinset.card := by rw [hsame]

end Keeps

/-! ## 3. Histories -/

/-- A run of insertions. -/
inductive History where
  | empty
  /-- A set is made from pairs. -/
  | collect (pairs : List (String × Value))
  /-- A property is put into the set. -/
  | insert (before : History) (name : String) (v : Value)
  /-- The set is handed to an event, and a property is put on the event. -/
  | attach (before : History) (e : Event) (name : String) (v : Value)

namespace History

/-- The set at the end of the run. -/
def properties : History → Properties
  | .empty => Properties.empty
  | .collect pairs => Properties.ofList pairs
  | .insert before name v => before.properties.insert name v
  | .attach before e name v =>
    ((e.withProperties before.properties).withProperty name v).properties

/-- What was inserted, in order. -/
def inserted : History → List (String × Value)
  | .empty => []
  | .collect pairs => pairs
  | .insert before name v => before.inserted ++ [(name, v)]
  | .attach before _ name v => before.inserted ++ [(name, v)]

/-- The names under which something was inserted, in order and with repetitions. -/
def names (h : History) : List String := h.inserted.map Prod.fst

theorem keeps (h : History) : h.properties.Keeps h.inserted := by
  induction h with
  | empty => exact .empty
  | collect pairs => exact Keeps.empty.insertAll pairs
  | insert before name v ih => exact ih.insert name v
  | attach before e name v ih => exact ih.insert name v

end History

/-- **What a history leaves.**  The names are different from each other, are those that were ever
inserted, and stand in the order in which they first were; there are as many properties as
different names; and under each name is the value of its last insertion, or none if there was no
insertion. -/
theorem history_kept (h : History) :
    h.properties.names.Nodup ∧
    (∀ name, name ∈ h.properties.names ↔ name ∈ h.names) ∧
    (h.properties.names.Pairwise fun n m => h.names.idxOf n < h.names.idxOf m) ∧
    h.properties.size = h.names.toFinset.card ∧
    ∀ name, (∀ v, h.properties.get? name = some v ↔ LastInserted h.inserted name v) ∧
      (h.properties.get? name = none ↔ name ∉ h.names) := by
  refine ⟨h.properties.nodup, h.keeps.mem_names, h.keeps.ordered, h.keeps.size_eq,
    fun name => ⟨h.keeps.get?_eq name, ?_⟩⟩
  rw [get?_eq_none_iff, h.keeps.mem_names name]
  rfl

/-- A name that comes again stays in front. -/
example : (History.insert (.collect [("a", .null), ("b", .null)]) "a" .null).properties.names =
    ["a", "b"] := rfl

end Logbook.Properties
