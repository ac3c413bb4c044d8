/-
# Properties of an event

Named values in the order of their first insertion.  A later value under the same name
takes the place of the earlier one, so no name occurs twice; the type carries that fact.

`names_insert` says what an insertion does to the names, and `get?_insert` what it does to
every look-up.
-/
import Logbook.Value

namespace Logbook

/-! ## 1. Lists of named values -/

/-- Puts a value under a name: in place of the value that is there, else at the end. -/
def insertNamed (name : String) (v : Value) : List (String × Value) → List (String × Value)
  | [] => [(name, v)]
  | (n, w) :: rest => if n = name then (n, v) :: rest else (n, w) :: insertNamed name v rest

/-- The value under a name. -/
def lookupNamed (name : String) : List (String × Value) → Option Value
  | [] => none
  | (n, v) :: rest => if n = name then some v else lookupNamed name rest

theorem map_fst_insertNamed (name : String) (v : Value) (entries : List (String × Value)) :
    (insertNamed name v entries).map Prod.fst =
      if name ∈ entries.map Prod.fst then entries.map Prod.fst
      else entries.map Prod.fst ++ [name] := by
  induction entries with
  | nil => simp [insertNamed]
  | cons entry rest ih =>
    obtain ⟨n, w⟩ := entry
    by_cases h : n = name
    · simp [insertNamed, h]
    · by_cases hm : name ∈ rest.map Prod.fst <;> simp_all [insertNamed, Ne.symm h]

theorem nodup_insertNamed (name : String) (v : Value) {entries : List (String × Value)}
    (h : (entries.map Prod.fst).Nodup) : ((insertNamed name v entries).map Prod.fst).Nodup := by
  rw [map_fst_insertNamed]
  split
  · exact h
  · rename_i hm
    rw [List.nodup_append]
    refine ⟨h, by simp, ?_⟩
    rintro a ha b hb rfl
    simp only [List.mem_singleton] at hb
    exact hm (hb ▸ ha)

theorem lookupNamed_insertNamed (name other : String) (v : Value)
    (entries : List (String × Value)) :
    lookupNamed other (insertNamed name v entries) =
      if other = name then some v else lookupNamed other entries := by
  induction entries with
  | nil => by_cases h : other = name <;> simp_all [insertNamed, lookupNamed, eq_comm]
  | cons entry rest ih =>
    obtain ⟨n, w⟩ := entry
    by_cases h : n = name
    · by_cases ho : other = name <;> simp_all [insertNamed, lookupNamed, eq_comm]
    · by_cases hn : n = other
      · have : other ≠ name := hn ▸ h
        simp_all [insertNamed, lookupNamed]
      · simp_all [insertNamed, lookupNamed]

theorem lookupNamed_eq_none_iff {name : String} {entries : List (String × Value)} :
    lookupNamed name entries = none ↔ name ∉ entries.map Prod.fst := by
  induction entries with
  | nil => simp [lookupNamed]
  | cons entry rest ih =>
    obtain ⟨n, v⟩ := entry
    by_cases h : n = name
    · simp [lookupNamed, h]
    · simp only [lookupNamed, if_neg h, ih, List.map_cons, List.mem_cons, Ne.symm h, false_or]

/-! ## 2. Property sets -/

/-- Named values without repeated names. -/
structure Properties where
  entries : List (String × Value)
  nodup : (entries.map Prod.fst).Nodup

namespace Properties

/-- No properties. -/
def empty : Properties := ⟨[], by simp⟩

/-- Adds a property, or replaces its value. -/
def insert (ps : Properties) (name : String) (v : Value) : Properties :=
  ⟨insertNamed name v ps.entries, nodup_insertNamed name v ps.nodup⟩

/-- Inserts the pairs of a list from left to right. -/
def insertAll (ps : Properties) (pairs : List (String × Value)) : Properties :=
  pairs.foldl (fun ps (name, v) => ps.insert name v) ps

/-- The properties that a list of pairs gives. -/
def ofList (pairs : List (String × Value)) : Properties := empty.insertAll pairs

/-- The value of a property. -/
def get? (ps : Properties) (name : String) : Option Value := lookupNamed name ps.entries

/-- Whether there is a property of the name. -/
def contains (ps : Properties) (name : String) : Bool := (ps.get? name).isSome

/-- The number of properties. -/
def size (ps : Properties) : Nat := ps.entries.length

/-- The names in order. -/
def names (ps : Properties) : List String := ps.entries.map Prod.fst

theorem names_insert (ps : Properties) (name : String) (v : Value) :
    (ps.insert name v).names = if name ∈ ps.names then ps.names else ps.names ++ [name] :=
  map_fst_insertNamed name v ps.entries

theorem get?_insert (ps : Properties) (name other : String) (v : Value) :
    (ps.insert name v).get? other = if other = name then some v else ps.get? other :=
  lookupNamed_insertNamed name other v ps.entries

theorem get?_eq_none_iff {ps : Properties} {name : String} :
    ps.get? name = none ↔ name ∉ ps.names := lookupNamed_eq_none_iff

end Properties

end Logbook
