/-
# Cutting a text at a character

`cutFirst` and `cutLast` split a text at the first or last place where a character
stands, and drop the character.  Both say nothing when the character is absent, and
putting the parts back around it restores the text (`eq_of_cutFirst`, `eq_of_cutLast`).
-/

namespace Logbook.Text

/-- The parts before and after the first `mark`. -/
def cutFirst (mark : Char) : List Char → Option (List Char × List Char)
  | [] => none
  | c :: rest =>
    if c = mark then some ([], rest)
    else (cutFirst mark rest).map fun (before, after) => (c :: before, after)

/-- The parts before and after the last `mark`. -/
def cutLast (mark : Char) : List Char → Option (List Char × List Char)
  | [] => none
  | c :: rest =>
    match cutLast mark rest with
    | some (before, after) => some (c :: before, after)
    | none => if c = mark then some ([], rest) else none

theorem eq_of_cutFirst {mark : Char} : ∀ {s before after : List Char},
    cutFirst mark s = some (before, after) → s = before ++ mark :: after
  | [], _, _, h => by simp [cutFirst] at h
  | c :: rest, before, after, h => by
    unfold cutFirst at h
    split at h
    · simp_all
    · obtain ⟨⟨b, a⟩, hba, h⟩ := Option.map_eq_some_iff.mp h
      simp only [Prod.mk.injEq] at h
      obtain ⟨rfl, rfl⟩ := h
      simp [eq_of_cutFirst hba]

theorem notMem_of_cutFirst {mark : Char} : ∀ {s before after : List Char},
    cutFirst mark s = some (before, after) → mark ∉ before
  | [], _, _, h => by simp [cutFirst] at h
  | c :: rest, before, after, h => by
    unfold cutFirst at h
    split at h
    · simp_all
    · rename_i hc
      obtain ⟨⟨b, a⟩, hba, h⟩ := Option.map_eq_some_iff.mp h
      simp only [Prod.mk.injEq] at h
      obtain ⟨rfl, rfl⟩ := h
      simp [notMem_of_cutFirst hba, Ne.symm hc]

theorem cutFirst_eq_none_iff {mark : Char} {s : List Char} :
    cutFirst mark s = none ↔ mark ∉ s := by
  induction s with
  | nil => simp [cutFirst]
  | cons c rest ih =>
    by_cases hc : c = mark
    · simp [cutFirst, hc]
    · simp [cutFirst, hc, ih, Ne.symm hc]

theorem cutFirst_append_cons {mark : Char} {before after : List Char} (h : mark ∉ before) :
    cutFirst mark (before ++ mark :: after) = some (before, after) := by
  induction before with
  | nil => simp [cutFirst]
  | cons c rest ih =>
    simp only [List.mem_cons, not_or] at h
    simp [cutFirst, Ne.symm h.1, ih h.2]

theorem cutLast_eq_none_iff {mark : Char} {s : List Char} :
    cutLast mark s = none ↔ mark ∉ s := by
  induction s with
  | nil => simp [cutLast]
  | cons c rest ih =>
    unfold cutLast
    split
    · rename_i b a h
      have : ¬ mark ∉ rest := by rw [← ih, h]; simp
      simp_all
    · rename_i h
      have := ih.mp h
      by_cases hc : c = mark
      · simp [hc]
      · simp [hc, Ne.symm hc, this]

theorem eq_of_cutLast {mark : Char} : ∀ {s before after : List Char},
    cutLast mark s = some (before, after) → s = before ++ mark :: after
  | [], _, _, h => by simp [cutLast] at h
  | c :: rest, before, after, h => by
    unfold cutLast at h
    split at h
    · rename_i b a hba
      simp only [Option.some.injEq, Prod.mk.injEq] at h
      obtain ⟨rfl, rfl⟩ := h
      simp [eq_of_cutLast hba]
    · split at h <;> simp_all

theorem notMem_of_cutLast {mark : Char} : ∀ {s before after : List Char},
    cutLast mark s = some (before, after) → mark ∉ after
  | [], _, _, h => by simp [cutLast] at h
  | c :: rest, before, after, h => by
    unfold cutLast at h
    split at h
    · rename_i b a hba
      simp only [Option.some.injEq, Prod.mk.injEq] at h
      obtain ⟨rfl, rfl⟩ := h
      exact notMem_of_cutLast hba
    · rename_i hnone
      split at h
      · simp only [Option.some.injEq, Prod.mk.injEq] at h
        obtain ⟨rfl, rfl⟩ := h
        exact cutLast_eq_none_iff.mp hnone
      · simp at h

theorem cutLast_append_cons {mark : Char} {before after : List Char} (h : mark ∉ after) :
    cutLast mark (before ++ mark :: after) = some (before, after) := by
  induction before with
  | nil => simp [cutLast, cutLast_eq_none_iff.mpr h]
  | cons c rest ih => simp [cutLast, ih]

end Logbook.Text
