/-
# Patterns in a row

A timestamp pattern is read from left to right, one run of a letter, quotation or escaped
character at a time.  What is read next depends on what stands before it in two ways only: a
quotation or an escape may still be open, and a run of a letter goes on as long as the letter
does.  Where neither is the case, a pattern is written without regard to what comes before it
(`render_append`).

A quotation begins with a mark that is no letter of a field.  So behind a pattern in which
nothing is left open it is copied as it is, and the pattern after it is read afresh
(`text_quotation`).

* `Place` says where in a pattern a character stands, by one character at a time and without
  regard to runs; `Complete` patterns are those that leave nothing open.
* An open quotation ends with the next mark of its kind (`exists_quotation`), so what a complete
  pattern holds behind each of its parts is complete too.  This is the invariant of the scan.
-/
import Logbook.Timestamp.Pattern

namespace Logbook

namespace Pattern

/-! ## 1. Open quotations and escapes -/

/-- A mark that opens a quotation. -/
def IsQuote (c : Char) : Prop := c = '\'' ∨ c = '"'

instance (c : Char) : Decidable (IsQuote c) := inferInstanceAs (Decidable (_ ∨ _))

/-- Where in a pattern a character stands. -/
inductive Place where
  | plain
  /-- In a quotation that a mark has opened. -/
  | quoted (mark : Char)
  /-- Behind a backslash. -/
  | escaped
  deriving DecidableEq, Repr

/-- The place of what follows a character. -/
def Place.after : Place → Char → Place
  | .plain, c => if IsQuote c then .quoted c else if c = '\\' then .escaped else .plain
  | .quoted mark, c => if c = mark then .plain else .quoted mark
  | .escaped, _ => .plain

/-- No quotation of the pattern is left open, and no backslash is without a character. -/
def Complete (pattern : List Char) : Prop := pattern.foldl Place.after .plain = .plain

instance (pattern : List Char) : Decidable (Complete pattern) :=
  inferInstanceAs (Decidable (_ = _))

/-- An open quotation ends with the next mark of its kind. -/
theorem exists_quotation {mark : Char} : ∀ {rest : List Char},
    rest.foldl Place.after (.quoted mark) = .plain →
      ∃ text tail, rest = text ++ mark :: tail ∧ mark ∉ text ∧ Complete tail
  | [], h => absurd h (by simp)
  | c :: rest, h => by
    by_cases hc : c = mark
    · subst hc
      rw [List.foldl_cons, Place.after, if_pos rfl] at h
      exact ⟨[], rest, rfl, by simp, h⟩
    · rw [List.foldl_cons, Place.after, if_neg hc] at h
      obtain ⟨text, tail, rfl, htext, htail⟩ := exists_quotation h
      exact ⟨c :: text, tail, rfl, by simp [htext, Ne.symm hc], htail⟩

theorem Complete.quotation {mark : Char} {rest : List Char} (hmark : IsQuote mark)
    (h : Complete (mark :: rest)) :
    ∃ text tail, rest = text ++ mark :: tail ∧ mark ∉ text ∧ Complete tail := by
  rw [Complete, List.foldl_cons, Place.after, if_pos hmark] at h
  exact exists_quotation h

/-- A plain character leaves nothing open. -/
theorem complete_cons_iff {c : Char} {rest : List Char} (hquote : ¬ IsQuote c) (hc : c ≠ '\\') :
    Complete (c :: rest) ↔ Complete rest := by
  rw [Complete, List.foldl_cons, Place.after, if_neg hquote, if_neg hc]
  rfl

theorem Complete.dropWhile {c : Char} {rest : List Char} (hquote : ¬ IsQuote c) (hc : c ≠ '\\')
    (h : Complete rest) : Complete (rest.dropWhile (· == c)) := by
  induction rest with
  | nil => exact h
  | cons d rest ih =>
    by_cases hd : d = c
    · subst hd
      rw [List.dropWhile_cons_of_pos (by simp)]
      exact ih ((complete_cons_iff hquote hc).mp h)
    · rwa [List.dropWhile_cons_of_neg (by simp [hd])]

/-! ## 2. One step of the scan -/

variable {clock : Clock}

/-- Whether a character is the letter of a field does not depend on the length of its run. -/
theorem field?_eq_none {c : Char} {run : Nat} (h : field? clock c run = none) (run' : Nat) :
    field? clock c run' = none := by
  unfold field? at h ⊢
  split at h
  case h_12 => rfl
  all_goals exact absurd h (by simp)

theorem field?_quote {mark : Char} (h : IsQuote mark) (run : Nat) :
    field? clock mark run = none := by
  rcases h with rfl | rfl
  · rfl
  · rfl

theorem render_field {c : Char} {rest text : List Char}
    (h : field? clock c (1 + (rest.takeWhile (· == c)).length) = some text) :
    render clock (c :: rest) = text ++ render clock (rest.dropWhile (· == c)) := by
  rw [render.eq_def]
  simp only [h]

theorem render_offset (rest : List Char) :
    render clock ('K' :: rest) = offset 3 clock.offset ++ render clock rest := by
  rw [render.eq_def]
  rfl

theorem render_quote {mark : Char} (h : IsQuote mark) (rest : List Char) :
    render clock (mark :: rest) =
      rest.takeWhile (· != mark) ++ render clock ((rest.dropWhile (· != mark)).drop 1) := by
  rw [render.eq_def]
  rcases h with rfl | rfl
  · rfl
  · rfl

theorem render_escape (c : Char) (rest : List Char) :
    render clock ('\\' :: c :: rest) = c :: render clock rest := by
  rw [render.eq_def]
  rfl

theorem render_percent (rest : List Char) :
    render clock ('%' :: rest) = render clock rest := by
  rw [render.eq_def]
  rfl

theorem render_plain {c : Char} (hfield : ∀ run, field? clock c run = none) (hoffset : c ≠ 'K')
    (hquote : ¬ IsQuote c) (hescape : c ≠ '\\') (hpercent : c ≠ '%') (rest : List Char) :
    render clock (c :: rest) = c :: render clock rest := by
  have hmark : ¬ (c = '\'' ∨ c = '"') := hquote
  rw [render.eq_def]
  simp only [hfield, if_neg hoffset, if_neg hmark, if_neg hescape, if_neg hpercent]

/-- A quotation holds what stands before its second mark. -/
theorem cut_quotation {mark : Char} {text : List Char} (h : mark ∉ text) (rest : List Char) :
    (text ++ mark :: rest).takeWhile (· != mark) = text ∧
      ((text ++ mark :: rest).dropWhile (· != mark)).drop 1 = rest := by
  have hpos : ∀ c ∈ text, (c != mark) = true := by
    intro c hc
    rw [bne_iff_ne]
    rintro rfl
    exact h hc
  rw [List.takeWhile_append_of_pos hpos, List.takeWhile_cons_of_neg (by simp),
    List.dropWhile_append_of_pos hpos, List.dropWhile_cons_of_neg (by simp)]
  exact ⟨List.append_nil text, rfl⟩

/-- **A quotation is copied as it is.** -/
theorem render_quotation {mark : Char} (hmark : IsQuote mark) {text : List Char}
    (h : mark ∉ text) (rest : List Char) :
    render clock (mark :: (text ++ mark :: rest)) = text ++ render clock rest := by
  obtain ⟨htext, hrest⟩ := cut_quotation h rest
  rw [render_quote hmark, htext, hrest]

/-! ## 3. Patterns in a row -/

/-- No run of a letter can go on into the pattern. -/
def Breaks (pattern : List Char) : Prop :=
  ∀ c ∈ pattern.head?, ∀ (clock : Clock) (run : Nat), field? clock c run = none

theorem breaks_quote {mark : Char} (h : IsQuote mark) (rest : List Char) :
    Breaks (mark :: rest) := by
  intro c hc clock run
  obtain rfl := Option.some.inj hc
  exact field?_quote h run

/-- A run ends where the next pattern begins. -/
theorem run_append {c : Char} {run : Nat} {text : List Char} (h : field? clock c run = some text)
    {s : List Char} (hs : Breaks s) (rest : List Char) :
    (rest ++ s).takeWhile (· == c) = rest.takeWhile (· == c) ∧
      (rest ++ s).dropWhile (· == c) = rest.dropWhile (· == c) ++ s := by
  induction rest with
  | nil =>
    cases s with
    | nil => exact ⟨rfl, rfl⟩
    | cons d s =>
      have hne : ¬ (d == c) = true := by
        rw [beq_iff_eq]
        rintro rfl
        exact absurd h (by rw [hs d rfl clock run]; simp)
      exact ⟨List.takeWhile_cons_of_neg hne, List.dropWhile_cons_of_neg hne⟩
  | cons d rest ih =>
    by_cases hd : d = c
    · simp [hd, ih]
    · simp [hd]

/-- The letter of a field opens nothing. -/
theorem plain_of_field? {c : Char} {run : Nat} {text : List Char}
    (h : field? clock c run = some text) : ¬ IsQuote c ∧ c ≠ '\\' := by
  constructor
  · intro hquote
    exact absurd h (by rw [field?_quote hquote]; simp)
  · rintro rfl
    exact absurd h (by simp [field?])

/-- **What stands in front of a pattern does not change how it is read.**  If the first pattern
leaves nothing open and no run goes on, both are written as they are written alone.  The scan of
the first one stops where the second one begins: behind each of its parts the rest is complete
again. -/
theorem render_append {p s : List Char} (hp : Complete p) (hs : Breaks s) :
    render clock (p ++ s) = render clock p ++ render clock s := by
  fun_induction render clock p with
  | case1 => rfl
  | case2 c rest text htext ih =>
    -- the run may reach the end of `p`, and ends there, since no run goes on into `s`
    obtain ⟨hquote, hescape⟩ := plain_of_field? htext
    obtain ⟨htake, hdrop⟩ := run_append htext hs rest
    have hrest : Complete (rest.dropWhile (· == c)) :=
      ((complete_cons_iff hquote hescape).mp hp).dropWhile hquote hescape
    rw [List.cons_append, render_field (by rw [htake]; exact htext), hdrop, ih hrest,
      List.append_assoc]
  | case3 rest _ ih =>
    have hrest : Complete rest := (complete_cons_iff (by decide) (by decide)).mp hp
    rw [List.cons_append, render_offset, ih hrest, List.append_assoc]
  | case4 mark rest _ _ hmark ih =>
    -- the mark that ends the quotation stands in `p`, since `p` is complete
    obtain ⟨text, tail, rfl, htext, htail⟩ := hp.quotation hmark
    obtain ⟨htake, hdrop⟩ := cut_quotation htext tail
    rw [hdrop] at ih ⊢
    rw [htake, List.cons_append, List.append_assoc, List.cons_append,
      render_quotation hmark htext, ih htail, List.append_assoc]
  | case5 =>
    -- a backslash at the end
    exact absurd hp (by decide)
  | case6 d rest _ _ _ ih =>
    have hrest : Complete rest := hp
    rw [List.cons_append, List.cons_append, render_escape, ih hrest, List.cons_append]
  | case7 rest _ _ _ _ ih =>
    have hrest : Complete rest := (complete_cons_iff (by decide) (by decide)).mp hp
    rw [List.cons_append, render_percent, ih hrest]
  | case8 c rest hfield hoffset hquote hescape hpercent ih =>
    have hrest : Complete rest := (complete_cons_iff hquote hescape).mp hp
    rw [List.cons_append, render_plain (field?_eq_none hfield) hoffset hquote hescape hpercent,
      ih hrest, List.cons_append]

end Pattern

/-! ## 4. Timestamps -/

namespace Timestamp

/-- Only a pattern of one letter can be a standard one. -/
theorem text_eq_custom (t : Timestamp) {pattern : List Char} (h : pattern.length ≠ 1) :
    t.text pattern = t.custom pattern := by
  unfold text
  split
  · exact absurd rfl h
  · rfl

/-- **A quotation stands between two patterns as it is.**  The pattern in front of it leaves no
quotation open and no backslash without a character; it and the pattern behind are written as they
are written alone, and between them stands the quoted text, whatever letters it holds. -/
theorem text_quotation (t : Timestamp) (mark : Char) (p text r : List Char)
    (hmark : mark = '\'' ∨ mark = '"') (htext : mark ∉ text) (hp : Pattern.Complete p) :
    t.text (p ++ [mark] ++ text ++ [mark] ++ r) = t.custom p ++ text ++ t.custom r := by
  have hshape : p ++ [mark] ++ text ++ [mark] ++ r = p ++ mark :: (text ++ mark :: r) := by
    simp
  have hlong : (p ++ mark :: (text ++ mark :: r)).length ≠ 1 := by
    simp only [List.length_append, List.length_cons]
    omega
  rw [hshape, text_eq_custom t hlong, custom,
    Pattern.render_append hp (Pattern.breaks_quote hmark _), Pattern.render_quotation hmark htext,
    ← List.append_assoc]
  rfl

/-- A quotation of letters and of a mark of the other kind.  The pattern in front of it ends in a
run, and holds both kinds of quotations and an escaped mark; the one behind leaves its own
quotation open. -/
theorem text_quotation_between_runs :
    let t : Timestamp := ⟨1709647629, 123000000, 7200⟩
    let p := "ddd\"'\"\\\"'\"K'MM".toList
    ('\'' = '\'' ∨ '\'' = '"') ∧ '\'' ∉ "MM\"\\".toList ∧ Pattern.Complete p ∧
    t.text (p ++ ['\''] ++ "MM\"\\".toList ++ ['\''] ++ "MM'y".toList) =
      t.custom p ++ "MM\"\\".toList ++ t.custom "MM'y".toList := by
  intro t p
  have htext : '\'' ∉ "MM\"\\".toList := by decide
  have hp : Pattern.Complete p := by decide
  exact ⟨.inl rfl, htext, hp, text_quotation t '\'' p _ _ (.inl rfl) htext hp⟩

end Timestamp

end Logbook
