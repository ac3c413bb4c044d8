/-
# What layers of themes leave

Themes are built from empty, named and listed ones by adding styles and by laying one theme over
another, which may be built in any way itself (`Theme.Build`).  Read from left to right, such an
expression is a row of assignments, and a row of names.

What it builds is what comes last in these rows: the last style that a role is assigned, and the
last name (`Build.Keeps`).  Each way to build a theme keeps to that, and it does not matter how the
assignments are spread over layers (`Build.keeps`).  It would not hold if one of them let the
earlier assignment stand, or if a layer without a name took the name away.  Nor does it matter that
a list of styles is collected at once, where other styles are added one by one (`Keeps.addAll`):
what comes last leaves one theme (`Keeps.unique`).

Two consequences are laws of their own: layers may be put together in any order of the parentheses
(`merge_assoc`), and the empty theme is no layer at all (`empty_merge`, `merge_empty`).
-/
import Logbook.Theme
import Mathlib.Data.List.Dedup

namespace Logbook

namespace Theme

/-! ## 1. Layers -/

theorem merge_assoc (t u v : Theme) : (t.merge u).merge v = t.merge (u.merge v) :=
  congrArg₂ Theme.mk (Option.or_assoc).symm (funext fun _ => (Option.or_assoc).symm)

theorem empty_merge (t : Theme) : empty.merge t = t :=
  congrArg₂ Theme.mk Option.or_none (funext fun _ => Option.or_none)

theorem merge_empty (t : Theme) : t.merge empty = t :=
  congrArg₂ Theme.mk Option.none_or (funext fun _ => Option.none_or)

/-! ## 2. Expressions -/

/-- A way to build a theme. -/
inductive Build where
  | empty
  | named (name : String)
  | ofStyles (name : String) (styles : List (Role × Style))
  | add (base : Build) (role : Role) (style : Style)
  | merge (base top : Build)

namespace Build

/-- The theme that is built. -/
def theme : Build → Theme
  | empty => .empty
  | named name => .named name
  | ofStyles name styles => .ofStyles name styles
  | add base role style => base.theme.add role style
  | merge base top => base.theme.merge top.theme

/-- The styles that are assigned, in the order in which they are applied. -/
def assignments : Build → List (Role × Style)
  | empty => []
  | named _ => []
  | ofStyles _ styles => styles
  | add base role style => base.assignments ++ [(role, style)]
  | merge base top => base.assignments ++ top.assignments

/-- The names that are given, in the order in which they are applied. -/
def names : Build → List String
  | empty => []
  | named name => [name]
  | ofStyles name _ => [name]
  | add base _ _ => base.names
  | merge base top => base.names ++ top.names

/-- The last style that is assigned to a role. -/
def lastStyle? (assignments : List (Role × Style)) (role : Role) : Option Style :=
  (assignments.filter (·.1 = role)).getLast?.map Prod.snd

theorem lastStyle?_append (before after : List (Role × Style)) (role : Role) :
    lastStyle? (before ++ after) role = (lastStyle? after role).or (lastStyle? before role) := by
  rw [lastStyle?, List.filter_append, List.getLast?_append, Option.map_or]
  rfl

theorem lastStyle?_singleton (role other : Role) (style : Style) :
    lastStyle? [(role, style)] other = if other = role then some style else none := by
  by_cases h : other = role
  · simp [lastStyle?, h]
  · simp [lastStyle?, h, Ne.symm h]

/-- The map of a list of pairs has the last style of each role. -/
theorem lookup_reverse (styles : List (Role × Style)) (role : Role) :
    styles.reverse.lookup role = lastStyle? styles role := by
  induction styles with
  | nil => rfl
  | cons pair styles ih =>
    have hpair : [pair].lookup role = lastStyle? [pair] role := by
      rw [lastStyle?_singleton, List.lookup_cons]
      by_cases h : role = pair.1
      · simp [h]
      · simp [h, beq_eq_false_iff_ne.mpr h]
    rw [List.reverse_cons, List.lookup_append, ih, hpair, ← lastStyle?_append]
    rfl

theorem isSome_lastStyle?_iff {assignments : List (Role × Style)} {role : Role} :
    (lastStyle? assignments role).isSome = true ↔ role ∈ assignments.map Prod.fst := by
  rw [lastStyle?, Option.isSome_map, List.getLast?_isSome, Ne, List.filter_eq_nil_iff]
  simp

/-! ## 3. The invariant -/

/-- The theme is what comes last in the names and the assignments. -/
structure Keeps (t : Theme) (names : List String) (assignments : List (Role × Style)) : Prop where
  name_eq : t.name = names.getLast?
  assigned_eq : ∀ role, t.assigned role = lastStyle? assignments role

namespace Keeps

variable {t top : Theme} {names names' : List String}
  {assignments assignments' : List (Role × Style)}

theorem empty : Keeps .empty [] [] := ⟨rfl, fun _ => rfl⟩

theorem named (name : String) : Keeps (.named name) [name] [] := ⟨rfl, fun _ => rfl⟩

theorem ofStyles (name : String) (styles : List (Role × Style)) :
    Keeps (.ofStyles name styles) [name] styles := ⟨rfl, lookup_reverse styles⟩

theorem add (h : Keeps t names assignments) (role : Role) (style : Style) :
    Keeps (t.add role style) names (assignments ++ [(role, style)]) := by
  refine ⟨h.name_eq, fun other => ?_⟩
  rw [lastStyle?_append, lastStyle?_singleton, ← h.assigned_eq]
  change (if other = role then some style else t.assigned other) = _
  split
  · rfl
  · rfl

/-- **A layer keeps to what comes last**, as its own assignments and names come behind the others. -/
theorem merge (h : Keeps t names assignments) (htop : Keeps top names' assignments') :
    Keeps (t.merge top) (names ++ names') (assignments ++ assignments') := by
  refine ⟨?_, fun role => ?_⟩
  · rw [List.getLast?_append, ← h.name_eq, ← htop.name_eq]
    rfl
  · rw [lastStyle?_append, ← h.assigned_eq, ← htop.assigned_eq]
    rfl

/-- Many styles are added one by one. -/
theorem addAll (h : Keeps t names assignments) (styles : List (Role × Style)) :
    Keeps (styles.foldl (fun t (role, style) => t.add role style) t) names
      (assignments ++ styles) := by
  induction styles generalizing t assignments with
  | nil =>
    rw [List.append_nil]
    exact h
  | cons pair styles ih =>
    rw [List.append_cons]
    exact ih (h.add pair.1 pair.2)

/-- What comes last leaves one theme. -/
theorem unique {u : Theme} (h : Keeps t names assignments) (hu : Keeps u names assignments) :
    t = u :=
  congrArg₂ Theme.mk (h.name_eq.trans hu.name_eq.symm)
    (funext fun role => (h.assigned_eq role).trans (hu.assigned_eq role).symm)

theorem contains_iff (h : Keeps t names assignments) (role : Role) :
    t.contains role = true ↔ role ∈ assignments.map Prod.fst := by
  rw [contains, h.assigned_eq, isSome_lastStyle?_iff]

/-- **The roles with a style of their own** are those that were assigned one. -/
theorem size_eq (h : Keeps t names assignments) :
    t.size = (assignments.map Prod.fst).dedup.length := by
  have hall : Role.all.Nodup := by decide
  have hperm : t.roles.Perm (assignments.map Prod.fst).dedup := by
    refine (List.perm_ext_iff_of_nodup (hall.filter _) (List.nodup_dedup _)).mpr fun role => ?_
    rw [List.mem_filter, List.mem_dedup, h.contains_iff]
    exact and_iff_right (Role.mem_all role)
  exact hperm.length_eq

end Keeps

/-! ## 4. What is built -/

/-- **Every way to build a theme keeps to what comes last.** -/
theorem keeps (b : Build) : Keeps b.theme b.names b.assignments := by
  induction b with
  | empty => exact .empty
  | named name => exact .named name
  | ofStyles name styles => exact .ofStyles name styles
  | add base role style ih => exact ih.add role style
  | merge base top ih ihTop => exact ih.merge ihTop

theorem theme_addAll (b : Build) (styles : List (Role × Style)) :
    (styles.foldl (fun b (role, style) => b.add role style) b).theme =
      styles.foldl (fun t (role, style) => t.add role style) b.theme := by
  induction styles generalizing b with
  | nil => rfl
  | cons pair styles ih => exact ih (b.add pair.1 pair.2)

/-- **The last assignment wins, and so does the last name**, whatever the layers are.  A role that
was never assigned is plain, and the size counts each of the others once.  So layers may be put
together in any order of the parentheses, the empty theme is no layer, and a list of styles that is
collected at once leaves what its pairs leave one by one. -/
theorem theme_of_last (b : Build) :
    (∀ role, b.theme.style role = (lastStyle? b.assignments role).getD .plain) ∧
      b.theme.size = (b.assignments.map Prod.fst).dedup.length ∧
      b.theme.name = b.names.getLast? ∧
      (∀ t u v : Theme, (t.merge u).merge v = t.merge (u.merge v)) ∧
      (∀ t : Theme, Theme.empty.merge t = t ∧ t.merge .empty = t) ∧
      ∀ name styles, Theme.ofStyles name styles =
        (styles.foldl (fun b (role, style) => b.add role style) (Build.named name)).theme := by
  have h := b.keeps
  refine ⟨fun role => ?_, h.size_eq, h.name_eq, merge_assoc,
    fun t => ⟨empty_merge t, merge_empty t⟩, fun name styles => ?_⟩
  · rw [style, h.assigned_eq]
  · rw [theme_addAll]
    exact (Keeps.ofStyles name styles).unique ((Keeps.named name).addAll styles)

/-- A layer without a name, with a role twice, over a named one. -/
example :
    let base : Build := .add (.named "base") .name { foreground := Ink.ofNat? 7 }
    let top : Build := .add (.add .empty .name { foreground := Ink.ofNat? 9 }) .name .plain
    (base.merge top).theme.name = some "base" ∧ (base.merge top).theme.size = 1 ∧
      (base.merge top).theme.style .name = .plain := by
  decide

end Build

end Theme

end Logbook
