/-
# Where aliases lead

The definitions of a theme are resolved role by role, and from each role its aliases are
followed.  The walk is given as many steps as there are roles.  That this number is right is
shown here: a walk comes to an end within it, or it never does.

* A role from which the aliases come back to a role that was visited has no end
  (`follow_of_revisits`).
* From any other role each step visits a role that is new.  So when as many steps are left
  as there are roles that were not visited yet, they suffice (`exists_follow`).

`resolve_leadsTo` puts this together for a list of definitions: it fails at the first role whose
aliases come back, and otherwise gives every listed role the style at the end of its aliases.
A role may be listed several times; its last definition is the one in force.
-/
import Logbook.Theme.File
import Mathlib.Data.List.Perm.Subperm
import Mathlib.Logic.Relation

namespace Logbook

namespace Theme

open Relation

/-! ## 1. Definitions in force -/

namespace Definitions

variable {ds : Definitions} {role target : Role} {d : StyleDefinition} {style : Style}

/-- The roles that are defined, in order and with repetitions. -/
def listed (ds : Definitions) : List Role := ds.map Prod.fst

/-- The last definition of a role. -/
def InForce (ds : Definitions) (role : Role) (d : StyleDefinition) : Prop :=
  ∃ before after : Definitions, ds = before ++ (role, d) :: after ∧ role ∉ after.listed

/-- The definition in force of a role is an alias of another one. -/
def Refers (ds : Definitions) (role target : Role) : Prop := ds.InForce role (.alias target)

/-- The aliases from a role come back to a role that they visited. -/
def Revisits (ds : Definitions) (role : Role) : Prop :=
  ∃ visited, ReflTransGen ds.Refers role visited ∧ TransGen ds.Refers visited visited

/-- The style of a role that is no alias: that of its attributes, or the plain one if the role is
not listed. -/
def Settles (ds : Definitions) (role : Role) (style : Style) : Prop :=
  (∃ a, ds.InForce role (.attributes a) ∧ style = a.style) ∨ (role ∉ ds.listed ∧ style = .plain)

/-- The aliases from a role end at one with the style. -/
def LeadsTo (ds : Definitions) (role : Role) (style : Style) : Prop :=
  ∃ last, ReflTransGen ds.Refers role last ∧ ds.Settles last style

theorem notMem_listed_iff : role ∉ ds.listed ↔ ∀ e ∈ ds, e.1 ≠ role := by
  simp only [listed, List.mem_map, not_exists, not_and, ne_eq]

/-- **Looking a role up finds its last definition.** -/
theorem find?_eq_some_iff : ds.find? role = some d ↔ ds.InForce role d := by
  rw [find?, Option.map_eq_some_iff]
  constructor
  · rintro ⟨⟨r, d'⟩, hfind, rfl⟩
    obtain ⟨hr, after, before, hsplit, hafter⟩ := List.find?_eq_some_iff_append.mp hfind
    obtain rfl : r = role := of_decide_eq_true hr
    refine ⟨before.reverse, after.reverse, ?_, ?_⟩
    · have hds := congrArg List.reverse hsplit
      simpa using hds
    · refine notMem_listed_iff.mpr fun e he => ?_
      simpa using hafter e (List.mem_reverse.mp he)
  · rintro ⟨before, after, rfl, hafter⟩
    refine ⟨(role, d), ?_, rfl⟩
    refine List.find?_eq_some_iff_append.mpr
      ⟨decide_eq_true rfl, after.reverse, before.reverse, by simp, fun e he => ?_⟩
    simpa using notMem_listed_iff.mp hafter e (List.mem_reverse.mp he)

theorem find?_eq_none_iff : ds.find? role = none ↔ role ∉ ds.listed := by
  rw [find?, Option.map_eq_none_iff, List.find?_eq_none, notMem_listed_iff]
  simp

/-- A role whose aliases come back is an alias, and so are those of its target. -/
theorem Revisits.next (h : ds.Revisits role) :
    ∃ target, ds.Refers role target ∧ ds.Revisits target := by
  obtain ⟨visited, hpath, hround⟩ := h
  rcases hpath.cases_head with rfl | ⟨target, hrefers, hrest⟩
  · obtain ⟨target, hrefers, hback⟩ := TransGen.head'_iff.mp hround
    exact ⟨target, hrefers, role, hback, hround⟩
  · exact ⟨target, hrefers, visited, hrest, hround⟩

theorem Revisits.of_refers (hrefers : ds.Refers role target) (h : ds.Revisits target) :
    ds.Revisits role := by
  obtain ⟨visited, hpath, hround⟩ := h
  exact ⟨visited, .head hrefers hpath, hround⟩

theorem LeadsTo.of_refers (hrefers : ds.Refers role target) (h : ds.LeadsTo target style) :
    ds.LeadsTo role style := by
  obtain ⟨last, hpath, hlast⟩ := h
  exact ⟨last, .head hrefers hpath, hlast⟩

end Definitions

open Definitions

/-! ## 2. One walk -/

variable {ds : Definitions} {role target : Role} {style : Style}

theorem follow_of_refers_zero (h : ds.Refers role target) : follow ds 0 role = none := by
  rw [follow, find?_eq_some_iff.mpr h]

theorem follow_of_refers_succ (h : ds.Refers role target) (steps : Nat) :
    follow ds (steps + 1) role = follow ds steps target := by
  rw [follow, find?_eq_some_iff.mpr h]

theorem follow_of_settles (h : ds.Settles role style) (steps : Nat) :
    follow ds steps role = some style := by
  rcases h with ⟨a, hforce, rfl⟩ | ⟨hlisted, rfl⟩
  · rw [follow, find?_eq_some_iff.mpr hforce]
  · rw [follow, find?_eq_none_iff.mpr hlisted]

/-- A role is an alias, or its style is settled. -/
theorem refers_or_settles (ds : Definitions) (role : Role) :
    (∃ target, ds.Refers role target) ∨ ∃ style, ds.Settles role style := by
  cases hfind : ds.find? role with
  | none => exact .inr ⟨.plain, .inr ⟨find?_eq_none_iff.mp hfind, rfl⟩⟩
  | some d =>
    have hforce : ds.InForce role d := find?_eq_some_iff.mp hfind
    rcases d with target | a
    · exact .inl ⟨target, hforce⟩
    · exact .inr ⟨a.style, .inl ⟨a, hforce, rfl⟩⟩

/-- A walk that ends has come to the end of the aliases. -/
theorem leadsTo_of_follow {steps : Nat} (h : follow ds steps role = some style) :
    ds.LeadsTo role style := by
  induction steps generalizing role with
  | zero =>
    rcases refers_or_settles ds role with ⟨target, hrefers⟩ | ⟨style', hsettles⟩
    · rw [follow_of_refers_zero hrefers] at h
      cases h
    · rw [follow_of_settles hsettles] at h
      obtain rfl := Option.some.inj h
      exact ⟨role, .refl, hsettles⟩
  | succ steps ih =>
    rcases refers_or_settles ds role with ⟨target, hrefers⟩ | ⟨style', hsettles⟩
    · rw [follow_of_refers_succ hrefers] at h
      exact (ih h).of_refers hrefers
    · rw [follow_of_settles hsettles] at h
      obtain rfl := Option.some.inj h
      exact ⟨role, .refl, hsettles⟩

/-- Aliases that come back are followed for ever. -/
theorem follow_of_revisits (h : ds.Revisits role) (steps : Nat) :
    follow ds steps role = none := by
  induction steps generalizing role with
  | zero =>
    obtain ⟨target, hrefers, -⟩ := h.next
    exact follow_of_refers_zero hrefers
  | succ steps ih =>
    obtain ⟨target, hrefers, hnext⟩ := h.next
    rw [follow_of_refers_succ hrefers, ih hnext]

/-- **Aliases that do not come back are followed to their end.**  The roles that were visited are
different ones, all of them lead here, and as many steps are left as there are other roles. -/
theorem exists_follow {steps : Nat} {visited : List Role} (hdistinct : visited.Nodup)
    (hpath : ∀ r ∈ visited, TransGen ds.Refers r role)
    (hroom : visited.length + steps = Role.all.length) (h : ¬ ds.Revisits role) :
    ∃ style, follow ds steps role = some style := by
  induction steps generalizing role visited with
  | zero =>
    rcases refers_or_settles ds role with ⟨target, hrefers⟩ | ⟨style, hsettles⟩
    · -- The role is one more than there are.
      have hnew : role ∉ visited := fun hmem => h ⟨role, .refl, hpath role hmem⟩
      have hsubset : role :: visited ⊆ Role.all := fun r _ => Role.mem_all r
      have hlength := ((List.nodup_cons.mpr ⟨hnew, hdistinct⟩).subperm hsubset).length_le
      rw [List.length_cons] at hlength
      omega
    · exact ⟨style, follow_of_settles hsettles 0⟩
  | succ steps ih =>
    rcases refers_or_settles ds role with ⟨target, hrefers⟩ | ⟨style, hsettles⟩
    · have hnew : role ∉ visited := fun hmem => h ⟨role, .refl, hpath role hmem⟩
      have hpath' : ∀ r ∈ role :: visited, TransGen ds.Refers r target := by
        intro r hr
        rcases List.mem_cons.mp hr with rfl | hr
        · exact .single hrefers
        · exact (hpath r hr).tail hrefers
      have hroom' : (role :: visited).length + steps = Role.all.length := by
        rw [List.length_cons]
        omega
      rw [follow_of_refers_succ hrefers]
      exact ih (List.nodup_cons.mpr ⟨hnew, hdistinct⟩) hpath' hroom'
        fun hback => h (hback.of_refers hrefers)
    · exact ⟨style, follow_of_settles hsettles (steps + 1)⟩

/-- The steps that a walk is given tell whether it ever ends. -/
theorem follow_eq_none_iff : follow ds Role.all.length role = none ↔ ds.Revisits role := by
  refine ⟨fun hnone => ?_, fun h => follow_of_revisits h _⟩
  by_contra h
  obtain ⟨style, hstyle⟩ := exists_follow List.nodup_nil (by simp) (Nat.zero_add _) h
  rw [hnone] at hstyle
  cases hstyle

/-- Aliases that end do so after a number of steps. -/
theorem follow_of_leadsTo (h : ds.LeadsTo role style) :
    ∃ n, ∀ steps, follow ds steps role = if steps < n then none else some style := by
  obtain ⟨last, hpath, hlast⟩ := h
  induction hpath using ReflTransGen.head_induction_on with
  | refl => exact ⟨0, fun steps => follow_of_settles hlast steps⟩
  | head hrefers _ ih =>
    obtain ⟨n, hn⟩ := ih
    refine ⟨n + 1, fun steps => ?_⟩
    cases steps with
    | zero => exact follow_of_refers_zero hrefers
    | succ steps =>
      rw [follow_of_refers_succ hrefers, hn]
      simp only [Nat.add_lt_add_iff_right]

theorem follow_eq_some_iff :
    follow ds Role.all.length role = some style ↔ ds.LeadsTo role style := by
  refine ⟨leadsTo_of_follow, fun h => ?_⟩
  obtain ⟨n, hn⟩ := follow_of_leadsTo h
  have hends : ¬ ds.Revisits role := by
    intro hback
    have hnone : follow ds n role = none := follow_of_revisits hback n
    rw [hn, if_neg (Nat.lt_irrefl n)] at hnone
    cases hnone
  have hsome : follow ds Role.all.length role ≠ none := mt follow_eq_none_iff.mp hends
  rw [hn] at hsome ⊢
  exact if_neg fun hlt => hsome (if_pos hlt)

/-! ## 3. Every role in turn -/

theorem assign_cons_of_some {roles : List Role} (h : follow ds Role.all.length role = some style)
    (t : Theme) : assign ds (role :: roles) t = assign ds roles (t.add role style) := by
  rw [assign, h]

theorem assign_cons_of_none {roles : List Role} (h : follow ds Role.all.length role = none)
    (t : Theme) : assign ds (role :: roles) t = .error (.aliasCycle role) := by
  rw [assign, h]

/-- Roles whose walks end are assigned what they lead to, and no other role is touched. -/
theorem assign_of_ends {roles : List Role} (h : ∀ r ∈ roles, ¬ ds.Revisits r) (t : Theme) :
    ∃ result, assign ds roles t = .ok result ∧ ∀ role,
      result.assigned role =
        if role ∈ roles then follow ds Role.all.length role else t.assigned role := by
  induction roles generalizing t with
  | nil => exact ⟨t, rfl, fun role => rfl⟩
  | cons first roles ih =>
    have hfirst : ¬ ds.Revisits first := h first List.mem_cons_self
    obtain ⟨style, hstyle⟩ := Option.ne_none_iff_exists'.mp (mt follow_eq_none_iff.mp hfirst)
    obtain ⟨result, hresult, hassigned⟩ :=
      ih (fun r hr => h r (List.mem_cons_of_mem _ hr)) (t.add first style)
    refine ⟨result, (assign_cons_of_some hstyle t).trans hresult, fun role => ?_⟩
    rw [hassigned, add]
    by_cases hrest : role ∈ roles
    · simp [hrest]
    · by_cases hrole : role = first
      · simp [hrole, hstyle]
      · simp [hrest, hrole]

/-- The first role whose walk does not end is the one that is reported. -/
theorem assign_of_revisits {before after : List Role} (hbefore : ∀ r ∈ before, ¬ ds.Revisits r)
    (h : ds.Revisits role) (t : Theme) :
    assign ds (before ++ role :: after) t = .error (.aliasCycle role) := by
  induction before generalizing t with
  | nil => exact assign_cons_of_none (follow_of_revisits h _) t
  | cons first before ih =>
    have hfirst : ¬ ds.Revisits first := hbefore first List.mem_cons_self
    obtain ⟨style, hstyle⟩ := Option.ne_none_iff_exists'.mp (mt follow_eq_none_iff.mp hfirst)
    rw [List.cons_append, assign_cons_of_some hstyle]
    exact ih (fun r hr => hbefore r (List.mem_cons_of_mem _ hr)) _

/-- The aliases of no listed role come back, or there is a first one whose aliases do. -/
theorem ends_or_revisits (ds : Definitions) :
    (∀ r ∈ ds.listed, ¬ ds.Revisits r) ∨
    ∃ before role after, ds.listed = before ++ role :: after ∧ ds.Revisits role ∧
      ∀ r ∈ before, ¬ ds.Revisits r := by
  cases hfirst : ds.listed.find? fun r => follow ds Role.all.length r = none with
  | none =>
    refine .inl fun r hr hback => ?_
    exact List.find?_eq_none.mp hfirst r hr (decide_eq_true (follow_eq_none_iff.mpr hback))
  | some role =>
    obtain ⟨hrole, before, after, hsplit, hbefore⟩ := List.find?_eq_some_iff_append.mp hfirst
    have hback : ds.Revisits role := follow_eq_none_iff.mp (of_decide_eq_true hrole)
    refine .inr ⟨before, role, after, hsplit, hback, fun r hr hback => ?_⟩
    simpa [follow_eq_none_iff.mpr hback] using hbefore r hr

theorem resolve_of_ends (h : ∀ r ∈ ds.listed, ¬ ds.Revisits r) :
    ∃ t, resolve ds = .ok t ∧ (∀ role, t.contains role = true ↔ role ∈ ds.listed) ∧
      ∀ role style, t.assigned role = some style ↔ role ∈ ds.listed ∧ ds.LeadsTo role style := by
  obtain ⟨t, ht, hassigned⟩ := assign_of_ends h empty
  refine ⟨t, ht, fun role => ?_, fun role style => ?_⟩
  · rw [contains, hassigned, Option.isSome_iff_ne_none]
    by_cases hlisted : role ∈ ds.listed
    · simp [hlisted, follow_eq_none_iff, h role hlisted]
    · simp [hlisted, empty]
  · rw [hassigned]
    by_cases hlisted : role ∈ ds.listed
    · simp [hlisted, follow_eq_some_iff]
    · simp [hlisted, empty]

theorem resolve_of_revisits {before after : List Role}
    (hsplit : ds.listed = before ++ role :: after) (hback : ds.Revisits role)
    (hends : ∀ r ∈ before, ¬ ds.Revisits r) : resolve ds = .error (.aliasCycle role) := by
  change assign ds ds.listed empty = _
  rw [hsplit]
  exact assign_of_revisits hends hback empty

/-- **Every listed role is given the style that its aliases lead to.**  Resolving fails exactly if
the aliases of some listed role come back to a role that they visited, and it reports the first
such role.  Otherwise the roles with a style are the listed ones, and each has the style at the
end of its aliases, where a role that is not listed is plain. -/
theorem resolve_leadsTo (ds : Definitions) :
    ((∃ error, resolve ds = .error error) ↔ ∃ role ∈ ds.listed, ds.Revisits role) ∧
    (∀ error, resolve ds = .error error →
      ∃ before role after, error = .aliasCycle role ∧ ds.listed = before ++ role :: after ∧
        ds.Revisits role ∧ ∀ r ∈ before, ¬ ds.Revisits r) ∧
    ∀ t, resolve ds = .ok t →
      (∀ role, t.contains role = true ↔ role ∈ ds.listed) ∧
      ∀ role style, t.assigned role = some style ↔ role ∈ ds.listed ∧ ds.LeadsTo role style := by
  rcases ends_or_revisits ds with hends | ⟨before, role, after, hsplit, hback, hends⟩
  · obtain ⟨t, hok, hassigned⟩ := resolve_of_ends hends
    rw [hok]
    refine ⟨⟨?_, ?_⟩, ?_, ?_⟩
    · rintro ⟨error, h⟩
      cases h
    · rintro ⟨role, hlisted, hback⟩
      exact absurd hback (hends role hlisted)
    · rintro error h
      cases h
    · rintro _ ⟨⟩
      exact hassigned
  · rw [resolve_of_revisits hsplit hback hends]
    refine ⟨⟨fun _ => ⟨role, by simp [hsplit], hback⟩, fun _ => ⟨_, rfl⟩⟩, ?_, ?_⟩
    · rintro _ ⟨⟩
      exact ⟨before, role, after, rfl, hsplit, hback, hends⟩
    · rintro t h
      cases h

/-- Aliases through all sixteen roles, one of which is listed twice, and the same ones closed to a
round. -/
theorem resolve_leadsTo_longest_chain :
    let chain : Definitions := (.levelError, .attributes { emphasis := { bold := true } }) ::
      (Role.all.zip Role.all.tail).map fun (role, target) => (role, .alias target)
    let round : Definitions := chain ++ [(.levelFatal, .alias .text)]
    (∃ t, resolve chain = .ok t ∧ t.assigned .text = some .plain ∧
      ¬ t.contains .levelFatal = true) ∧
    ∃ error, resolve round = .error error := by
  intro chain round
  obtain ⟨t, ht⟩ : ∃ t, resolve chain = .ok t := ⟨_, rfl⟩
  obtain ⟨hcontains, hassigned⟩ := (resolve_leadsTo chain).2.2 t ht
  have htext : chain.LeadsTo .text .plain := follow_eq_some_iff.mp (by decide +kernel)
  have hfatal : Role.levelFatal ∉ chain.listed := by decide +kernel
  have hround : round.Revisits .text := follow_eq_none_iff.mp (by decide +kernel)
  refine ⟨⟨t, ht, (hassigned .text .plain).mpr ⟨by decide +kernel, htext⟩, ?_⟩, ?_⟩
  · exact mt (hcontains .levelFatal).mp hfatal
  · exact (resolve_leadsTo round).1.mpr ⟨.text, by decide +kernel, hround⟩

end Theme

end Logbook
