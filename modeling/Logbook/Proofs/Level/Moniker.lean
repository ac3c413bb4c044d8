/-
# The moniker that a format asks for

A case letter and one or two digits ask for a level in a width: nothing for zero, an abbreviation
for one to four, and the first letters of the name beyond that.  Every other format asks for the
name, in the casing of a bare `u` or `w` (`Asked`).  Abbreviations are kept in three tables, which
are one table in three casings (`abbreviationsIn_eq`).

The moniker is looked for in another order.  The width is read first, and more leniently: a plus
sign in front of a digit counts, and so do the digits behind any other letter.  The case letter is
looked at afterwards, and only where an abbreviation is chosen.  So some formats that ask for the
name are cut (`Strays`):

* a case letter with a plus sign, such as `u+3`;
* another letter with a width of zero, or one that is shorter than the name, such as `x5`.

These are all of them (`asked_moniker_iff`).
-/
import Mathlib.Data.List.TakeDrop
import Logbook.Level
import Logbook.Proofs.Number.Integers

namespace Logbook

namespace Level

open NumberFormat

/-! ## 1. What is asked for -/

/-- The casing of a case letter. -/
inductive CaseLetter : Char → Casing → Prop where
  | upper : CaseLetter 'u' .upper
  | lower : CaseLetter 'w' .lower
  | title : CaseLetter 't' .unchanged

/-- A case letter, and one or two digits that stand for a width. -/
def AsksWidth (format : String) (casing : Casing) (n : Nat) : Prop :=
  ∃ letter digits, format.toList = letter :: digits ∧ CaseLetter letter casing ∧
    Asks digits (some n)

/-- A level in a width, before its casing. -/
inductive Short (level : Level) : Nat → String → Prop where
  | nothing : Short level 0 ""
  | abbreviation {n : Nat} {s : String} (h : level.abbreviations[n]? = some s)
      (hlength : s.length = n + 1) : Short level (n + 1) s
  | cut {n : Nat} (h : 4 < n) : Short level n (String.ofList (level.name.toList.take n))

/-- The text that a format asks for. -/
inductive Asked (level : Level) (format : String) : String → Prop where
  | width {casing : Casing} {n : Nat} {s : String} (h : AsksWidth format casing n)
      (hs : level.Short n s) : Asked level format (casing.apply s)
  | name (h : ∀ casing n, ¬ AsksWidth format casing n) :
      Asked level format (if format = "u" then Casing.upper.apply level.name
        else if format = "w" then Casing.lower.apply level.name else level.name)

/-! ## 2. Widths -/

/-- What is read as a width. -/
inductive Width : List Char → Nat → Prop where
  | digits {s : List Char} {n : Nat} (h : Asks s (some n)) : Width s n
  | sign {d : Char} {n : Nat} (h : WrittenIn decimalDigits [d] n) : Width ['+', d] n

theorem writtenIn_of_asks {s : List Char} {n : Nat} (h : Asks s (some n)) :
    WrittenIn decimalDigits s n := by
  cases h with
  | digits _ _ h => exact h

/-- A plus sign is no digit. -/
theorem not_asks_sign {d : Char} {p : Option Nat} : ¬ Asks ['+', d] p := by
  intro h
  cases h with
  | digits _ _ h => exact absurd (h.mem '+' List.mem_cons_self) (by decide)

theorem digit?_eq_some_iff {c : Char} {n : Nat} :
    digit? c = some n ↔ WrittenIn decimalDigits [c] n := by
  have hall : ∀ c ∈ decimalDigits, digit? c = some (readIn decimalDigits [c]) :=
    List.forall_iff_forall_mem.mp (by decide)
  constructor
  · intro h
    have hc : c ∈ decimalDigits := by
      by_contra hc
      unfold digit? at h
      rw [if_neg (mt mem_decimalDigits_of_isDigit hc)] at h
      cases h
    refine ⟨fun d hd => List.mem_singleton.mp hd ▸ hc, ?_⟩
    exact Option.some.inj ((hall c hc).symm.trans h)
  · rintro ⟨hmem, rfl⟩
    exact hall c (hmem c List.mem_cons_self)

theorem two_digits_iff {d e : Char} {n : Nat} :
    ((digit? d).bind fun tens => (digit? e).map (10 * tens + ·)) = some n ↔
      WrittenIn decimalDigits [d, e] n := by
  have hread : readIn decimalDigits [d, e] =
      10 * readIn decimalDigits [d] + readIn decimalDigits [e] := by
    rw [Nat.mul_comm]
    exact readIn_append [d] [e]
  constructor
  · intro h
    obtain ⟨tens, htens, h⟩ := Option.bind_eq_some_iff.mp h
    obtain ⟨ones, hones, rfl⟩ := Option.map_eq_some_iff.mp h
    obtain ⟨hd, rfl⟩ := digit?_eq_some_iff.mp htens
    obtain ⟨he, rfl⟩ := digit?_eq_some_iff.mp hones
    refine ⟨fun c hc => ?_, hread⟩
    rcases List.mem_pair.mp hc with rfl | rfl
    · exact hd c List.mem_cons_self
    · exact he c List.mem_cons_self
  · rintro ⟨hmem, rfl⟩
    have hdigit : ∀ c ∈ [d, e], digit? c = some (readIn decimalDigits [c]) := fun c hc =>
      digit?_eq_some_iff.mpr ⟨fun x hx => List.mem_singleton.mp hx ▸ hmem c hc, rfl⟩
    rw [hdigit d (by simp), hdigit e (by simp), hread]
    rfl

/-- **One or two digits are read as a width**, and so is a plus sign with a digit. -/
theorem monikerWidth?_eq_some_iff {s : List Char} {n : Nat} :
    monikerWidth? s = some n ↔ Width s n := by
  unfold monikerWidth?
  split
  · rw [digit?_eq_some_iff]
    constructor
    · exact fun h => .digits (.digits (by simp) (by simp) h)
    · intro h
      cases h with
      | digits h => exact writtenIn_of_asks h
  · rw [digit?_eq_some_iff]
    constructor
    · exact .sign
    · intro h
      cases h with
      | digits h => exact absurd h not_asks_sign
      | sign h => exact h
  · rename_i d e hd
    rw [two_digits_iff]
    constructor
    · exact fun h => .digits (.digits (by simp) (by simp) h)
    · intro h
      cases h with
      | digits h => exact writtenIn_of_asks h
      | sign => exact (hd rfl).elim
  · rename_i hone hsign htwo
    refine iff_of_false (by simp) fun h => ?_
    cases h with
    | digits h =>
      cases h with
      | digits hne hlength _ =>
        match s, hne, hlength with
        | [d], _, _ => exact hone d rfl
        | [d, e], _, _ => exact htwo d e rfl
    | @sign d => exact hsign d rfl

theorem Width.ne_nil {s : List Char} {n : Nat} (h : Width s n) : s ≠ [] := by
  cases h with
  | digits h => cases h with | digits hne => exact hne
  | sign => exact List.cons_ne_nil _ _

/-! ## 3. Monikers -/

variable {level : Level} {format : String} {letter : Char} {rest : List Char} {n : Nat}

theorem ofFormat_some (format : String) :
    Casing.ofFormat (some format) =
      if format = "u" then .upper else if format = "w" then .lower else .unchanged := by
  unfold Casing.ofFormat
  split
  · rename_i h
    rw [Option.some.inj h, if_pos rfl]
  · rename_i h
    rw [Option.some.inj h, if_neg (by decide), if_pos rfl]
  · rename_i hu hw
    rw [if_neg fun h => hu (congrArg some h), if_neg fun h => hw (congrArg some h)]

/-- A format with a width asks for no casing of its own. -/
theorem ne_of_width (hformat : format.toList = letter :: rest) (h : Width rest n) :
    format ≠ "u" ∧ format ≠ "w" := by
  have hne : ∀ c : Char, format ≠ String.singleton c := by
    rintro c rfl
    rw [String.toList_singleton] at hformat
    exact h.ne_nil (List.cons.inj hformat).2.symm
  exact ⟨hne 'u', hne 'w'⟩

theorem caseLetter?_eq_some_iff {casing : Casing} :
    caseLetter? letter = some casing ↔ CaseLetter letter casing := by
  constructor
  · intro h
    unfold caseLetter? at h
    split at h
    · exact Option.some.inj h ▸ .upper
    · exact Option.some.inj h ▸ .lower
    · exact Option.some.inj h ▸ .title
    · cases h
  · rintro (_ | _ | _) <;> rfl

theorem exists_caseLetter_iff :
    (∃ casing, CaseLetter letter casing) ↔ letter ∈ ['u', 'w', 't'] := by
  constructor
  · rintro ⟨_, (_ | _ | _)⟩ <;> decide
  · intro h
    simp only [List.mem_cons, List.not_mem_nil, or_false] at h
    rcases h with rfl | rfl | rfl
    · exact ⟨_, .upper⟩
    · exact ⟨_, .lower⟩
    · exact ⟨_, .title⟩

/-- The moniker once the width is read. -/
theorem moniker_of_width (hformat : format.toList = letter :: rest) (h : Width rest n) :
    level.moniker (some format) =
      if n = 0 then ""
      else if 4 < n then ((caseLetter? letter).getD .unchanged).apply
        (String.ofList (level.name.toList.take n))
      else ((caseLetter? letter).bind (level.abbreviation? · n)).getD level.name := by
  obtain ⟨hu, hw⟩ := ne_of_width hformat h
  have hname : (Casing.ofFormat (some format)).apply level.name = level.name := by
    rw [ofFormat_some, if_neg hu, if_neg hw]
    rfl
  unfold moniker
  dsimp only
  rw [hformat]
  dsimp only
  rw [monikerWidth?_eq_some_iff.mpr h, hname]
  cases n with
  | zero => rfl
  | succ n => rfl

/-- **The tables are one table in three casings.** -/
theorem abbreviationsIn_eq (casing : Casing) (level : Level) :
    abbreviationsIn casing level = level.abbreviations.map casing.apply := by
  cases casing <;> cases level <;> decide +kernel

theorem exists_abbreviation (level : Level) {k : Nat} (h : k < 4) :
    ∃ s, level.abbreviations[k]? = some s ∧ s.length = k + 1 := by
  have hall : ∀ k < 4, level.abbreviations[k]?.map String.length = some (k + 1) := by
    cases level <;> decide
  exact Option.map_eq_some_iff.mp (hall k h)

/-- **A case letter with a width** gives the level in that width and casing. -/
theorem moniker_of_caseLetter (level : Level) {casing : Casing}
    (hformat : format.toList = letter :: rest) (h : Width rest n)
    (hletter : CaseLetter letter casing) :
    ∃ s, level.Short n s ∧ level.moniker (some format) = casing.apply s := by
  rw [moniker_of_width hformat h, caseLetter?_eq_some_iff.mpr hletter]
  split
  · rename_i hzero
    subst hzero
    exact ⟨"", .nothing, by cases casing <;> rfl⟩
  · rename_i hpos
    split
    · rename_i hlong
      exact ⟨_, .cut hlong, rfl⟩
    · rename_i hshort
      obtain ⟨k, rfl⟩ : ∃ k, n = k + 1 := ⟨n - 1, by omega⟩
      obtain ⟨s, hs, hlength⟩ := exists_abbreviation level (k := k) (by omega)
      refine ⟨s, .abbreviation hs hlength, ?_⟩
      have habbreviation : level.abbreviation? casing (k + 1) = some (casing.apply s) := by
        change (abbreviationsIn casing level)[k]? = _
        rw [abbreviationsIn_eq, List.getElem?_map, hs, Option.map_some]
      rw [Option.bind_some, habbreviation, Option.getD_some]

/-- **Any other letter with a width** gives the name, cut if the width is none or above four. -/
theorem moniker_of_other_letter (hformat : format.toList = letter :: rest) (h : Width rest n)
    (hletter : letter ∉ ['u', 'w', 't']) :
    level.moniker (some format) =
      if n = 0 then ""
      else if 4 < n then String.ofList (level.name.toList.take n) else level.name := by
  have hnone : caseLetter? letter = none := by
    refine Option.eq_none_iff_forall_ne_some.mpr fun casing hcasing => hletter ?_
    exact exists_caseLetter_iff.mp ⟨casing, caseLetter?_eq_some_iff.mp hcasing⟩
  rw [moniker_of_width hformat h, hnone]
  rfl

/-- **Without a width** the moniker is the name in the casing of the format. -/
theorem moniker_of_no_width
    (h : ∀ letter rest n, format.toList = letter :: rest → ¬ Width rest n) :
    level.moniker (some format) =
      if format = "u" then Casing.upper.apply level.name
      else if format = "w" then Casing.lower.apply level.name else level.name := by
  have hname : level.moniker (some format) = (Casing.ofFormat (some format)).apply level.name := by
    unfold moniker
    dsimp only
    split
    · rename_i hnil
      obtain rfl : format = "" := String.toList_inj.mp hnil
      rfl
    · rename_i letter rest hformat
      have hnone : monikerWidth? rest = none :=
        Option.eq_none_iff_forall_ne_some.mpr fun n hn =>
          h letter rest n hformat (monikerWidth?_eq_some_iff.mp hn)
      rw [hnone]
  rw [hname, ofFormat_some]
  split
  · rfl
  · split
    · rfl
    · rfl

/-! ## 4. Where the format strays -/

/-- A width of one digit gives the name only as it is, and only if the name is no longer. -/
theorem apply_short_eq_name_iff {s : String} (hs : level.Short n s) (hn : n < 10)
    (casing : Casing) :
    casing.apply s = level.name ↔ casing = .unchanged ∧ level.name.length ≤ n := by
  have hzero : casing.apply "" ≠ level.name ∧ ¬ level.name.length ≤ 4 := by
    cases level <;> cases casing <;> decide +kernel
  have habbreviation : ∀ s ∈ level.abbreviations, casing.apply s ≠ level.name := by
    cases level <;> cases casing <;> decide +kernel
  have hcut : ∀ n < 10, 4 < n →
      (casing.apply (String.ofList (level.name.toList.take n)) = level.name ↔
        casing = .unchanged ∧ level.name.length ≤ n) := by
    cases level <;> cases casing <;> decide +kernel
  cases hs with
  | nothing => exact iff_of_false hzero.1 fun h => hzero.2 (by omega)
  | abbreviation h hlength =>
    have hmem := List.mem_of_getElem? h
    have hfour : ∀ s ∈ level.abbreviations, s.length ≤ 4 := by
      cases level <;> decide
    have := hfour _ hmem
    exact iff_of_false (habbreviation _ hmem) fun h => hzero.2 (by omega)
  | cut h => exact hcut n hn h

/-- Cut to a width that counts, a name stays as it is unless it is longer. -/
theorem cut_name_eq_iff :
    (if n = 0 then "" else if 4 < n then String.ofList (level.name.toList.take n) else level.name) =
      level.name ↔ ¬ (n = 0 ∨ 4 < n ∧ n < level.name.length) := by
  have hne : "" ≠ level.name := by cases level <;> decide
  have htake : String.ofList (level.name.toList.take n) = level.name ↔ level.name.length ≤ n := by
    rw [← String.toList_inj, String.toList_ofList, List.take_eq_self_iff, String.length_toList]
  split
  · exact iff_of_false hne (by omega)
  · split
    · rw [htake]
      omega
    · exact iff_of_true rfl (by omega)

theorem digit_lt_ten {d : Char} (hd : WrittenIn decimalDigits [d] n) : n < 10 := by
  obtain ⟨hmem, rfl⟩ := hd
  exact readIn_lt hmem

/-- Without a case letter in front of digits, the name is asked for. -/
theorem asked_name_iff (hformat : format.toList = letter :: rest) (hrest : Width rest n)
    (h : ∀ casing n, ¬ AsksWidth format casing n) {s : String} :
    level.Asked format s ↔ s = level.name := by
  obtain ⟨hu, hw⟩ := ne_of_width hformat hrest
  have hname : (if format = "u" then Casing.upper.apply level.name
      else if format = "w" then Casing.lower.apply level.name else level.name) = level.name := by
    rw [if_neg hu, if_neg hw]
  constructor
  · rintro (⟨hasks, _⟩ | _)
    · exact absurd hasks (h _ _)
    · exact hname
  · rintro rfl
    have hasked : level.Asked format _ := .name h
    rwa [hname] at hasked

/-- The formats that ask for the name and are cut. -/
inductive Strays (level : Level) (format : String) : Prop where
  | sign {letter d : Char} {n : Nat} (hformat : format.toList = [letter, '+', d])
      (hletter : letter ∈ ['u', 'w', 't']) (hd : WrittenIn decimalDigits [d] n)
      (hname : letter = 't' → n < level.name.length) : Strays level format
  | letter {letter : Char} {rest : List Char} {n : Nat} (hformat : format.toList = letter :: rest)
      (hletter : letter ∉ ['u', 'w', 't']) (hrest : Width rest n)
      (hcut : n = 0 ∨ 4 < n ∧ n < level.name.length) : Strays level format

theorem Strays.exists_width (h : level.Strays format) :
    ∃ letter rest n, format.toList = letter :: rest ∧ Width rest n := by
  cases h with
  | sign hformat _ hd => exact ⟨_, _, _, hformat, .sign hd⟩
  | letter hformat _ hrest => exact ⟨_, _, _, hformat, hrest⟩

theorem Width.unique {s : List Char} {m n : Nat} (hm : Width s m) (hn : Width s n) : m = n :=
  Option.some.inj ((monikerWidth?_eq_some_iff.mpr hm).symm.trans (monikerWidth?_eq_some_iff.mpr hn))

/-- A case letter in front of digits does not stray. -/
theorem not_strays_of_asks (hformat : format.toList = letter :: rest)
    (hletter : letter ∈ ['u', 'w', 't']) (h : Asks rest (some n)) : ¬ level.Strays format := by
  rintro (⟨hformat', _, _, _⟩ | ⟨hformat', hletter', _, _⟩)
  · obtain ⟨-, rfl⟩ := List.cons.inj (hformat.symm.trans hformat')
    exact not_asks_sign h
  · obtain ⟨rfl, -⟩ := List.cons.inj (hformat.symm.trans hformat')
    exact hletter' hletter

/-- A case letter in front of a plus sign strays, unless the name is no longer than the width and
keeps its casing. -/
theorem strays_sign_iff {d : Char} (hformat : format.toList = [letter, '+', d])
    (hletter : letter ∈ ['u', 'w', 't']) (hd : WrittenIn decimalDigits [d] n) :
    level.Strays format ↔ (letter = 't' → n < level.name.length) := by
  refine ⟨?_, .sign hformat hletter hd⟩
  rintro (⟨hformat', _, hd', hname⟩ | ⟨hformat', hletter', _, _⟩)
  · obtain ⟨rfl, h⟩ := List.cons.inj (hformat.symm.trans hformat')
    obtain ⟨rfl, -⟩ := List.cons.inj (List.cons.inj h).2
    rwa [Width.unique (.sign hd) (.sign hd')]
  · obtain ⟨rfl, -⟩ := List.cons.inj (hformat.symm.trans hformat')
    exact absurd hletter hletter'

/-- Another letter strays if the width is none, or above four and shorter than the name. -/
theorem strays_letter_iff (hformat : format.toList = letter :: rest)
    (hletter : letter ∉ ['u', 'w', 't']) (hrest : Width rest n) :
    level.Strays format ↔ n = 0 ∨ 4 < n ∧ n < level.name.length := by
  refine ⟨?_, .letter hformat hletter hrest⟩
  rintro (⟨hformat', hletter', _, _⟩ | ⟨hformat', _, hrest', hcut⟩)
  · obtain ⟨rfl, -⟩ := List.cons.inj (hformat.symm.trans hformat')
    exact absurd hletter' hletter
  · obtain ⟨rfl, rfl⟩ := List.cons.inj (hformat.symm.trans hformat')
    rwa [hrest.unique hrest']

/-- **The moniker is the one that is asked for, except where the format strays.** -/
theorem asked_moniker_iff (level : Level) (format : String) :
    level.Asked format (level.moniker (some format)) ↔ ¬ level.Strays format := by
  by_cases hwidth : ∃ letter rest n, format.toList = letter :: rest ∧ Width rest n
  case neg =>
    have hnone : ∀ letter rest n, format.toList = letter :: rest → ¬ Width rest n :=
      fun letter rest n hformat hrest => hwidth ⟨letter, rest, n, hformat, hrest⟩
    refine iff_of_true ?_ fun h => hwidth h.exists_width
    rw [moniker_of_no_width hnone]
    refine .name fun casing n hasks => ?_
    obtain ⟨letter, digits, hformat, -, hdigits⟩ := hasks
    exact hnone letter digits n hformat (.digits hdigits)
  case pos =>
    obtain ⟨letter, rest, n, hformat, hrest⟩ := hwidth
    by_cases hletter : letter ∈ ['u', 'w', 't']
    case pos =>
      obtain ⟨casing, hcasing⟩ := exists_caseLetter_iff.mpr hletter
      obtain ⟨s, hs, hmoniker⟩ := moniker_of_caseLetter level hformat hrest hcasing
      rw [hmoniker]
      cases hrest with
      | digits h =>
        exact iff_of_true (.width ⟨letter, rest, hformat, hcasing, h⟩ hs)
          (not_strays_of_asks hformat hletter h)
      | sign hd =>
        have hname : ∀ casing n, ¬ AsksWidth format casing n := by
          rintro casing n ⟨_, digits, hformat', -, hdigits⟩
          obtain ⟨-, rfl⟩ := List.cons.inj (hformat.symm.trans hformat')
          exact not_asks_sign hdigits
        have hcase : casing = .unchanged ↔ letter = 't' := by
          cases hcasing <;> decide
        rw [asked_name_iff hformat (.sign hd) hname,
          apply_short_eq_name_iff hs (digit_lt_ten hd), strays_sign_iff hformat hletter hd, hcase,
          Classical.not_imp, not_lt]
    case neg =>
      have hname : ∀ casing n, ¬ AsksWidth format casing n := by
        rintro casing n ⟨_, digits, hformat', hcasing, -⟩
        obtain ⟨rfl, -⟩ := List.cons.inj (hformat.symm.trans hformat')
        exact hletter (exists_caseLetter_iff.mp ⟨casing, hcasing⟩)
      rw [asked_name_iff hformat hrest hname, moniker_of_other_letter hformat hrest hletter,
        cut_name_eq_iff, strays_letter_iff hformat hletter hrest]

/-- With `x5` an information event asks for its name, and the name is cut. -/
theorem moniker_of_unknown_letter :
    information.moniker (some "x5") = "Infor" ∧ ¬ information.Asked "x5" "Infor" := by
  have hfive : WrittenIn decimalDigits ['5'] 5 := by decide
  have hrest : Width ['5'] 5 := .digits (.digits (by simp) (by simp) hfive)
  have hname : ∀ casing n, ¬ AsksWidth "x5" casing n := by
    rintro casing n ⟨_, digits, hformat, hcasing, -⟩
    obtain ⟨rfl, -⟩ := List.cons.inj hformat.symm
    cases hcasing
  have hformat : "x5".toList = 'x' :: ['5'] := by decide
  refine ⟨by decide +kernel, fun h => ?_⟩
  exact absurd ((asked_name_iff hformat hrest hname).mp h) (by decide)

end Level

end Logbook
