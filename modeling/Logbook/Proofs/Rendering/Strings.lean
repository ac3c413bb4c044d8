/-
# Strings in messages

A string under a directive of a message is written in one of two ways: as it is, or as a JSON
string literal.  Which one depends on the flags of the message, on the format of the directive,
and on the notation, and three places look at the letter `l` for it: the message, the flags of
the directive, and the scalar of the display notation, which leaves out the quotes when its own
format is `l`.

The last one never gets to see that format, because a format of flags only is not handed on
(`valueFormat_ne`).  So the two ways are the two cases of one condition (`valueSpans_string`),
and in either case a single span in the role of strings is written (`string_written_once`).
-/
import Logbook.Proofs.Rendering.Layout

namespace Logbook

/-! ## 1. String literals -/

namespace Text

/-- The text is a JSON literal of a string: it stands between double quotes, holds no control
character as it is, and is read as the string, to its end. -/
structure IsLiteral (text s : String) : Prop where
  quotes : ∃ body, text.toList = '"' :: (body ++ ['"'])
  no_control : ∀ c ∈ text.toList, 0x20 ≤ c.toNat
  reads : unquote text.toList = some (s.toList, [])

theorem toNat_hexDigit : ∀ n < 16, 0x20 ≤ (hexDigit n).toNat := by decide

/-- An escape has no control character in it. -/
theorem toNat_of_mem_escapeChar {c d : Char} (h : d ∈ escapeChar c) : 0x20 ≤ d.toNat := by
  unfold escapeChar at h
  -- the seven escapes of one letter
  iterate 7
    split at h
    · simp only [List.mem_cons, List.not_mem_nil, or_false] at h
      rcases h with rfl | rfl <;> decide
  split at h
  · rename_i hcontrol
    have hhigh := toNat_hexDigit (c.toNat / 16) (by omega)
    have hlow := toNat_hexDigit (c.toNat % 16) (by omega)
    simp only [List.mem_cons, List.not_mem_nil, or_false] at h
    rcases h with rfl | rfl | rfl | rfl | rfl | rfl
    · decide
    · decide
    · decide
    · decide
    · exact hhigh
    · exact hlow
  · rename_i hlarge
    obtain rfl := List.mem_singleton.mp h
    omega

/-- **A quoted string is a literal of the string.** -/
theorem isLiteral_quote (s : String) : IsLiteral (quote s) s := by
  have hchars : (quote s).toList = '"' :: (s.toList.flatMap escapeChar ++ ['"']) :=
    String.toList_ofList
  refine ⟨⟨_, hchars⟩, fun c hc => ?_, ?_⟩
  · rw [hchars, List.mem_cons, List.mem_append, List.mem_singleton] at hc
    rcases hc with rfl | hc | rfl
    · decide
    · obtain ⟨d, -, hd⟩ := List.mem_flatMap.mp hc
      exact toNat_of_mem_escapeChar hd
    · decide
  · have hread := unquote_quoteChars s.toList []
    rw [List.append_nil] at hread
    rw [hchars]
    exact hread

end Text

/-! ## 2. The letter that leaves out the quotes -/

namespace FormatSpec

/-- The format is made of flags, and the one for strings without quotes is among them. -/
def AsksVerbatim (spec : FormatSpec) : Prop :=
  ∃ f, spec.raw = some f ∧ f ≠ "" ∧ (∀ c ∈ f.toList, c = 'l' ∨ c = 'j') ∧ 'l' ∈ f.toList

theorem asksVerbatim_iff {spec : FormatSpec} :
    spec.AsksVerbatim ↔ (spec.flagsOnly && spec.literal) = true := by
  obtain ⟨raw⟩ := spec
  cases raw with
  | none => simp [AsksVerbatim, flagsOnly, literal]
  | some f => simp [AsksVerbatim, flagsOnly, literal, isFlagsOnly, and_assoc]

instance (spec : FormatSpec) : Decidable spec.AsksVerbatim :=
  decidable_of_iff _ asksVerbatim_iff.symm

end FormatSpec

/-- A format of flags only is not handed on to values. -/
theorem valueFormat_ne {format : Option String} {f : String} (h : isFlagsOnly f = true) :
    valueFormat format ≠ some f := by
  intro hformat
  obtain ⟨-, hkept⟩ := Option.filter_eq_some_iff.mp hformat
  simp [h] at hkept

/-! ## 3. One span -/

/-- At the top the notations agree on scalars. -/
theorem Notation.spans_scalar (n : Notation) (p : Provider) (f : Option String) (s : Scalar) :
    n.spans p f true (.scalar s) = [Display.scalarSpan p f s] := by
  cases n with
  | display => rfl
  | json => rfl

namespace MessageStyle

/-- **A string is one span**, and its text is one of two. -/
theorem valueSpans_string (m : MessageStyle) (p : Provider) (spec : FormatSpec) (s : String) :
    m.valueSpans p spec (.ofString s) =
      [.inRole .string
        (if m.literal = true ∨ spec.AsksVerbatim then s else Text.quote s)] := by
  have hquoted : Display.scalarText p spec.valueFormat (.string s) = Text.quote s :=
    if_neg (valueFormat_ne (by decide))
  by_cases h : m.literal = true ∨ spec.AsksVerbatim
  · have hflag : (m.literal || (spec.flagsOnly && spec.literal)) = true := by
      rwa [Bool.or_eq_true, ← FormatSpec.asksVerbatim_iff]
    rw [if_pos h, valueSpans, hflag]
    rfl
  · have hflag : (m.literal || (spec.flagsOnly && spec.literal)) = false := by
      rwa [← Bool.not_eq_true, Bool.or_eq_true, ← FormatSpec.asksVerbatim_iff]
    rw [if_neg h, valueSpans, hflag]
    change Notation.spans _ p spec.valueFormat true (.scalar (.string s)) = _
    rw [Notation.spans_scalar, Display.scalarSpan, hquoted]
    rfl

/-- **A string is written once, as it is or as a literal.**  A message that is one directive
without an alignment makes a single write for a string, whatever the sink is, in the style of
strings.  The text is the string itself if the message is literal or the format of the directive
is made of flags with an `l` among them, and a JSON literal of the string otherwise. -/
theorem string_written_once (m : MessageStyle) (p : Provider) (t : Theme) (template : Template)
    (d : Directive) (ps : Properties) (s : String) (htemplate : template.tokens = [.property d])
    (halignment : d.alignment = none) (hvalue : ps.get? d.name = some (.ofString s)) :
    ∃ text : String,
      (∀ α ε : Type, (m.render p t template ps : Rendering α ε Unit) =
        Rendering.put ⟨some (t.style .string), text⟩) ∧
      (m.literal = true ∨ d.spec.AsksVerbatim → text = s) ∧
      (¬ (m.literal = true ∨ d.spec.AsksVerbatim) → Text.IsLiteral text s) := by
  have hspans : m.spans p template ps = [.inRole .string
      (if m.literal = true ∨ d.spec.AsksVerbatim then s else Text.quote s)] := by
    rw [spans, htemplate, List.flatMap_singleton, tokenSpans, directiveSpans, hvalue, halignment,
      ← valueSpans_string m p]
    rfl
  refine ⟨if m.literal = true ∨ d.spec.AsksVerbatim then s else Text.quote s, fun α ε => ?_,
    fun h => if_pos h, fun h => ?_⟩
  · rw [render_eq, hspans]
    exact Rendering.puts_singleton _
  · rw [if_neg h]
    exact Text.isLiteral_quote s

/-- A format of both flags, and one with another letter between them. -/
theorem string_written_once_by_flags :
    (∃ text : String,
      ((⟨true, false⟩ : MessageStyle).render Provider.invariant Theme.empty
        ⟨"\x7bName:jlj\x7d", [.property (Directive.make "Name" (some "jlj") none)]⟩
        (Properties.ofList [("Name", .ofString "a\"\x07")]) : Rendering Capture Empty Unit) =
          Rendering.put ⟨some (Theme.empty.style .string), text⟩ ∧ text = "a\"\x07") ∧
    (∃ text : String,
      ((⟨true, false⟩ : MessageStyle).render Provider.invariant Theme.empty
        ⟨"\x7bName:lxj\x7d", [.property (Directive.make "Name" (some "lxj") none)]⟩
        (Properties.ofList [("Name", .ofString "a\"\x07")]) : Rendering Capture Empty Unit) =
          Rendering.put ⟨some (Theme.empty.style .string), text⟩ ∧
        Text.IsLiteral text "a\"\x07") := by
  constructor
  · obtain ⟨text, hwrite, hverbatim, -⟩ := string_written_once ⟨true, false⟩ Provider.invariant
      Theme.empty ⟨"\x7bName:jlj\x7d", [.property (Directive.make "Name" (some "jlj") none)]⟩
      (Directive.make "Name" (some "jlj") none) (Properties.ofList [("Name", .ofString "a\"\x07")])
      "a\"\x07" rfl rfl rfl
    exact ⟨text, hwrite Capture Empty, hverbatim (by decide)⟩
  · obtain ⟨text, hwrite, -, hliteral⟩ := string_written_once ⟨true, false⟩ Provider.invariant
      Theme.empty ⟨"\x7bName:lxj\x7d", [.property (Directive.make "Name" (some "lxj") none)]⟩
      (Directive.make "Name" (some "lxj") none) (Properties.ofList [("Name", .ofString "a\"\x07")])
      "a\"\x07" rfl rfl rfl
    exact ⟨text, hwrite Capture Empty, hliteral (by decide)⟩

end MessageStyle

end Logbook
