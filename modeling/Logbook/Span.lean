/-
# Spans

Rendering produces a list of spans: pieces of text, each with an optional style.  A span
without a style is written as it is, also where a theme is in force; padding and line
breaks are such spans.

What is to be written is first said in roles (`Span Role`).  Painting with a theme maps the
roles to styles and touches nothing else (`texts_map`).
-/
import Logbook.Role

namespace Logbook

/-- A piece of output. -/
structure Span (σ : Type) where
  style : Option σ
  text : String
  deriving DecidableEq, Repr

namespace Span

variable {σ τ : Type}

/-- Text without a style. -/
def plain (text : String) : Span σ := ⟨none, text⟩

/-- Text in a role. -/
def inRole (role : Role) (text : String) : Span Role := ⟨some role, text⟩

/-- Punctuation between parts of a value. -/
def mark (text : String) : Span Role := inRole .tertiaryText text

/-- The span with its style mapped. -/
def map (f : σ → τ) (s : Span σ) : Span τ := ⟨s.style.map f, s.text⟩

/-- The text of a list of spans. -/
def texts (spans : List (Span σ)) : String := String.join (spans.map (·.text))

/-- The number of spans with a style. -/
def styledCount (spans : List (Span σ)) : Nat := spans.countP (·.style.isSome)

theorem texts_map (f : σ → τ) (spans : List (Span σ)) :
    texts (spans.map (map f)) = texts spans := by
  simp [texts, map, Function.comp_def]

theorem styledCount_map (f : σ → τ) (spans : List (Span σ)) :
    styledCount (spans.map (map f)) = styledCount spans := by
  simp [styledCount, map, List.countP_map, Function.comp_def]

/-- Groups of spans with a comma between neighbours. -/
def commaJoin : List (List (Span Role)) → List (Span Role)
  | [] => []
  | [group] => group
  | group :: groups => group ++ mark ", " :: commaJoin groups

end Span

end Logbook
