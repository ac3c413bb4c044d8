/-
# Message templates

A template is text with directives in it.  Parsing never fails: doubled braces stand for
one, a brace pair that holds no directive is text, and so is a brace without a partner.

`Template.pieces` cuts the text from left to right, and `fuse` joins the pieces of text
that came to stand side by side.  So a parsed template has no empty piece of text and no
two in a row (`separated_fuse`), and each piece says from which characters it was read.

`Template.escape` is the other direction: it doubles the braces of a text.
-/
import Logbook.Template.Directive

namespace Logbook

/-! ## 1. Tokens -/

/-- A unit of a template. -/
inductive Token where
  | text (s : List Char)
  | property (d : Directive)
  deriving DecidableEq, Repr

/-- Joins a token to those after it: text flows into text, and empty text vanishes. -/
def Token.push : Token → List Token → List Token
  | .text s, .text t :: rest => .text (s ++ t) :: rest
  | .text [], rest => rest
  | token, rest => token :: rest

/-- The tokens with all neighbouring texts joined. -/
def Token.fuse (tokens : List Token) : List Token := tokens.foldr Token.push []

/-- No text is empty, and no two texts are neighbours. -/
def Token.Separated : List Token → Prop
  | [] => True
  | .property _ :: rest => Separated rest
  | .text s :: rest => s ≠ [] ∧ (∀ t after, rest ≠ .text t :: after) ∧ Separated rest

theorem Token.separated_push (token : Token) {rest : List Token} (h : Separated rest) :
    Separated (token.push rest) := by
  unfold Token.push
  split
  · simp_all [Separated]
  · exact h
  · cases token with
    | property d => exact h
    | text s =>
      refine ⟨?_, ?_, h⟩
      · rintro rfl
        simp_all
      · rintro t after rfl
        simp_all

theorem Token.separated_fuse : ∀ tokens : List Token, Separated (fuse tokens)
  | [] => trivial
  | token :: rest => separated_push token (separated_fuse rest)

/-! ## 2. Templates -/

/-- A template: its text and the tokens that it was read as. -/
structure Template where
  text : String
  tokens : List Token
  deriving DecidableEq, Repr

namespace Template

/-- A character other than a brace. -/
def notBrace (c : Char) : Bool := c != '{' && c != '}'

/-- The characters up to the next brace. -/
def run (s : List Char) : List Char := s.takeWhile notBrace

/-- The text from the next brace on. -/
def tail (s : List Char) : List Char := s.dropWhile notBrace

theorem length_tail_le (s : List Char) : (tail s).length ≤ s.length :=
  (List.dropWhile_suffix _).length_le

/-- The piece of a closed brace pair: a directive, or the text as it stands. -/
def enclosed (body : List Char) : Token :=
  match Directive.parse? body with
  | some d => .property d
  | none => .text ('{' :: (body ++ ['}']))

/-- The pieces of a text from left to right.  An opening brace that meets another one, or
the end, before a closing one is text up to there. -/
def pieces : List Char → List Token
  | [] => []
  | '{' :: '{' :: rest => .text ['{'] :: pieces rest
  | '}' :: '}' :: rest => .text ['}'] :: pieces rest
  | '{' :: rest =>
    match _h : tail rest with
    | '}' :: after => enclosed (run rest) :: pieces after
    | _ => .text ('{' :: run rest) :: pieces (tail rest)
  | c :: rest => .text (c :: run rest) :: pieces (tail rest)
  termination_by s => s.length
  decreasing_by
    · simp only [List.length_cons]
      omega
    · simp only [List.length_cons]
      omega
    · have := length_tail_le rest
      rw [_h] at this
      simp only [List.length_cons] at *
      omega
    · have := length_tail_le rest
      simp only [List.length_cons]
      omega
    · have := length_tail_le rest
      simp only [List.length_cons]
      omega

/-- The template of a text. -/
def parse (text : String) : Template := ⟨text, Token.fuse (pieces text.toList)⟩

/-- The template in which every character, braces included, is text. -/
def literal (text : String) : Template :=
  ⟨text, if text.isEmpty then [] else [.text text.toList]⟩

/-- The directives in order. -/
def directives (t : Template) : List Directive :=
  t.tokens.filterMap fun
    | .text _ => none
    | .property d => some d

/-- The names of the properties that the directives refer to, in order. -/
def names (t : Template) : List String := t.directives.map (·.name)

/-- Whether some directive refers to the property. -/
def refersTo (t : Template) (name : String) : Bool := t.names.contains name

/-! ## 3. Writing -/

/-- The text with every brace doubled. -/
def escape (s : List Char) : List Char :=
  s.flatMap fun c => if c = '{' then ['{', '{'] else if c = '}' then ['}', '}'] else [c]

/-- The text of a token inside a template. -/
def writeToken : Token → List Char
  | .text s => escape s
  | .property d => d.raw.toList

/-- The text of a list of tokens. -/
def write (tokens : List Token) : List Char := tokens.flatMap writeToken

end Template

end Logbook
