/-
# Reading a template loses and invents nothing

The tokens of a template, shown one after the other, are its text, up to doubled braces that
were read as one (`parse_conserves`).  This holds of every text, in particular of those whose
braces are open, nested, empty or stray: what is no directive is kept as text.

`Collapses` says it without the reader.  A text is cut into parts, and a part either stays as
it is or is a doubled brace and becomes one.  The pieces of a text are such parts
(`collapses_pieces`), and joining neighbouring texts moves no character (`shown_fuse`).  A
text without doubled braces has no part that could change, so it is shown exactly, and a
message without properties is its template.
-/
import Logbook.Proofs.Rendering.Layout
import Logbook.Proofs.Template.Pieces
import Mathlib.Data.List.Infix

namespace Logbook

/-! ## 1. Doubled braces that become one -/

/-- What may become of a part of a text: the part itself, or one brace for a doubled one. -/
def Becomes (part result : List Char) : Prop :=
  result = part ∨ part = ['{', '{'] ∧ result = ['{'] ∨ part = ['}', '}'] ∧ result = ['}']

/-- The second text comes from consecutive parts of the first by taking some doubled braces
for one. -/
def Collapses (s t : List Char) : Prop :=
  ∃ parts : List (List Char × List Char), (∀ q ∈ parts, Becomes q.1 q.2) ∧
    s = parts.flatMap Prod.fst ∧ t = parts.flatMap Prod.snd

namespace Collapses

theorem nil : Collapses [] [] := ⟨[], by simp, rfl, rfl⟩

theorem append {part result s t : List Char} (hpart : Becomes part result)
    (h : Collapses s t) : Collapses (part ++ s) (result ++ t) := by
  obtain ⟨parts, hparts, rfl, rfl⟩ := h
  refine ⟨(part, result) :: parts, ?_, rfl, rfl⟩
  intro q hq
  rcases List.mem_cons.mp hq with rfl | hq
  · exact hpart
  · exact hparts q hq

/-- A part that stays as it is. -/
theorem append_left {s t : List Char} (part : List Char) (h : Collapses s t) :
    Collapses (part ++ s) (part ++ t) := append (.inl rfl) h

/-- A text without doubled braces can only become itself. -/
theorem eq_of_not_doubled {s t : List Char} (h : Collapses s t) (hopen : ¬ ['{', '{'] <:+: s)
    (hclose : ¬ ['}', '}'] <:+: s) : t = s := by
  obtain ⟨parts, hparts, rfl, rfl⟩ := h
  refine List.flatMap_congr fun q hq => ?_
  have hinfix : q.1 <:+: parts.flatMap Prod.fst :=
    List.infix_of_mem_flatten (List.mem_map_of_mem hq)
  rcases hparts q hq with hsame | ⟨hq, -⟩ | ⟨hq, -⟩
  · exact hsame
  · exact absurd (hq ▸ hinfix) hopen
  · exact absurd (hq ▸ hinfix) hclose

end Collapses

/-! ## 2. Tokens as text -/

/-- The characters of a text, or those of a directive as it was written. -/
def Token.chars : Token → List Char
  | .text s => s
  | .property d => d.raw.toList

namespace Template

/-- The texts of the tokens and the directives as written, in a row. -/
def shown (tokens : List Token) : List Char := tokens.flatMap Token.chars

@[simp] theorem shown_cons (token : Token) (tokens : List Token) :
    shown (token :: tokens) = token.chars ++ shown tokens := List.flatMap_cons

theorem shown_push (token : Token) (tokens : List Token) :
    shown (token.push tokens) = token.chars ++ shown tokens := by
  unfold Token.push
  split
  · simp only [shown_cons, Token.chars, List.append_assoc]
  · rfl
  · rfl

/-- Joining texts moves no character. -/
theorem shown_fuse (tokens : List Token) : shown (Token.fuse tokens) = shown tokens := by
  induction tokens with
  | nil => rfl
  | cons token tokens ih => rw [Token.fuse_cons, shown_push, shown_cons, ih]

/-- A closed pair is shown as it was written, whether it is a directive or not. -/
theorem chars_enclosed (body : List Char) : (enclosed body).chars = '{' :: (body ++ ['}']) := by
  cases h : Directive.parse? body with
  | some d => rw [enclosed_of_parse? h, Token.chars, raw_of_parse? h]
  | none =>
    rw [enclosed, h]
    rfl

/-! ## 3. The pieces -/

/-- **The pieces of a text are its parts.**  Only the two branches for doubled braces change
anything, and they change it as they may. -/
theorem collapses_pieces (s : List Char) : Collapses s (shown (pieces s)) := by
  induction s using pieces.induct with
  | case1 =>
    rw [pieces.eq_1]
    exact .nil
  | case2 rest ih =>
    rw [pieces_open, shown_cons]
    exact ih.append (.inr (.inl ⟨rfl, rfl⟩))
  | case3 rest ih =>
    rw [pieces_close, shown_cons]
    exact ih.append (.inr (.inr ⟨rfl, rfl⟩))
  | case4 rest hrest after htail ih =>
    have hsplit : '{' :: rest = '{' :: (run rest ++ ['}']) ++ after := by
      calc '{' :: rest
          = '{' :: (run rest ++ tail rest) := by rw [run_append_tail]
        _ = '{' :: (run rest ++ ['}']) ++ after := by simp [htail]
    rw [pieces_pair htail, shown_cons, chars_enclosed, hsplit]
    exact ih.append_left _
  | case5 rest hrest htail ih =>
    have hsplit : '{' :: rest = '{' :: run rest ++ tail rest :=
      congrArg _ (run_append_tail rest).symm
    rw [pieces_unclosed hrest htail, shown_cons, Token.chars, hsplit]
    exact ih.append_left _
  | case6 c rest h1 h2 h3 ih =>
    have hsplit : c :: rest = c :: run rest ++ tail rest :=
      congrArg _ (run_append_tail rest).symm
    rw [pieces.eq_5 c rest h1 h2 h3, shown_cons, Token.chars, hsplit]
    exact ih.append_left _

theorem collapses_tokens (s : String) : Collapses s.toList (shown (parse s).tokens) := by
  rw [parse, shown_fuse]
  exact collapses_pieces _

end Template

/-! ## 4. Messages without properties -/

namespace MessageStyle

/-- Without properties nothing takes the place of a directive. -/
theorem toList_texts_spans_empty (m : MessageStyle) (p : Provider) (t : Template) :
    (Span.texts (m.spans p t Properties.empty)).toList = Template.shown t.tokens := by
  rw [Span.toList_texts, Span.chars, spans, List.flatMap_assoc]
  refine congrArg (t.tokens.flatMap ·) (funext fun token => ?_)
  cases token with
  | text s => simp [tokenSpans, Span.inRole, Token.chars]
  | property d =>
    have hnone : Properties.empty.get? d.name = none := rfl
    simp [tokenSpans, directiveSpans, hnone, Span.inRole, Token.chars]

theorem output_render_empty (m : MessageStyle) (p : Provider) (t : Theme)
    (template : Template) :
    (m.render p t template Properties.empty).captured.output
      = String.ofList (Template.shown template.tokens) := by
  rw [render_eq, Rendering.captured_puts, Capture.output, Theme.texts_paint,
    ← toList_texts_spans_empty m p, String.ofList_toList]

end MessageStyle

namespace Template

/-- **Reading loses and invents nothing.**  Of every text the tokens are separated, each
directive is a pair of braces without a brace between, and it reads alone as itself; shown in
a row they are the text, up to doubled braces that became one.  A text without doubled braces
is shown exactly, and it is its own message when there are no properties. -/
theorem parse_conserves (s : String) :
    Token.Separated (parse s).tokens ∧
    (∀ d, .property d ∈ (parse s).tokens →
      (∃ body, BraceFree body ∧ d.raw.toList = '{' :: (body ++ ['}'])) ∧
      (parse d.raw).tokens = [.property d]) ∧
    Collapses s.toList (shown (parse s).tokens) ∧
    (¬ ['{', '{'] <:+: s.toList → ¬ ['}', '}'] <:+: s.toList →
      shown (parse s).tokens = s.toList ∧
      ∀ (m : MessageStyle) (p : Provider) (t : Theme),
        (m.render p t (parse s) Properties.empty).captured.output = s) := by
  refine ⟨Token.separated_fuse _, fun d hd => ?_, collapses_tokens s, fun hopen hclose => ?_⟩
  · obtain ⟨body, hbody, hparse⟩ : FromPair d := fromPair_of_mem_tokens hd
    exact ⟨⟨body, hbody, raw_of_parse? hparse⟩, tokens_parse_raw ⟨body, hbody, hparse⟩⟩
  · have hshown : shown (parse s).tokens = s.toList :=
      (collapses_tokens s).eq_of_not_doubled hopen hclose
    refine ⟨hshown, fun m p t => ?_⟩
    rw [MessageStyle.output_render_empty, hshown, String.ofList_toList]

/-- Braces that are closed, nested, empty, stray and open. -/
theorem parse_conserves_single_braces :
    let s := "\x7ba,-3:u\x7d \x7bb \x7b\x7d c\x7dd\x7be\x7d \x7b"
    let a : Directive := .make "a" (some "u") (some ⟨.left, 3, by decide⟩)
    let e : Directive := .make "e" none none
    (¬ ['{', '{'] <:+: s.toList ∧ ¬ ['}', '}'] <:+: s.toList) ∧
    (parse s).tokens =
      [.property a, .text " \x7bb \x7b\x7d c\x7dd".toList, .property e, .text " \x7b".toList] ∧
    (parse a.raw).tokens = [.property a] ∧
    ((⟨false, false⟩ : MessageStyle).render Provider.invariant Theme.empty (parse s)
      Properties.empty).captured.output = s := by
  intro s a e
  have hopen : ¬ ['{', '{'] <:+: s.toList := by
    simp [s, List.infix_cons_iff]
  have hclose : ¬ ['}', '}'] <:+: s.toList := by
    simp [s, List.infix_cons_iff]
  have htokens : (parse s).tokens =
      [.property a, .text " \x7bb \x7b\x7d c\x7dd".toList, .property e, .text " \x7b".toList] := by
    decide +kernel
  obtain ⟨-, hdirectives, -, hexact⟩ := parse_conserves s
  have ha : .property a ∈ (parse s).tokens := htokens ▸ List.mem_cons_self
  exact ⟨⟨hopen, hclose⟩, htokens, (hdirectives a ha).2,
    (hexact hopen hclose).2 ⟨false, false⟩ Provider.invariant Theme.empty⟩

end Template

end Logbook
