/-
# Writing a template and reading it back

A list of tokens is written by doubling the braces of its texts and by putting each directive
down as it was written.  Reading that text gives the tokens back (`tokens_parse_write`), also
where a brace of a text stands next to the brace of a directive, as in `{{{Name}}}`.

The argument goes through the tokens from the right.  A doubled brace is read as one brace
whatever follows it, so an escaped text goes in front of what the rest reads as
(`fuse_pieces_escape`), and the pair of a directive is a piece of its own wherever it stands.
What comes out is the list with neighbouring texts joined (`fuse_pieces_write`), and in a
separated list there is nothing to join.
-/
import Logbook.Proofs.Template.Pieces

namespace Logbook

namespace Template

/-! ## 1. Texts -/

theorem escape_open (s : List Char) : escape ('{' :: s) = '{' :: '{' :: escape s := rfl

theorem escape_close (s : List Char) : escape ('}' :: s) = '}' :: '}' :: escape s := rfl

theorem escape_plain {c : Char} (h : notBrace c = true) (s : List Char) :
    escape (c :: s) = c :: escape s := by
  obtain ⟨hopen, hclose⟩ := notBrace_iff.mp h
  rw [escape, List.flatMap_cons, if_neg hopen, if_neg hclose]
  rfl

/-- **An escaped text is read as the text**, whatever follows it. -/
theorem fuse_pieces_escape (s rest : List Char) :
    Token.fuse (pieces (escape s ++ rest)) = (Token.text s).push (Token.fuse (pieces rest)) := by
  induction s with
  | nil => exact (Token.push_text_nil _).symm
  | cons c s ih =>
    -- The first character goes in front of the rest of the text.
    suffices h : Token.fuse (pieces (escape (c :: s) ++ rest))
        = (Token.text [c]).push (Token.fuse (pieces (escape s ++ rest))) by
      rw [h, ih, Token.push_push]
      rfl
    by_cases hopen : c = '{'
    · rw [hopen, escape_open]
      exact fuse_pieces_open _
    · by_cases hclose : c = '}'
      · rw [hclose, escape_close]
        exact fuse_pieces_close _
      · have hplain : notBrace c = true := notBrace_iff.mpr ⟨hopen, hclose⟩
        rw [escape_plain hplain]
        exact fuse_pieces_cons hplain _

/-! ## 2. Lists of tokens -/

theorem write_cons (token : Token) (tokens : List Token) :
    write (token :: tokens) = writeToken token ++ write tokens := List.flatMap_cons

/-- A list of tokens whose directives come from pairs is read, from its text, as the list with
neighbouring texts joined. -/
theorem fuse_pieces_write {tokens : List Token}
    (h : ∀ d, .property d ∈ tokens → FromPair d) :
    Token.fuse (pieces (write tokens)) = Token.fuse tokens := by
  induction tokens with
  | nil =>
    change Token.fuse (pieces []) = []
    rw [pieces.eq_1]
    rfl
  | cons token tokens ih =>
    have hrest : Token.fuse (pieces (write tokens)) = Token.fuse tokens :=
      ih fun d hd => h d (List.mem_cons_of_mem _ hd)
    rw [write_cons, Token.fuse_cons]
    cases token with
    | text s => rw [writeToken, fuse_pieces_escape, hrest]
    | property d =>
      have hd : FromPair d := h d List.mem_cons_self
      rw [writeToken, pieces_raw_append hd, Token.fuse_cons, hrest]

/-- A directive that its raw text is read as comes from a pair. -/
theorem fromPair_of_tokens_parse {d : Directive} (h : (parse d.raw).tokens = [.property d]) :
    FromPair d := by
  have hmem : .property d ∈ (parse d.raw).tokens := by
    rw [h]
    exact List.mem_singleton_self _
  exact fromPair_of_mem_tokens hmem

theorem tokens_parse_ofList (s : List Char) :
    (parse (String.ofList s)).tokens = Token.fuse (pieces s) := by
  rw [parse, String.toList_ofList]

theorem tokens_literal (t : String) : (literal t).tokens = Token.fuse [.text t.toList] := by
  by_cases h : t = ""
  · rw [h]
    rfl
  · have htext : t.toList ≠ [] := fun hnil => h (String.toList_eq_nil_iff.mp hnil)
    have hempty : t.isEmpty = false := by simpa using h
    rw [literal, hempty, Token.fuse_cons, Token.push_text_of_ne htext (by simp)]
    rfl

/-- **Reading undoes writing.**  A separated list of tokens, each directive of which is what its
raw text is read as, comes back from its text.  In particular an escaped text is read like the
template in which that text is literal. -/
theorem tokens_parse_write :
    (∀ tokens : List Token, Token.Separated tokens →
      (∀ d, .property d ∈ tokens → (parse d.raw).tokens = [.property d]) →
      (parse (String.ofList (write tokens))).tokens = tokens) ∧
    ∀ t : String, (parse (String.ofList (escape t.toList))).tokens = (literal t).tokens := by
  refine ⟨fun tokens hsep hraw => ?_, fun t => ?_⟩
  · have hpair : ∀ d, .property d ∈ tokens → FromPair d :=
      fun d hd => fromPair_of_tokens_parse (hraw d hd)
    rw [tokens_parse_ofList, fuse_pieces_write hpair, Token.fuse_of_separated hsep]
  · have htext : escape t.toList = write [.text t.toList] := (List.append_nil _).symm
    rw [tokens_parse_ofList, htext, fuse_pieces_write (by simp), tokens_literal]

/-- Braces at both seams: of three in a row two are one brace of a text, and the third belongs
to the directive. -/
theorem tokens_parse_write_at_seams :
    (parse "{{{Name}}}").tokens
      = [.text ['{'], .property (Directive.make "Name" none none), .text ['}']] := by
  have hname : FromPair (Directive.make "Name" none none) := ⟨"Name".toList, by decide, rfl⟩
  refine tokens_parse_write.1
    [.text ['{'], .property (Directive.make "Name" none none), .text ['}']] ?_ ?_
  · exact ⟨by simp, by simp, by simp, by simp, trivial⟩
  · intro d hd
    obtain rfl : d = Directive.make "Name" none none := by simpa using hd
    exact tokens_parse_raw hname

end Template

end Logbook
