/-
# The pieces of a template

Reading a template cuts its text into pieces and joins neighbouring texts.  This module says
what one step of the reading does:

* a doubled brace is a piece of text of one brace (`fuse_pieces_open`, `fuse_pieces_close`);
* a character other than a brace goes to the text in front (`fuse_pieces_cons`), although the
  reading takes such characters in runs;
* a brace pair without another brace between is a piece of its own (`pieces_enclosed`), and
  every directive of a template comes from such a pair (`fromPair_of_mem_tokens`).

A directive that comes from a pair is written as that pair, so its raw text alone is a
template of one directive, the same one (`tokens_parse_raw`).
-/
import Logbook.Template
import Mathlib.Data.List.TakeWhile

namespace Logbook

/-! ## 1. Joining texts -/

namespace Token

@[simp] theorem fuse_nil : fuse [] = [] := rfl

@[simp] theorem fuse_cons (token : Token) (tokens : List Token) :
    fuse (token :: tokens) = token.push (fuse tokens) := rfl

@[simp] theorem push_property (d : Directive) (tokens : List Token) :
    (Token.property d).push tokens = .property d :: tokens := by
  cases tokens with
  | nil => rfl
  | cons token tokens => rfl

theorem push_text_nil (tokens : List Token) : (Token.text []).push tokens = tokens := by
  unfold push
  split <;> simp_all

theorem push_text_of_ne {s : List Char} {tokens : List Token} (hs : s ≠ [])
    (ht : ∀ t after, tokens ≠ .text t :: after) :
    (Token.text s).push tokens = .text s :: tokens := by
  unfold push
  split <;> simp_all

/-- Two texts that are put in front one after the other are one text. -/
theorem push_push (s t : List Char) (tokens : List Token) :
    (Token.text s).push ((Token.text t).push tokens) = (Token.text (s ++ t)).push tokens := by
  by_cases hnext : ∃ u after, tokens = .text u :: after
  · obtain ⟨u, after, rfl⟩ := hnext
    change Token.text (s ++ (t ++ u)) :: after = .text (s ++ t ++ u) :: after
    rw [List.append_assoc]
  · have hnext : ∀ u after, tokens ≠ .text u :: after := fun u after h => hnext ⟨u, after, h⟩
    by_cases ht : t = []
    · rw [ht, push_text_nil, List.append_nil]
    · rw [push_text_of_ne ht hnext, push_text_of_ne (List.append_ne_nil_of_right_ne_nil s ht) hnext]
      rfl

/-- A list of tokens that is separated already stays as it is. -/
theorem fuse_of_separated {tokens : List Token} (h : Separated tokens) : fuse tokens = tokens := by
  induction tokens with
  | nil => rfl
  | cons token tokens ih =>
    cases token with
    | property d =>
      have hrest : Separated tokens := h
      rw [fuse_cons, ih hrest, push_property]
    | text s =>
      obtain ⟨hs, hnext, hrest⟩ := h
      rw [fuse_cons, ih hrest, push_text_of_ne hs hnext]

theorem mem_push_property {d : Directive} {token : Token} {tokens : List Token} :
    .property d ∈ token.push tokens ↔ .property d ∈ token :: tokens := by
  unfold push
  split <;> simp

/-- Joining texts neither adds nor drops a directive. -/
theorem mem_fuse_property {d : Directive} {tokens : List Token} :
    .property d ∈ fuse tokens ↔ .property d ∈ tokens := by
  induction tokens with
  | nil => rfl
  | cons token tokens ih => rw [fuse_cons, mem_push_property, List.mem_cons, List.mem_cons, ih]

end Token

/-! ## 2. One step of the reading -/

namespace Template

/-- No brace occurs. -/
def BraceFree (s : List Char) : Prop := ∀ c ∈ s, notBrace c = true

instance (s : List Char) : Decidable (BraceFree s) :=
  decidable_of_iff (s.all notBrace = true) List.all_eq_true

theorem notBrace_iff {c : Char} : notBrace c = true ↔ c ≠ '{' ∧ c ≠ '}' := by
  simp [notBrace]

theorem braceFree_run (s : List Char) : BraceFree (run s) := fun _ hc => List.mem_takeWhile_imp hc

theorem run_append_tail (s : List Char) : run s ++ tail s = s := List.takeWhile_append_dropWhile

theorem run_append {body : List Char} (h : BraceFree body) (s : List Char) :
    run (body ++ s) = body ++ run s := List.takeWhile_append_of_pos h

theorem tail_append {body : List Char} (h : BraceFree body) (s : List Char) :
    tail (body ++ s) = tail s := List.dropWhile_append_of_pos h

theorem run_cons {c : Char} (h : notBrace c = true) (s : List Char) : run (c :: s) = c :: run s :=
  List.takeWhile_cons_of_pos h

theorem tail_cons {c : Char} (h : notBrace c = true) (s : List Char) : tail (c :: s) = tail s :=
  List.dropWhile_cons_of_pos h

theorem pieces_open (rest : List Char) :
    pieces ('{' :: '{' :: rest) = .text ['{'] :: pieces rest := pieces.eq_2 rest

theorem pieces_close (rest : List Char) :
    pieces ('}' :: '}' :: rest) = .text ['}'] :: pieces rest := pieces.eq_3 rest

theorem pieces_plain {c : Char} (h : notBrace c = true) (rest : List Char) :
    pieces (c :: rest) = .text (c :: run rest) :: pieces (tail rest) := by
  obtain ⟨hopen, hclose⟩ := notBrace_iff.mp h
  exact pieces.eq_5 c rest (fun _ hc _ => hopen hc) (fun _ hc _ => hclose hc) hopen

/-- A brace pair without a brace between is one piece. -/
theorem pieces_enclosed {body : List Char} (h : BraceFree body) (rest : List Char) :
    pieces ('{' :: (body ++ '}' :: rest)) = enclosed body :: pieces rest := by
  have hrun : run (body ++ '}' :: rest) = body := by
    rw [run_append h]
    exact List.append_nil body
  have htail : tail (body ++ '}' :: rest) = '}' :: rest := tail_append h _
  rw [pieces.eq_4]
  · split
    · rename_i after heq
      rw [htail] at heq
      obtain rfl : rest = after := (List.cons.inj heq).2
      rw [hrun]
    · rename_i hne
      exact absurd htail (hne rest)
  · intro after heq
    cases body with
    | nil => exact absurd (List.cons.inj heq).1 (by decide)
    | cons c body =>
      have hc := (notBrace_iff.mp (h c List.mem_cons_self)).1
      exact hc (List.cons.inj heq).1

/-- An opening brace that meets a closing one first. -/
theorem pieces_pair {rest after : List Char} (h : tail rest = '}' :: after) :
    pieces ('{' :: rest) = enclosed (run rest) :: pieces after := by
  have hrest : rest = run rest ++ '}' :: after := by rw [← h, run_append_tail]
  calc pieces ('{' :: rest)
      = pieces ('{' :: (run rest ++ '}' :: after)) := by rw [← hrest]
    _ = enclosed (run rest) :: pieces after := pieces_enclosed (braceFree_run rest) after

/-- An opening brace that meets the end, or another opening one, before a closing one. -/
theorem pieces_unclosed {rest : List Char} (hrest : ∀ after, rest = '{' :: after → False)
    (htail : ∀ after, tail rest = '}' :: after → False) :
    pieces ('{' :: rest) = .text ('{' :: run rest) :: pieces (tail rest) := by
  rw [pieces.eq_4 rest hrest]
  split
  · rename_i after h
    exact (htail after h).elim
  · rfl

/-! ## 3. Characters, one by one -/

theorem fuse_pieces_open (rest : List Char) :
    Token.fuse (pieces ('{' :: '{' :: rest))
      = (Token.text ['{']).push (Token.fuse (pieces rest)) := by
  rw [pieces_open, Token.fuse_cons]

theorem fuse_pieces_close (rest : List Char) :
    Token.fuse (pieces ('}' :: '}' :: rest))
      = (Token.text ['}']).push (Token.fuse (pieces rest)) := by
  rw [pieces_close, Token.fuse_cons]

/-- **The reading may go character by character.**  It takes characters that are no braces in
runs, but after joining the texts nothing of that is left. -/
theorem fuse_pieces_cons {c : Char} (h : notBrace c = true) (rest : List Char) :
    Token.fuse (pieces (c :: rest)) = (Token.text [c]).push (Token.fuse (pieces rest)) := by
  rw [pieces_plain h, Token.fuse_cons]
  cases rest with
  | nil => rfl
  | cons d rest =>
    by_cases hd : notBrace d = true
    · rw [run_cons hd, tail_cons hd, pieces_plain hd, Token.fuse_cons, Token.push_push]
      rfl
    · have hrun : run (d :: rest) = [] := List.takeWhile_cons_of_neg hd
      have htail : tail (d :: rest) = d :: rest := List.dropWhile_cons_of_neg hd
      rw [hrun, htail]

/-! ## 4. Directives -/

/-- A directive that is read from between a pair of braces. -/
def FromPair (d : Directive) : Prop :=
  ∃ body, BraceFree body ∧ Directive.parse? body = some d

/-- The raw text of a directive is the pair that it was read from. -/
theorem raw_of_parse? {body : List Char} {d : Directive} (h : Directive.parse? body = some d) :
    d.raw.toList = '{' :: (body ++ ['}']) := by
  simp only [Directive.parse?] at h
  obtain ⟨⟨name, a⟩, -, h⟩ := Option.bind_eq_some_iff.mp h
  obtain ⟨-, h⟩ := Option.ite_none_right_eq_some.mp h
  obtain rfl := Option.some.inj h
  exact String.toList_ofList

theorem enclosed_of_parse? {body : List Char} {d : Directive}
    (h : Directive.parse? body = some d) : enclosed body = .property d := by
  rw [enclosed, h]

theorem fromPair_of_enclosed {body : List Char} {d : Directive} (hbody : BraceFree body)
    (h : enclosed body = .property d) : FromPair d := by
  unfold enclosed at h
  split at h
  · rename_i e he
    obtain rfl := Token.property.inj h
    exact ⟨body, hbody, he⟩
  · exact absurd h (by simp)

/-- **Every directive comes from a pair of braces.** -/
theorem fromPair_of_mem_pieces {d : Directive} {s : List Char} (h : .property d ∈ pieces s) :
    FromPair d := by
  induction s using pieces.induct with
  | case1 => exact absurd h (by simp [pieces])
  | case2 rest ih =>
    rw [pieces_open] at h
    exact ih (by simpa using h)
  | case3 rest ih =>
    rw [pieces_close] at h
    exact ih (by simpa using h)
  | case4 rest hrest after htail ih =>
    rw [pieces_pair htail] at h
    rcases List.mem_cons.mp h with h | h
    · exact fromPair_of_enclosed (braceFree_run rest) h.symm
    · exact ih h
  | case5 rest hrest htail ih =>
    rw [pieces_unclosed hrest htail] at h
    exact ih (by simpa using h)
  | case6 c rest h1 h2 h3 ih =>
    rw [pieces.eq_5 c rest h1 h2 h3] at h
    exact ih (by simpa using h)

/-- **The pair of a directive reads alone as that directive.** -/
theorem tokens_parse_raw {d : Directive} (h : FromPair d) :
    (parse d.raw).tokens = [.property d] := by
  obtain ⟨body, hbody, hd⟩ := h
  change Token.fuse (pieces d.raw.toList) = [.property d]
  have hpieces : pieces d.raw.toList = .property d :: pieces [] := by
    rw [raw_of_parse? hd, pieces_enclosed hbody, enclosed_of_parse? hd]
  rw [hpieces, pieces.eq_1]
  rfl

/-- The pair of a directive is a piece of its own wherever it stands. -/
theorem pieces_raw_append {d : Directive} (h : FromPair d) (rest : List Char) :
    pieces (d.raw.toList ++ rest) = .property d :: pieces rest := by
  obtain ⟨body, hbody, hd⟩ := h
  have hpair : d.raw.toList ++ rest = '{' :: (body ++ '}' :: rest) := by
    rw [raw_of_parse? hd]
    simp
  rw [hpair, pieces_enclosed hbody, enclosed_of_parse? hd]

/-- A directive among the tokens of a template comes from a pair of braces. -/
theorem fromPair_of_mem_tokens {d : Directive} {text : String}
    (h : .property d ∈ (parse text).tokens) : FromPair d :=
  fromPair_of_mem_pieces (Token.mem_fuse_property.mp h)

end Template

end Logbook
