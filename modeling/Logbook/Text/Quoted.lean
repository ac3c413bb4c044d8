/-
# Quoted text

A JSON string literal: the text between double quotes, with the quote, the backslash and
the control characters below U+0020 escaped and everything else as it is.

`quote` writes the literal and `unquote` reads one from the front of a text.  The reader
accepts every JSON spelling, the `\u` escapes with surrogate pairs included.  The main
statement is `unquote_quoteChars`: what was written is read back, whatever follows it.
-/

namespace Logbook.Text

/-! ## 1. Writing -/

/-- The hexadecimal digit of a number below sixteen, in lower case. -/
def hexDigit (n : Nat) : Char := Nat.digitChar n

/-- How a character is written inside the quotes. -/
def escapeChar (c : Char) : List Char :=
  if c = '"' then ['\\', '"']
  else if c = '\\' then ['\\', '\\']
  else if c = '\x08' then ['\\', 'b']
  else if c = '\x0c' then ['\\', 'f']
  else if c = '\n' then ['\\', 'n']
  else if c = '\r' then ['\\', 'r']
  else if c = '\t' then ['\\', 't']
  else if c.toNat < 0x20 then
    ['\\', 'u', '0', '0', hexDigit (c.toNat / 16), hexDigit (c.toNat % 16)]
  else [c]

/-- The text as a string literal. -/
def quoteChars (s : List Char) : List Char := '"' :: (s.flatMap escapeChar ++ ['"'])

/-- The text as a string literal. -/
def quote (s : String) : String := String.ofList (quoteChars s.toList)

/-! ## 2. Reading -/

/-- The value of a hexadecimal digit in either case. -/
def hexValue? (c : Char) : Option Nat :=
  if '0' ≤ c ∧ c ≤ '9' then some (c.toNat - '0'.toNat)
  else if 'a' ≤ c ∧ c ≤ 'f' then some (c.toNat - 'a'.toNat + 10)
  else if 'A' ≤ c ∧ c ≤ 'F' then some (c.toNat - 'A'.toNat + 10)
  else none

/-- The value of four hexadecimal digits. -/
def hexQuad? (a b c d : Char) : Option Nat := do
  let a ← hexValue? a
  let b ← hexValue? b
  let c ← hexValue? c
  let d ← hexValue? d
  return ((a * 16 + b) * 16 + c) * 16 + d

/-- The character of a one-letter escape. -/
def shortEscape? (c : Char) : Option Char :=
  if c = '"' then some '"'
  else if c = '\\' then some '\\'
  else if c = '/' then some '/'
  else if c = 'b' then some '\x08'
  else if c = 'f' then some '\x0c'
  else if c = 'n' then some '\n'
  else if c = 'r' then some '\r'
  else if c = 't' then some '\t'
  else none

/-- The character that four hexadecimal digits after a `\u` stand for, and what follows
it.  A number in the surrogate range counts only as the first half of a pair. -/
def readUnicode (n : Nat) (rest : List Char) : Option (Char × List Char) :=
  if n < 0xD800 ∨ 0xE000 ≤ n then some (Char.ofNat n, rest)
  else if n < 0xDC00 then
    match rest with
    | '\\' :: 'u' :: a :: b :: c :: d :: rest =>
      match hexQuad? a b c d with
      | some m =>
        if 0xDC00 ≤ m ∧ m < 0xE000 then
          some (Char.ofNat (0x10000 + (n - 0xD800) * 0x400 + (m - 0xDC00)), rest)
        else none
      | none => none
    | _ => none
  else none

/-- The character of the escape that stands after a backslash, and what follows it. -/
def readEscape : List Char → Option (Char × List Char)
  | 'u' :: a :: b :: c :: d :: rest => (hexQuad? a b c d).bind (readUnicode · rest)
  | c :: rest => (shortEscape? c).map (·, rest)
  | [] => none

theorem readUnicode_length {n : Nat} {s rest : List Char} {c : Char}
    (h : readUnicode n s = some (c, rest)) : rest.length ≤ s.length := by
  unfold readUnicode at h
  split at h
  · simp_all
  · split at h
    · split at h
      · split at h
        · split at h
          · simp only [Option.some.injEq, Prod.mk.injEq] at h
            obtain ⟨_, rfl⟩ := h
            simp only [List.length_cons]
            omega
          · simp at h
        · simp at h
      · simp at h
    · simp at h

theorem readEscape_length {s rest : List Char} {c : Char}
    (h : readEscape s = some (c, rest)) : rest.length < s.length := by
  unfold readEscape at h
  split at h
  · obtain ⟨n, _, h⟩ := Option.bind_eq_some_iff.mp h
    have := readUnicode_length h
    simp only [List.length_cons]
    omega
  · obtain ⟨e, _, h⟩ := Option.map_eq_some_iff.mp h
    simp only [Prod.mk.injEq] at h
    simp [h.2]
  · simp at h

/-- Puts a character in front of the text that was read. -/
def consRead (c : Char) (r : Option (List Char × List Char)) : Option (List Char × List Char) :=
  r.map fun (s, rest) => (c :: s, rest)

/-- Reads up to the closing quote: the text, and what follows the literal.  Characters
below U+0020 must be escaped. -/
def readQuoted : List Char → Option (List Char × List Char)
  | [] => none
  | c :: rest =>
    if c = '"' then some ([], rest)
    else if c = '\\' then
      match _h : readEscape rest with
      | some (e, after) => consRead e (readQuoted after)
      | none => none
    else if c.toNat < 0x20 then none
    else consRead c (readQuoted rest)
  termination_by s => s.length
  decreasing_by
    · have := readEscape_length _h
      simp only [List.length_cons]
      omega
    · simp

theorem readQuoted_length : ∀ {s t rest : List Char},
    readQuoted s = some (t, rest) → rest.length < s.length := by
  intro s
  fun_induction readQuoted s with
  | case1 => simp
  | case2 rest => simp
  | case3 rest e after hread _ ih =>
    intro t last h
    simp only [consRead, Option.map_eq_some_iff, Prod.mk.injEq] at h
    obtain ⟨⟨u, r⟩, hu, _, rfl⟩ := h
    have := ih hu
    have := readEscape_length hread
    simp only [List.length_cons]
    omega
  | case4 => simp
  | case5 => simp
  | case6 c rest _ _ _ ih =>
    intro t last h
    simp only [consRead, Option.map_eq_some_iff, Prod.mk.injEq] at h
    obtain ⟨⟨u, r⟩, hu, _, rfl⟩ := h
    have := ih hu
    simp only [List.length_cons]
    omega

/-- Reads a string literal from the front of a text. -/
def unquote : List Char → Option (List Char × List Char)
  | '"' :: rest => readQuoted rest
  | _ => none

/-! ## 3. Reading what was written -/

theorem hexValue?_hexDigit : ∀ n < 16, hexValue? (hexDigit n) = some n := by decide

theorem readQuoted_cons_escape {c e : Char} {rest after : List Char}
    (h : readEscape rest = some (e, after)) (hc : c = '\\') :
    readQuoted (c :: rest) = consRead e (readQuoted after) := by
  subst hc
  rw [readQuoted]
  split
  · simp_all
  · simp only [if_true]
    split
    · simp_all
    · simp_all

theorem readEscape_short {c e : Char} {rest : List Char} (h : shortEscape? c = some e) :
    readEscape (c :: rest) = some (e, rest) := by
  have hu : c ≠ 'u' := by
    rintro rfl
    simp [shortEscape?] at h
  unfold readEscape
  split
  · simp_all
  · simp_all
  · simp_all

theorem readEscape_control {c : Char} {rest : List Char} (h : c.toNat < 0x20) :
    readEscape ('u' :: '0' :: '0' :: hexDigit (c.toNat / 16) :: hexDigit (c.toNat % 16) :: rest)
      = some (c, rest) := by
  have h0 : hexValue? '0' = some 0 := by decide
  have h1 := hexValue?_hexDigit (c.toNat / 16) (by omega)
  have h2 := hexValue?_hexDigit (c.toNat % 16) (by omega)
  have h3 : (0 * 16 + 0) * 16 + c.toNat / 16 = c.toNat / 16 := by omega
  have h4 : c.toNat / 16 * 16 + c.toNat % 16 = c.toNat := by omega
  simp [readEscape, hexQuad?, h0, h1, h2, h4, readUnicode]
  omega

theorem readQuoted_escapeChar (c : Char) (rest : List Char) :
    readQuoted (escapeChar c ++ rest) = consRead c (readQuoted rest) := by
  unfold escapeChar
  split
  · subst c
    exact readQuoted_cons_escape (readEscape_short (by decide)) rfl
  split
  · subst c
    exact readQuoted_cons_escape (readEscape_short (by decide)) rfl
  split
  · subst c
    exact readQuoted_cons_escape (readEscape_short (by decide)) rfl
  split
  · subst c
    exact readQuoted_cons_escape (readEscape_short (by decide)) rfl
  split
  · subst c
    exact readQuoted_cons_escape (readEscape_short (by decide)) rfl
  split
  · subst c
    exact readQuoted_cons_escape (readEscape_short (by decide)) rfl
  split
  · subst c
    exact readQuoted_cons_escape (readEscape_short (by decide)) rfl
  split
  · rename_i h
    exact readQuoted_cons_escape (readEscape_control h) rfl
  · rename_i h
    rw [List.singleton_append, readQuoted]
    simp_all only [if_false]

theorem readQuoted_flatMap (s rest : List Char) :
    readQuoted (s.flatMap escapeChar ++ '"' :: rest) = some (s, rest) := by
  induction s with
  | nil => simp [readQuoted]
  | cons c s ih =>
    rw [List.flatMap_cons, List.append_assoc, readQuoted_escapeChar, ih]
    rfl

/-- **Quoting is undone by reading.**  Whatever follows the literal is left over. -/
theorem unquote_quoteChars (s rest : List Char) :
    unquote (quoteChars s ++ rest) = some (s, rest) := by
  simp [quoteChars, unquote, readQuoted_flatMap]

end Logbook.Text
