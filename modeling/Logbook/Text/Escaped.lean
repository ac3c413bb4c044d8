/-
# Escaped text

A text between double quotes in which everything that is not plainly visible is escaped:
the quote and the backslash, the usual control characters by a letter, and other invisible
characters, combining marks and unassigned code points by their code.  Error messages show
texts in this form.
-/
import Logbook.Text.Escaped.Table
import Logbook.Text.Width.Table

namespace Logbook.Text

/-- How a character is written inside the quotes. -/
def showChar (c : Char) : List Char :=
  let code := ['\\', 'u', '\x7b'] ++ Nat.toDigits 16 c.toNat ++ ['\x7d']
  if c = '"' then ['\\', '"']
  else if c = '\\' then ['\\', '\\']
  else if c = '\n' then ['\\', 'n']
  else if c = '\r' then ['\\', 'r']
  else if c = '\t' then ['\\', 't']
  else if c = '\x00' then ['\\', '0']
  else if c.toNat < 0x20 ∨ c.toNat = 0x7f then code
  else if c.toNat < 0x80 then [c]
  else if hiddenRanges.has c || extendingRanges.has c then code
  else [c]

/-- The text with quotes and escapes. -/
def escaped (s : String) : String :=
  String.ofList ('"' :: (s.toList.flatMap showChar ++ ['"']))

end Logbook.Text
