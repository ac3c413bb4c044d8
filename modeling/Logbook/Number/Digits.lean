/-
# Numerals

Texts of natural numbers in base ten and sixteen, and the two things that formats do to
them: padding with zeros on the left, and grouping by thousands.
-/

namespace Logbook

/-! ## 1. Digits -/

/-- The decimal numeral of a natural number, without leading zeros. -/
def decimal (n : Nat) : List Char := Nat.toDigits 10 n

/-- The hexadecimal numeral of a natural number, in lower case. -/
def hexadecimal (n : Nat) : List Char := Nat.toDigits 16 n

/-- The decimal numeral of an integer, with a minus sign if it is negative. -/
def signedDecimal (n : Int) : List Char :=
  if n < 0 then '-' :: decimal n.natAbs else decimal n.natAbs

/-- The numeral with zeros in front, up to a width. -/
def padZeros (width : Nat) (digits : List Char) : List Char :=
  List.replicate (width - digits.length) '0' ++ digits

theorem length_padZeros (width : Nat) (digits : List Char) :
    (padZeros width digits).length = max width digits.length := by
  simp only [padZeros, List.length_append, List.length_replicate]
  omega

/-! ## 2. Thousands -/

/-- The digits with a comma before every third one from the right, the first one apart. -/
def groupThousands : List Char → List Char
  | [] => []
  | d :: rest =>
    if rest.length % 3 = 0 ∧ rest ≠ [] then d :: ',' :: groupThousands rest
    else d :: groupThousands rest

end Logbook
