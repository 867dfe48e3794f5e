/-
Numbers written in digits.
-/
namespace SpokenIndex

/-- The value of a digit: of `0` to `9`, or of a letter, which stands for ten and above. -/
def digitValue (c : Char) : Nat :=
  if c.isDigit then c.toNat - '0'.toNat
  else if 'a' ≤ c ∧ c ≤ 'z' then c.toNat - 'a'.toNat + 10
  else if 'A' ≤ c ∧ c ≤ 'Z' then c.toNat - 'A'.toNat + 10
  else 36

/-- Whether a character is a digit to a base. -/
def isDigitIn (base : Nat) (c : Char) : Bool :=
  digitValue c < base

/-- The number that digits make to a base. -/
def numberIn (base : Nat) (digits : List Char) : Nat :=
  digits.foldl (fun n c => base * n + digitValue c) 0

end SpokenIndex
