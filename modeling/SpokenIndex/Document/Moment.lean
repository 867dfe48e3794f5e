/-
Dates and times in documents.

Only whether a date or a time is one matters: the day must be in its month.
-/
import SpokenIndex.Number.Digits
import SpokenIndex.Text.Reader

namespace SpokenIndex.Document

open SpokenIndex.Text SpokenIndex.Text.Reader

/-- Reads a number of so many digits. -/
def fixedNumber : (count : Nat) → Reader Nat := fun count s =>
  let digits := s.take count
  if digits.length = count ∧ digits.all Char.isDigit then
    some (numberIn 10 digits, s.drop count)
  else none

/-- Whether a year has a leap day. -/
def isLeapYear (year : Nat) : Bool :=
  year % 4 == 0 && (year % 100 != 0 || year % 400 == 0)

/-- The days of a month. -/
def daysOfMonth (year month : Nat) : Nat :=
  if month = 2 then (if isLeapYear year then 29 else 28)
  else if [4, 6, 9, 11].contains month then 30
  else 31

/-- Whether three numbers make a date. -/
def isDate (year month day : Nat) : Bool :=
  1 ≤ year && 1 ≤ month && month ≤ 12 && 1 ≤ day && day ≤ daysOfMonth year month

end SpokenIndex.Document
