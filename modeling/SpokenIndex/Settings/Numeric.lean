/-
Numbers in settings.

A whole number may be given as one, as a fraction without a fractional part, as a
truth value, or as text; a fractional one likewise.  In text, blanks around the number
do not count and single underscores may stand between digits.  The text of a whole
number may have a plus sign, leading zeros and a fraction of zeros; the text of a
fraction may be any decimal numeral, or the name of an infinity or of no number.
-/
import SpokenIndex.Document.Json
import SpokenIndex.Settings.Problem
import SpokenIndex.Text.Blank

namespace SpokenIndex.Settings

open SpokenIndex.Text

/-- Blanks that may stand around a number: all but the information separators. -/
def isPadding (c : Char) : Bool :=
  isBlank c && !(0x1C ≤ c.toNat && c.toNat ≤ 0x1F)

/-! ### Whole numbers -/

/-- The digits behind leading zeros, underscores among the zeros dropped; at least the last
character is kept. -/
def dropLeadingZeros (s : List Char) : Option (List Char) :=
  match s with
  | '0' :: rest =>
    let zeros := rest.takeWhile fun c => c == '0' || c == '_'
    match rest.drop zeros.length with
    | [] => some [zeros.getLast?.getD '0']
    | '.' :: more => some ((zeros.getLast?.getD '0') :: '.' :: more)
    | c :: more => if c.isDigit then some (c :: more) else none
  | c :: _ => if c.isDigit then some s else none
  | [] => none

/-- A numeral without a fraction, if it has a fraction of zeros; else the numeral. -/
def dropZeroFraction (s : List Char) : List Char :=
  match s.dropWhile (· ≠ '.') with
  | '.' :: places => if places.all (· == '0') then s.takeWhile (· ≠ '.') else s
  | _ => s

/-- A numeral without single underscores between its characters; else the numeral. -/
def dropUnderscores (s : List Char) : List Char :=
  if s.head? = some '_' ∨ s.getLast? = some '_' ∨ hasInfix ['_', '_'] s then s
  else s.filter (· ≠ '_')

/-- How many digits the text of a whole number may have. -/
def wholeDigitLimit : Nat := 4300

/-- The whole number that a numeral without a sign denotes. -/
def unsignedWhole (s : List Char) : Checked Nat :=
  match dropLeadingZeros s with
  | none => .fail .noWholeText
  | some digits =>
    let digits := dropUnderscores (dropZeroFraction digits)
    if digits.isEmpty ∨ !digits.all Char.isDigit then .fail .noWholeText
    else if wholeDigitLimit < digits.length then .fail .tooManyDigits
    else .ok (Document.Json.decimalNumber digits)

/-- The whole number that a text denotes. -/
def wholeOfText (s : String) : Checked Int :=
  match stripWhen isPadding s.toList with
  | '-' :: rest => (unsignedWhole rest).map fun n => -(n : Int)
  | '+' :: rest => (unsignedWhole rest).map Int.ofNat
  | rest => (unsignedWhole rest).map Int.ofNat

/-- The whole number that a value denotes. -/
def wholeOf : Value → Checked Int
  | .whole n => .ok n
  | .truth b => .ok (if b then 1 else 0)
  | .fraction (.finite x) =>
    if x.isWhole ∧ x.toInt.natAbs < Nat.pow 2 63 then .ok x.toInt else .fail .fractional
  | .fraction _ => .fail .notFinite
  | .text s => wholeOfText s
  | _ => .fail .noWhole

/-- A whole number between two bounds. -/
def wholeBetween (low high : Nat) (v : Value) : Checked Int :=
  match wholeOf v with
  | .error ps => .error ps
  | .ok n =>
    if (high : Int) < n then .fail (.aboveBound high)
    else if n < (low : Int) then .fail (.belowBound low)
    else .ok n

/-! ### Fractions -/

/-- The names of numerals that are no decimals. -/
def namedNumerals : List (String × (Bool → Numeral)) :=
  [("inf", .infinite), ("infinity", .infinite), ("nan", fun _ => .notANumber)]

/-- The exponent of a decimal numeral, zero if there is none. -/
def exponentOf? (s : List Char) : Option Int :=
  match s with
  | [] => some 0
  | e :: rest =>
    if e == 'e' || e == 'E' then
      match Document.Json.exponentTail rest with
      | some (n, []) => some n
      | _ => none
    else none

/-- The numeral that a decimal without a sign denotes. -/
def unsignedDecimal? (negative : Bool) (s : List Char) : Option Numeral :=
  let whole := s.takeWhile Char.isDigit
  let rest := s.drop whole.length
  let (places, rest) :=
    match rest with
    | '.' :: more => (more.takeWhile Char.isDigit, more.dropWhile Char.isDigit)
    | _ => ([], rest)
  if whole.isEmpty ∧ places.isEmpty then none
  else
    (exponentOf? rest).map fun n =>
      Binary64.ofDecimal negative (Document.Json.decimalNumber (whole ++ places))
        (n - places.length)

/-- The numeral that a text without blanks and underscores denotes. -/
def numeralOf? (s : List Char) : Option Numeral :=
  let (negative, rest) :=
    match s with
    | '-' :: rest => (true, rest)
    | '+' :: rest => (false, rest)
    | _ => (false, s)
  match namedNumerals.find? fun (name, _) => name.toList == rest.map Char.toLower with
  | some (_, numeral) => some (numeral negative)
  | none => unsignedDecimal? negative rest

/-- The numeral that a text denotes. -/
def numeralOfText (s : String) : Checked Numeral :=
  let trimmed := stripWhen isPadding s.toList
  match numeralOf? trimmed with
  | some n => .ok n
  | none =>
    match numeralOf? (dropUnderscores trimmed) with
    | some n => .ok n
    | none => .fail .noNumberText

/-- The numeral that a value denotes. -/
def numeralOf : Value → Checked Numeral
  | .fraction n => .ok n
  | .whole n =>
    match Binary64.ofInt n with
    | .finite x => .ok (.finite x)
    | _ => .fail .noNumber
  | .truth b => .ok (Binary64.ofInt (if b then 1 else 0))
  | .text s => numeralOfText s
  | _ => .fail .noNumber

/-- The number of 64 bits with a given whole value, for values that are known to be in range. -/
def wholeNumber (n : Nat) : Binary64 :=
  match Binary64.ofInt n with
  | .finite x => x
  | _ => .zero

/-- A number between zero and a bound. -/
def fractionUpTo (high : Nat) (v : Value) : Checked Binary64 :=
  match numeralOf v with
  | .error ps => .error ps
  | .ok .notANumber => .fail (.aboveBound high)
  | .ok (.infinite negative) => .fail (if negative then .belowBound 0 else .aboveBound high)
  | .ok (.finite x) =>
    if wholeNumber high < x then .fail (.aboveBound high)
    else if x < .zero then .fail (.belowBound 0)
    else .ok x

end SpokenIndex.Settings
