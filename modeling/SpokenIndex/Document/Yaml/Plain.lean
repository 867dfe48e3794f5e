/-
What plain scalars of YAML documents mean.

A plain scalar that is written like a truth value, a number, a date or nothing at all
is one; any other is a text.  Numbers may have underscores among their digits.  A
number may be written to the base sixty, with colons between its places, and to the
base eight, with a zero in front.
-/
import SpokenIndex.Document.Moment
import SpokenIndex.Document.Value
import SpokenIndex.Text.Basic

namespace SpokenIndex.Document.Yaml

open SpokenIndex.Text SpokenIndex.Text.Reader

/-- The kinds of plain scalar. -/
inductive PlainKind where
  | null
  | truth
  | whole
  | fraction
  | moment
  | merge
  | default
  | text
  deriving DecidableEq, Repr

/-! ### Words -/

/-- A word in lowercase, with a capital, and in capitals. -/
def threeCases (s : String) : List String :=
  [s, s.capitalize, s.toUpper]

/-- The words for true. -/
def trueWords : List String := ["yes", "true", "on"].flatMap threeCases

/-- The words for false. -/
def falseWords : List String := ["no", "false", "off"].flatMap threeCases

/-- The words for nothing. -/
def nullWords : List String := "" :: "~" :: threeCases "null"

/-! ### Shapes of numbers -/

/-- Whether a reader reads a text to its end. -/
def reads {α : Type} (p : Reader α) (s : List Char) : Bool :=
  match p s with
  | some (_, []) => true
  | _ => false

/-- Whether a character is a digit or an underscore. -/
def isSpacedDigit (c : Char) : Bool := c.isDigit || c == '_'

/-- Passes over a sign, if there is one. -/
def signIf : Reader Unit := do
  if !(← charIf '-') then
    let _ ← charIf '+'

/-- Reads one or more characters of a kind. -/
def some1 (p : Char → Bool) : Reader (List Char) := do
  let cs ← Reader.takeWhile p
  require !cs.isEmpty
  pure cs

/-- Reads digits and underscores that begin with a digit. -/
def spacedDigits : Reader (List Char) := do
  require ((← peek?).any Char.isDigit)
  Reader.takeWhile isSpacedDigit

/-- Reads an exponent with its sign. -/
def exponentIf : Reader Unit := do
  let _ ← attempt do
    let e ← next
    require (e == 'e' || e == 'E')
    let c ← next
    require (c == '-' || c == '+')
    some1 Char.isDigit

/-- Reads a place to the base sixty behind a colon. -/
def sixtiethPlace : Reader Unit := do
  char ':'
  let ds ← Reader.takeWhile Char.isDigit
  require (match ds with
    | [_] => true
    | [a, _] => a ≤ '5'
    | _ => false)

/-- Reads places to the base sixty, at least one. -/
def sixtiethPlaces : Reader Unit := fun s =>
  (sixtiethPlace s).bind fun ((), rest) =>
    (manyFrom sixtiethPlace rest.length [] rest).map fun (_, rest) => ((), rest)

/-- Reads a whole number. -/
def wholeShape : Reader Unit := do
  signIf
  if ← textIf ['0', 'b'] then
    let _ ← some1 fun c => c == '0' || c == '1' || c == '_'
  else if ← textIf ['0', 'x'] then
    let _ ← some1 fun c => isDigitIn 16 c || c == '_'
  else if ← charIf '0' then
    let _ ← Reader.takeWhile fun c => isDigitIn 8 c || c == '_'
  else
    let _ ← spacedDigits
    let _ ← attempt sixtiethPlaces

/-- Reads a number with a point. -/
def pointShape : Reader Unit := do
  let _ ← spacedDigits
  char '.'
  let _ ← Reader.takeWhile isSpacedDigit
  exponentIf

/-- Reads a number with a point to the base sixty. -/
def sixtiethShape : Reader Unit := do
  let _ ← spacedDigits
  sixtiethPlaces
  char '.'
  let _ ← Reader.takeWhile isSpacedDigit

/-- The words for an infinity, behind a sign, and for what is no number. -/
def infinityWords : List String := [".inf", ".Inf", ".INF"]

/-- The words for what is no number. -/
def notNumberWords : List String := [".nan", ".NaN", ".NAN"]

/-- A text without the sign in front. -/
def unsigned : List Char → List Char
  | '-' :: rest => rest
  | '+' :: rest => rest
  | s => s

/-- Whether a text is written like a number with a fraction. -/
def isFraction (s : List Char) : Bool :=
  reads (signIf *> pointShape) s || reads (signIf *> sixtiethShape) s
    || reads (char '.' *> spacedDigits *> exponentIf) s
    || infinityWords.contains (String.ofList (unsigned s))
    || notNumberWords.contains (String.ofList s)

/-! ### Dates -/

/-- Reads one or two digits. -/
def oneOrTwoDigits : Reader Nat := do
  let ds ← Reader.takeWhile Char.isDigit
  require (ds.length == 1 || ds.length == 2)
  pure (numberIn 10 ds)

/-- Reads a date and whether it is one. -/
def dateShape : Reader Bool := do
  let year ← fixedNumber 4
  char '-'
  let month ← fixedNumber 2
  char '-'
  let day ← fixedNumber 2
  pure (isDate year month day)

/-- Reads the offset of a time. -/
def offsetIf : Reader Unit := do
  let _ ← attempt do
    skipWhile fun c => c == ' ' || c == '\t'
    if !(← charIf 'Z') then
      let c ← next
      require (c == '-' || c == '+')
      let _ ← oneOrTwoDigits
      let _ ← attempt (char ':' *> fixedNumber 2)

/-- Reads a date with a time, and whether it is one. -/
def timeShape : Reader Bool := do
  let year ← fixedNumber 4
  char '-'
  let month ← oneOrTwoDigits
  char '-'
  let day ← oneOrTwoDigits
  if !((← charIf 'T') || (← charIf 't')) then
    let _ ← some1 fun c => c == ' ' || c == '\t'
  let hour ← oneOrTwoDigits
  char ':'
  let minute ← fixedNumber 2
  char ':'
  let second ← fixedNumber 2
  if ← charIf '.' then skipWhile Char.isDigit
  offsetIf
  pure (isDate year month day && hour < 24 && minute < 60 && second < 60)

/-- Whether a text is written like a date. -/
def isMoment (s : List Char) : Bool :=
  reads dateShape s || reads timeShape s

/-! ### Kinds -/

/-- The kind of a plain scalar. -/
def plainKind (text : String) : PlainKind :=
  let s := text.toList
  if (trueWords ++ falseWords).contains text then .truth
  else if isFraction s then .fraction
  else if reads wholeShape s then .whole
  else if text == "<<" then .merge
  else if nullWords.contains text then .null
  else if isMoment s then .moment
  else if text == "=" then .default
  else .text

/-! ### Values -/

/-- The truth value of a word, in any case. -/
def truthOf? (text : String) : Option Bool :=
  let word := text.toLower
  if trueWords.contains word then some true
  else if falseWords.contains word then some false
  else none

/-- Whether a minus stands in front. -/
def isNegative (s : List Char) : Bool := s.head? == some '-'

/-- The digits of a text to a base, if it has nothing else. -/
def digitsIn? (base : Nat) (s : List Char) : Option Nat :=
  if s.isEmpty ∨ !s.all (isDigitIn base) then none else some (numberIn base s)

/-- The number that places to the base sixty make. -/
def sixtieths? (s : List Char) : Option Nat :=
  (splitAt ':' s).foldlM (fun n place => (digitsIn? 10 place).map (60 * n + ·)) 0

/-- The whole number that a text denotes. -/
def wholeOf? (text : String) : Option Int :=
  let s := text.toList.filter (· != '_')
  let n? :=
    match unsigned s with
    | ['0'] => some 0
    | '0' :: 'b' :: ds => digitsIn? 2 ds
    | '0' :: 'x' :: ds => digitsIn? 16 ds
    | '0' :: ds => digitsIn? 8 ds
    | ds => if ds.contains ':' then sixtieths? ds else digitsIn? 10 ds
  n?.map fun n => if isNegative s then -(n : Int) else n

/-- The decimal that a text without a sign and underscores denotes. -/
def decimalOf? (negative : Bool) (s : List Char) : Option Numeral :=
  let whole := s.takeWhile Char.isDigit
  let rest := s.drop whole.length
  let places :=
    match rest with
    | '.' :: more => more.takeWhile Char.isDigit
    | _ => []
  let rest := if rest.head? == some '.' then rest.drop (places.length + 1) else rest
  if whole.isEmpty ∧ places.isEmpty then none
  else
    let power : Option Int :=
      match rest with
      | [] => some 0
      | e :: more =>
        if e.toLower == 'e' then
          (digitsIn? 10 (unsigned more)).map fun n => if isNegative more then -(n : Int) else n
        else none
    power.map fun p => Binary64.ofDecimal negative (numberIn 10 (whole ++ places))
      (p - places.length)

/-- The number with a fraction that places to the base sixty make. -/
def sixtiethFraction? (negative : Bool) (s : List Char) : Option Numeral :=
  let whole := s.takeWhile (· != '.')
  let places := (s.drop (whole.length + 1)).takeWhile Char.isDigit
  (sixtieths? whole).map fun n =>
    Binary64.ofDecimal negative (n * Nat.pow 10 places.length + numberIn 10 places)
      (-(places.length : Int))

/-- The number with a fraction that a text denotes. -/
def fractionOf? (text : String) : Option Numeral :=
  let s := (text.toList.filter (· != '_')).map Char.toLower
  let ds := unsigned s
  if ds == ".inf".toList then some (.infinite (isNegative s))
  else if ds == ".nan".toList then some .notANumber
  else if ds.contains ':' then sixtiethFraction? (isNegative s) ds
  else decimalOf? (isNegative s) ds

/-- Whether a text denotes a date. -/
def isRealMoment (text : String) : Bool :=
  let s := text.toList
  match dateShape s with
  | some (valid, []) => valid
  | _ =>
    match timeShape s with
    | some (valid, []) => valid
    | _ => false

/-- The value of a scalar of a kind. -/
def valueOf? (kind : PlainKind) (text : String) : Option Value :=
  match kind with
  | .null => some .null
  | .truth => (truthOf? text).map .truth
  | .whole => (wholeOf? text).map .whole
  | .fraction => (fractionOf? text).map .fraction
  | .moment => if isRealMoment text then some .moment else none
  | .text => some (.text text)
  | .merge => none
  | .default => none

end SpokenIndex.Document.Yaml
