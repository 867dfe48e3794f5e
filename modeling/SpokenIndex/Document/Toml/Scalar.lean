/-
Keys and plain values of TOML documents: strings, numbers, dates.

Control characters other than tabs stand nowhere, and line feeds only in strings of
several lines.
-/
import SpokenIndex.Document.Moment
import SpokenIndex.Document.Value

namespace SpokenIndex.Document.Toml

open SpokenIndex.Text SpokenIndex.Text.Reader

/-! ### Characters -/

/-- Whether a character is a blank within a line. -/
def isBlank (c : Char) : Bool := c == ' ' || c == '\t'

/-- Whether a character may stand in a string of one line. -/
def isPlain (c : Char) : Bool :=
  c == '\t' || (32 ≤ c.toNat && c.toNat != 127)

/-- Whether a character may stand in a string of several lines. -/
def isPlainOrLineEnd (c : Char) : Bool := c == '\n' || isPlain c

/-- Passes over blanks. -/
def skipBlanks : Reader Unit := skipWhile isBlank

/-- Passes over a comment, if there is one. -/
def skipComment : Reader Unit := do
  if ← charIf '#' then
    let text ← takeWhile (· != '\n')
    require (text.all isPlain)

/-- Passes over blanks, line ends and comments; `limit` bounds the lines. -/
def skipLines : (limit : Nat) → Reader Unit
  | 0 => pure ()
  | limit + 1 => do
    skipWhile fun c => isBlank c || c == '\n'
    if (← peek?) == some '#' then
      skipComment
      skipLines limit

/-! ### Strings -/

/-- Reads a code point of so many hexadecimal digits. -/
def codePoint (count : Nat) : Reader Char := fun s =>
  let digits := s.take count
  let n := numberIn 16 digits
  if h : digits.length = count ∧ digits.all (isDigitIn 16) ∧ n.isValidChar then
    some (Char.ofNatAux n h.2.2, s.drop count)
  else none

/-- The character of an escape of one letter. -/
def letterEscape? : Char → Option Char
  | 'b' => some '\x08'
  | 't' => some '\t'
  | 'n' => some '\n'
  | 'f' => some '\x0c'
  | 'r' => some '\r'
  | '"' => some '"'
  | '\\' => some '\\'
  | _ => none

/-- Reads an escape behind its backslash: a character, or nothing at the end of a line. -/
def escape (lines : Bool) : Reader (List Char) := do
  match ← next with
  | 'u' => return [← codePoint 4]
  | 'U' => return [← codePoint 8]
  | c =>
    if lines && (isBlank c || c == '\n') then
      if c != '\n' then
        skipBlanks
        require ((← atEnd) || (← charIf '\n'))
      skipWhile fun c => isBlank c || c == '\n'
      pure []
    else
      match letterEscape? c with
      | some d => pure [d]
      | none => failure

/-- Reads a string with escapes up to its closing quotes; `done` is what was read, latest
first. -/
def escapedTail (close : List Char) (lines : Bool) :
    (limit : Nat) → (done : List Char) → Reader (List Char)
  | 0, _ => failure
  | limit + 1, done => do
    if ← textIf close then pure done.reverse
    else
      let c ← next
      if c == '\\' then
        let cs ← escape lines
        escapedTail close lines limit (cs.reverse ++ done)
      else
        require (if lines then isPlainOrLineEnd c else isPlain c)
        escapedTail close lines limit (c :: done)

/-- Reads a string without escapes up to its closing quotes. -/
def literalTail (close : List Char) (lines : Bool) :
    (limit : Nat) → (done : List Char) → Reader (List Char)
  | 0, _ => failure
  | limit + 1, done => do
    if ← textIf close then pure done.reverse
    else
      let c ← next
      require (if lines then isPlainOrLineEnd c else isPlain c)
      literalTail close lines limit (c :: done)

/-- More than enough characters for what is left of the text. -/
def remaining : Reader Nat := fun s => some (s.length + 1, s)

/-- Reads a string of one line behind its quote. -/
def lineString (quote : Char) : Reader String := do
  let limit ← remaining
  let cs ← if quote == '"' then escapedTail ['"'] false limit []
    else literalTail ['\''] false limit []
  pure (String.ofList cs)

/-- Reads a string of several lines behind its three quotes.  Up to two quotes may stand
right before the closing ones. -/
def linesString (quote : Char) : Reader String := do
  let _ ← charIf '\n'
  let limit ← remaining
  let close := [quote, quote, quote]
  let cs ← if quote == '"' then escapedTail close true limit []
    else literalTail close true limit []
  let more ← if ← charIf quote then
      if ← charIf quote then pure [quote, quote] else pure [quote]
    else pure []
  pure (String.ofList (cs ++ more))

/-! ### Keys -/

/-- Whether a character may stand in a key without quotes. -/
def isBareKey (c : Char) : Bool :=
  c.isAlphanum || c == '-' || c == '_'

/-- Reads one name of a key. -/
def keyName : Reader String := do
  match ← peek? with
  | some '"' => char '"' *> lineString '"'
  | some '\'' => char '\'' *> lineString '\''
  | _ =>
    let cs ← takeWhile isBareKey
    require (!cs.isEmpty)
    pure (String.ofList cs)

/-- Reads the names of a key behind the first one; `found` are those before, latest first. -/
def moreNames : (limit : Nat) → (found : List String) → Reader (List String)
  | 0, found => pure found.reverse
  | limit + 1, found => do
    skipBlanks
    if ← charIf '.' then
      skipBlanks
      moreNames limit ((← keyName) :: found)
    else pure found.reverse

/-- Reads a key: names with dots between them. -/
def key : Reader (List String) := do
  moreNames (← remaining) [← keyName]

/-! ### Dates -/

/-- Reads a time of the day. -/
def timeOfDay : Reader Unit := do
  let hour ← fixedNumber 2
  char ':'
  let minute ← fixedNumber 2
  char ':'
  let second ← fixedNumber 2
  require (hour < 24 && minute < 60 && second < 60)
  let _ ← attempt do
    char '.'
    let places ← takeWhile Char.isDigit
    require (!places.isEmpty)

/-- Reads the offset of a time. -/
def offset : Reader Unit := do
  match ← next with
  | 'Z' | 'z' => pure ()
  | c =>
    require (c == '+' || c == '-')
    let hour ← fixedNumber 2
    char ':'
    let minute ← fixedNumber 2
    require (hour < 24 && minute < 60)

/-- Reads the digits of a date, and whether they make one. -/
def dateDigits : Reader Bool := do
  let year ← fixedNumber 4
  char '-'
  let month ← fixedNumber 2
  char '-'
  let day ← fixedNumber 2
  require (1 ≤ month && month ≤ 12 && 1 ≤ day && day ≤ 31)
  pure (isDate year month day)

/-- Reads the time of a date, if there is one. -/
def timeOfDate : Reader Unit := do
  let _ ← attempt do
    let c ← next
    require (c == 'T' || c == 't' || c == ' ')
    timeOfDay
    let _ ← attempt offset

/-! ### Numbers -/

/-- Reads digits with single underscores between them; `done` are those before, latest
first. -/
def moreDigits (base : Nat) : (limit : Nat) → (done : List Char) → Reader (List Char)
  | 0, done => pure done.reverse
  | limit + 1, done => do
    let found ← attempt do
      let _ ← charIf '_'
      let c ← next
      require (isDigitIn base c)
      pure c
    match found with
    | some c => moreDigits base limit (c :: done)
    | none => pure done.reverse

/-- Reads one or more digits. -/
def digits (base : Nat) : Reader (List Char) := do
  let c ← next
  require (isDigitIn base c)
  moreDigits base (← remaining) [c]

/-- Reads a whole number to a base other than ten, behind its zero. -/
def basedNumber : Reader Value := do
  let base ← match ← next with
    | 'x' => pure 16
    | 'o' => pure 8
    | 'b' => pure 2
    | _ => failure
  return .whole (numberIn base (← digits base))

/-- Reads a sign, and whether it is a minus. -/
def sign : Reader Bool := do
  if ← charIf '-' then pure true
  else
    let _ ← charIf '+'
    pure false

/-- Reads the whole part of a decimal: a zero, or digits that begin with no zero. -/
def wholePart : Reader (List Char) := do
  if ← charIf '0' then pure ['0'] else digits 10

/-- Reads the exponent of a decimal. -/
def exponent : Reader Int := do
  let e ← next
  require (e == 'e' || e == 'E')
  let negative ← sign
  let n : Int := numberIn 10 (← digits 10)
  pure (if negative then -n else n)

/-- Reads a decimal number. -/
def decimal : Reader Value := do
  let negative ← sign
  let whole ← wholePart
  let places ← attempt (char '.' *> digits 10)
  let power ← attempt exponent
  match places, power with
  | none, none =>
    let n : Int := numberIn 10 whole
    pure (.whole (if negative then -n else n))
  | _, _ =>
    let places := places.getD []
    pure (.fraction (Binary64.ofDecimal negative (numberIn 10 (whole ++ places))
      (power.getD 0 - places.length)))

/-- Reads an infinity or what is no number. -/
def namedNumber : Reader Value := do
  let negative ← sign
  if ← textIf ['i', 'n', 'f'] then pure (.fraction (.infinite negative))
  else if ← textIf ['n', 'a', 'n'] then pure (.fraction .notANumber)
  else failure

/-- Reads a date, a time or a number. -/
def dateOrNumber : Reader Value := do
  match ← attempt dateDigits with
  | some valid =>
    timeOfDate
    require valid
    pure .moment
  | none =>
    match ← attempt timeOfDay with
    | some () => pure .moment
    | none =>
      match ← attempt (char '0' *> basedNumber) with
      | some v => pure v
      | none =>
        match ← attempt decimal with
        | some v => pure v
        | none => namedNumber

end SpokenIndex.Document.Toml
