/-
Reading and writing JSON.

The reader accepts the standard grammar with the three numerals `NaN`, `Infinity` and
`-Infinity` besides.  A number is whole if it is written without a fraction and an
exponent.  In an object a repeated name keeps its first place and its last value.
Control characters must be escaped inside strings; a half of a surrogate pair that
stands alone becomes the replacement character.

The writer uses ASCII alone and puts no blanks.
-/
import SpokenIndex.Document.Value
import SpokenIndex.Number.Shortest
import SpokenIndex.Text.Quoted

namespace SpokenIndex.Document.Json

/-- What a reader answers: a value and the text behind it. -/
abbrev Read (α : Type) := Option (α × List Char)

/-- A text without the blanks in front. -/
def skipBlanks (s : List Char) : List Char :=
  s.dropWhile fun c => c == ' ' || c == '\t' || c == '\n' || c == '\r'

/-! ### Strings -/

/-- The value of a hexadecimal digit. -/
def hexValue (c : Char) : Option Nat :=
  if '0' ≤ c ∧ c ≤ '9' then some (c.toNat - '0'.toNat)
  else if 'a' ≤ c ∧ c ≤ 'f' then some (c.toNat - 'a'.toNat + 10)
  else if 'A' ≤ c ∧ c ≤ 'F' then some (c.toNat - 'A'.toNat + 10)
  else none

/-- The number that hexadecimal digits make. -/
def hexNumber (digits : List Char) : Option Nat :=
  digits.foldlM (fun n c => (hexValue c).map (16 * n + ·)) 0

/-- A code unit of four hexadecimal digits. -/
def codeUnit : List Char → Read Nat
  | a :: b :: c :: d :: rest => (hexNumber [a, b, c, d]).map fun n => (n, rest)
  | _ => none

/-- The character that stands for half a surrogate pair. -/
def loneSurrogate : Char := '\ufffd'

/-- The character of an escape that begins with `\u`, and what follows it. -/
def unicodeEscape (s : List Char) : Read Char :=
  match codeUnit s with
  | none => none
  | some (high, rest) =>
    if 0xD800 ≤ high ∧ high < 0xDC00 then
      match rest with
      | '\\' :: 'u' :: more =>
        match codeUnit more with
        | some (low, after) =>
          if 0xDC00 ≤ low ∧ low < 0xE000 then
            some (Char.ofNat (0x10000 + (high - 0xD800) * 0x400 + (low - 0xDC00)), after)
          else some (loneSurrogate, rest)
        | none => none
      | _ => some (loneSurrogate, rest)
    else if 0xDC00 ≤ high ∧ high < 0xE000 then some (loneSurrogate, rest)
    else some (Char.ofNat high, rest)

/-- The character of a one-letter escape. -/
def plainEscape : Char → Option Char
  | '"' => some '"'
  | '\\' => some '\\'
  | '/' => some '/'
  | 'b' => some '\x08'
  | 'f' => some '\x0c'
  | 'n' => some '\n'
  | 'r' => some '\r'
  | 't' => some '\t'
  | _ => none

/-- The rest of a string after its opening quote; `done` holds what was read, last first. -/
def stringTail : (fuel : Nat) → (done : List Char) → List Char → Read String
  | 0, _, _ => none
  | _ + 1, done, '"' :: rest => some (String.ofList done.reverse, rest)
  | fuel + 1, done, '\\' :: 'u' :: rest =>
    match unicodeEscape rest with
    | some (c, after) => stringTail fuel (c :: done) after
    | none => none
  | fuel + 1, done, '\\' :: c :: rest =>
    match plainEscape c with
    | some d => stringTail fuel (d :: done) rest
    | none => none
  | fuel + 1, done, c :: rest =>
    if c.toNat < 32 ∨ c = '\\' then none else stringTail fuel (c :: done) rest
  | _ + 1, _, [] => none

/-! ### Numbers -/

/-- The number that decimal digits make. -/
def decimalNumber (digits : List Char) : Nat :=
  digits.foldl (fun n c => 10 * n + (c.toNat - '0'.toNat)) 0

/-- The digits of an exponent with its sign, after the letter. -/
def exponentTail (s : List Char) : Read Int :=
  let (negative, digits) :=
    match s with
    | '-' :: rest => (true, rest)
    | '+' :: rest => (false, rest)
    | _ => (false, s)
  match digits.takeWhile Char.isDigit with
  | [] => none
  | ds =>
    let n : Int := decimalNumber ds
    some (if negative then -n else n, digits.dropWhile Char.isDigit)

/-- A number after its sign. -/
def unsignedNumber (negative : Bool) (s : List Char) : Read Value :=
  let whole :=
    match s with
    | '0' :: _ => ['0']
    | _ => s.takeWhile Char.isDigit
  let rest := s.drop whole.length
  if whole.isEmpty then none
  else
    let (fraction, rest) :=
      match rest with
      | '.' :: more =>
        let ds := more.takeWhile Char.isDigit
        if ds.isEmpty then (none, rest) else (some ds, more.drop ds.length)
      | _ => (none, rest)
    let (power, rest) :=
      match rest with
      | e :: more =>
        if e == 'e' || e == 'E' then
          match exponentTail more with
          | some (n, after) => (some n, after)
          | none => (none, rest)
        else (none, rest)
      | [] => (none, rest)
    match fraction, power with
    | none, none =>
      let n : Int := decimalNumber whole
      some (.whole (if negative then -n else n), rest)
    | _, _ =>
      let places := fraction.getD []
      some (.fraction (Binary64.ofDecimal negative (decimalNumber (whole ++ places))
        (power.getD 0 - places.length)), rest)

/-- A number with its sign. -/
def number (s : List Char) : Read Value :=
  match s with
  | '-' :: rest => unsignedNumber true rest
  | _ => unsignedNumber false s

/-! ### Values -/

/-- The words that stand for values. -/
def literals : List (String × Value) :=
  [("null", .null), ("true", .truth true), ("false", .truth false),
    ("NaN", .fraction .notANumber), ("Infinity", .fraction (.infinite false)),
    ("-Infinity", .fraction (.infinite true))]

/-- A word that stands for a value. -/
def literal (s : List Char) : Read Value :=
  literals.findSome? fun (word, value) =>
    if word.toList.isPrefixOf s then some (value, s.drop word.length) else none

/-- The items of a list after the first bracket or a comma, up to the closing bracket. -/
def listTail (item : List Char → Read Value) :
    (fuel : Nat) → (done : List Value) → List Char → Read Value
  | 0, _, _ => none
  | fuel + 1, done, s =>
    match item s with
    | none => none
    | some (value, rest) =>
      match skipBlanks rest with
      | ',' :: more => listTail item fuel (value :: done) more
      | ']' :: more => some (.list (value :: done).reverse, more)
      | _ => none

/-- The entries of an object after the opening brace or a comma, up to the closing brace. -/
def tableTail (item : List Char → Read Value) :
    (fuel : Nat) → (done : List (Key × Value)) → List Char → Read Value
  | 0, _, _ => none
  | fuel + 1, done, s =>
    match skipBlanks s with
    | '"' :: rest =>
      match stringTail (rest.length + 1) [] rest with
      | none => none
      | some (name, rest) =>
        match skipBlanks rest with
        | ':' :: rest =>
          match item rest with
          | none => none
          | some (value, rest) =>
            let done := Value.setKey (.name name) value done
            match skipBlanks rest with
            | ',' :: more => tableTail item fuel done more
            | '\x7d' :: more => some (.table done, more)
            | _ => none
        | _ => none
    | _ => none

/-- A value, with at most `depth` lists and objects inside each other. -/
def value : (depth : Nat) → List Char → Read Value
  | 0, _ => none
  | depth + 1, s =>
    match skipBlanks s with
    | '"' :: rest =>
      (stringTail (rest.length + 1) [] rest).map fun (text, rest) => (.text text, rest)
    | '[' :: rest =>
      match skipBlanks rest with
      | ']' :: more => some (.list [], more)
      | _ => listTail (value depth) (rest.length + 1) [] rest
    | '\x7b' :: rest =>
      match skipBlanks rest with
      | '\x7d' :: more => some (.table [], more)
      | _ => tableTail (value depth) (rest.length + 1) [] rest
    | t =>
      match literal t with
      | some found => some found
      | none => number t

/-- The value of a whole text. -/
def read? (s : String) : Option Value :=
  match value (s.length + 1) s.toList with
  | some (found, rest) => if (skipBlanks rest).isEmpty then some found else none
  | none => none

/-! ### Writing -/

/-- A code unit as an escape. -/
def escapeUnit (n : Nat) : List Char :=
  '\\' :: 'u' :: Text.hexDigits 4 n

/-- A character inside a string. -/
def writeChar (c : Char) : List Char :=
  if c == '"' || c == '\\' then ['\\', c]
  else if c == '\n' then ['\\', 'n']
  else if 32 ≤ c.toNat && c.toNat < 127 then [c]
  else if c.toNat < 0x10000 then escapeUnit c.toNat
  else
    let n := c.toNat - 0x10000
    escapeUnit (0xD800 + n / 0x400) ++ escapeUnit (0xDC00 + n % 0x400)

/-- A string in quotes. -/
def writeText (s : String) : String :=
  String.ofList ('"' :: s.toList.flatMap writeChar ++ ['"'])

/-- A numeral. -/
def writeNumeral : Numeral → String
  | .finite value => value.text
  | .infinite false => "Infinity"
  | .infinite true => "-Infinity"
  | .notANumber => "NaN"

/-- A key as the name of an entry. -/
def writeKey : Key → String
  | .name text => writeText text
  | .nameless => writeText ""

mutual

/-- The text of a value. -/
def write : Value → String
  | .null => "null"
  | .truth true => "true"
  | .truth false => "false"
  | .whole n => toString n
  | .fraction n => writeNumeral n
  | .text s => writeText s
  | .moment => "null"
  | .list items => "[" ++ ",".intercalate (writeItems items) ++ "]"
  | .table entries => "\x7b" ++ ",".intercalate (writeEntries entries) ++ "\x7d"

/-- The texts of the items of a list. -/
def writeItems : List Value → List String
  | [] => []
  | item :: rest => write item :: writeItems rest

/-- The texts of the entries of an object. -/
def writeEntries : List (Key × Value) → List String
  | [] => []
  | (key, value) :: rest => (writeKey key ++ ":" ++ write value) :: writeEntries rest

end

end SpokenIndex.Document.Json
