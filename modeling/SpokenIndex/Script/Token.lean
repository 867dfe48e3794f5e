/-
Tokens of scripts.

A token is read from the characters that follow the previous token; the blanks and
comments before it belong to it.  What begins a token is told by its first characters:
a name, a numeral, a quoted text, a template, or the longest mark that fits.  Whether a
slash divides or begins a pattern between slashes is not told here: it is read as a
mark, and who expects an operand reads it again.

A statement that is not closed by a semicolon ends where the text or the block ends,
or at a line end, unless the next line can only go on with what precedes.
-/
import SpokenIndex.Text.Basic

namespace SpokenIndex.Script

/-! ### Characters -/

/-- Whether a character ends a line. -/
def isLineEnd (c : Char) : Bool :=
  c == '\n' || c == '\u2028' || c == '\u2029'

/-- Blanks other than those of the first 128 characters, as ranges of code points. -/
def wideBlanks : List (Nat × Nat) :=
  [(0xA0, 0xA0), (0x1680, 0x1680), (0x2000, 0x200B), (0x2028, 0x2029), (0x202F, 0x202F),
    (0x205F, 0x2060), (0x3000, 0x3000), (0xFEFF, 0xFEFF)]

/-- Whether a character may stand between tokens. -/
def isGap (c : Char) : Bool :=
  let n := c.toNat
  n == 0x20 || (0x09 ≤ n && n ≤ 0x0D)
    || (0x80 ≤ n && wideBlanks.any fun (low, high) => low ≤ n && n ≤ high)

/-- The marks of which no name can have a part. -/
def punctuation : List Char :=
  ":;`\"'@#.,|^&<=>+-*/\\%?!~()[]\x7b\x7d".toList

/-- Whether a name can go on with a character. -/
def isNamePart (c : Char) : Bool :=
  !(c.toNat < 0x20) && !isGap c && !punctuation.contains c

/-- Whether a name can begin with a character. -/
def isNameStart (c : Char) : Bool :=
  isNamePart c && !c.isDigit

/-- Whether a character is a digit to base sixteen. -/
def isHexDigit (c : Char) : Bool :=
  c.isDigit || ('a' ≤ c && c ≤ 'f') || ('A' ≤ c && c ≤ 'F')

/-! ### Gaps -/

/-- Where a scan of a gap is: between comments, in a comment up to the line end, or in a
comment that began at the given text. -/
inductive GapPlace where
  | between
  | inLine
  | inBlock (start : List Char)

/-- What follows blanks and comments, and whether a line end is among the blanks.  A comment
that is never closed is no comment. -/
def skipGapFrom : GapPlace → Bool → List Char → Bool × List Char
  | .between, ended, '/' :: '/' :: rest => skipGapFrom .inLine ended rest
  | .between, ended, '/' :: '*' :: rest => skipGapFrom (.inBlock ('/' :: '*' :: rest)) ended rest
  | .between, ended, c :: rest =>
    if isGap c then skipGapFrom .between (ended || isLineEnd c) rest else (ended, c :: rest)
  | .inLine, ended, c :: rest =>
    if isLineEnd c then skipGapFrom .between true rest
    else if c == '\r' then skipGapFrom .between ended rest
    else skipGapFrom .inLine ended rest
  | .inBlock _, ended, '*' :: '/' :: rest => skipGapFrom .between ended rest
  | .inBlock start, ended, _ :: rest => skipGapFrom (.inBlock start) ended rest
  | .inBlock start, ended, [] => (ended, start)
  | _, ended, [] => (ended, [])

/-- What follows blanks and comments. -/
def skipGap (s : List Char) : List Char :=
  (skipGapFrom .between false s).2

/-- Whether a line ends before the next token. -/
def lineEnds (s : List Char) : Bool :=
  (skipGapFrom .between false s).1

/-! ### Numerals -/

/-- What follows digits, single underscores between them. -/
def skipDigits (isDigit : Char → Bool) : List Char → List Char
  | '_' :: c :: rest => if isDigit c then skipDigits isDigit rest else '_' :: c :: rest
  | c :: rest => if isDigit c then skipDigits isDigit rest else c :: rest
  | [] => []

/-- What follows the exponent of a numeral, if there is one. -/
def skipExponent (s : List Char) : List Char :=
  match s with
  | e :: '+' :: c :: rest =>
    if (e == 'e' || e == 'E') && c.isDigit then skipDigits Char.isDigit rest else s
  | e :: '-' :: c :: rest =>
    if (e == 'e' || e == 'E') && c.isDigit then skipDigits Char.isDigit rest else s
  | e :: c :: rest =>
    if (e == 'e' || e == 'E') && c.isDigit then skipDigits Char.isDigit rest else s
  | _ => s

/-- What follows the mark of a big integer, if there is one. -/
def skipBigMark : List Char → List Char
  | 'n' :: rest => rest
  | s => s

/-- The digits of a numeral whose base is told by a letter. -/
def basedDigit? (letter : Char) : Option (Char → Bool) :=
  match letter.toLower with
  | 'x' => some isHexDigit
  | 'o' => some fun c => '0' ≤ c && c ≤ '7'
  | 'b' => some fun c => c == '0' || c == '1'
  | _ => none

/-- What follows the part of a decimal numeral behind its whole digits. -/
def skipFraction : List Char → List Char
  | '.' :: c :: rest =>
    if c.isDigit then skipExponent (skipDigits Char.isDigit rest) else skipExponent (c :: rest)
  | ['.'] => []
  | 'n' :: rest => rest
  | s => skipExponent s

/-- What follows a numeral. -/
def skipNumeral? (s : List Char) : Option (List Char) :=
  match s with
  | '0' :: letter :: c :: rest =>
    match basedDigit? letter with
    | some isDigit =>
      if isDigit c then some (skipBigMark (skipDigits isDigit rest))
      else some (letter :: c :: rest)
    | none => some (skipFraction (skipDigits Char.isDigit (letter :: c :: rest)))
  | '.' :: c :: rest =>
    if c.isDigit then some (skipExponent (skipDigits Char.isDigit rest)) else none
  | c :: rest => if c.isDigit then some (skipFraction (skipDigits Char.isDigit rest)) else none
  | [] => none

/-! ### Quoted texts -/

/-- What follows a code point in braces. -/
def skipBracedCode? : List Char → Option (List Char)
  | c :: rest =>
    if isHexDigit c then
      match rest.dropWhile isHexDigit with
      | '\x7d' :: rest => some rest
      | _ => none
    else none
  | [] => none

/-- Whether an escape stands behind a backslash. -/
def isEscape : List Char → Bool
  | 'x' :: a :: b :: _ => isHexDigit a && isHexDigit b
  | 'x' :: _ => false
  | 'u' :: '\x7b' :: rest => (skipBracedCode? rest).isSome
  | 'u' :: a :: b :: c :: d :: _ => [a, b, c, d].all isHexDigit
  | 'u' :: _ => false
  | rest => !rest.isEmpty

/-- What follows a quoted text whose opening quote was read.  It ends on its own line. -/
def skipQuoted? (quote : Char) : List Char → Option (List Char)
  | [] => none
  | '\\' :: '\r' :: '\n' :: rest => skipQuoted? quote rest
  | '\\' :: c :: rest => if isEscape (c :: rest) then skipQuoted? quote rest else none
  | c :: rest =>
    if c == quote then some rest
    else if c == '\n' || c == '\r' || c == '\\' then none
    else skipQuoted? quote rest

/-- Between slashes: what follows a pattern whose opening slash was read, and its flags. -/
def skipPattern? : (inClass : Bool) → List Char → Option (List Char)
  | _, [] => none
  | inClass, '\\' :: c :: rest => if c == '\n' then none else skipPattern? inClass rest
  | inClass, c :: rest =>
    if c == '\n' then none
    else if inClass then skipPattern? (c != ']') rest
    else if c == '/' then some (rest.dropWhile fun c => 'a' ≤ c && c ≤ 'z')
    else skipPattern? (c == '[') rest

/-! ### Names -/

/-- A name at the front: its characters and what follows.  A code point may be written as an
escape. -/
def nameAhead (start : Bool) : (limit : Nat) → (done : List Char) → List Char →
    List Char × List Char
  | 0, done, s => (done.reverse, s)
  | limit + 1, done, s =>
    match s with
    | '\\' :: 'u' :: '\x7b' :: rest =>
      match skipBracedCode? rest with
      | some after =>
        let digits := rest.takeWhile isHexDigit
        nameAhead false limit
          ('\x7d' :: digits.reverse ++ ['\x7b', 'u', '\\'] ++ done) after
      | none => (done.reverse, s)
    | '\\' :: 'u' :: a :: b :: c :: d :: rest =>
      if [a, b, c, d].all isHexDigit then
        nameAhead false limit (d :: c :: b :: a :: 'u' :: '\\' :: done) rest
      else (done.reverse, s)
    | c :: rest =>
      if (if start then isNameStart c else isNamePart c) then
        nameAhead false limit (c :: done) rest
      else (done.reverse, s)
    | [] => (done.reverse, [])

/-- More than enough for any name. -/
def nameLimit : Nat := 65536

/-! ### Tokens -/

/-- What a token is. -/
inductive Token where
  | word (text : String)
  | privateName
  | numeral
  | quoted
  /-- The quote that begins a template. -/
  | template
  | mark (text : String)
  | ending
  | stray
  deriving DecidableEq, Repr

/-- The marks, longer ones before those they begin with. -/
def marks : List (List Char) :=
  [">>>=", "...", "===", "!==", "**=", "<<=", ">>=", ">>>", "&&=", "||=", "??=",
    "=>", "==", "!=", "<=", ">=", "&&", "||", "??", "?.", "++", "--", "+=", "-=", "*=", "/=",
    "%=", "&=", "|=", "^=", "**", "<<", ">>", "\x7b", "\x7d", "(", ")", "[", "]", ";", ",", "<",
    ">", "+", "-", "*", "/", "%", "&", "|", "^", "!", "~", "?", ":", "=", ".", "@"].map
    String.toList

/-- The longest mark at the front and what follows it.  A question mark before a decimal is
no optional access. -/
def markAhead? (s : List Char) : Option (List Char × List Char) :=
  match s with
  | '?' :: '.' :: c :: rest =>
    if c.isDigit then some (['?'], '.' :: c :: rest) else some (['?', '.'], c :: rest)
  | _ => (marks.find? (·.isPrefixOf s)).map fun m => (m, s.drop m.length)

/-- The token at the front of a text without a gap, and what follows it. -/
def tokenAt (s : List Char) : Token × List Char :=
  match s with
  | [] => (.ending, [])
  | '`' :: rest => (.template, rest)
  | c :: rest =>
    if c == '"' || c == '\'' then
      match skipQuoted? c rest with
      | some rest => (.quoted, rest)
      | none => (.stray, rest)
    else if c == '#' then
      match nameAhead true nameLimit [] rest with
      | ([], _) => (.stray, rest)
      | (_, rest) => (.privateName, rest)
    else
      match skipNumeral? s with
      | some rest => (.numeral, rest)
      | none =>
        match nameAhead true nameLimit [] s with
        | (first :: more, rest) => (.word (String.ofList (first :: more)), rest)
        | ([], _) =>
          match markAhead? s with
          | some (m, rest) => (.mark (String.ofList m), rest)
          | none => (.stray, rest)

/-- The next token and what follows it. -/
def nextToken (s : List Char) : Token × List Char :=
  tokenAt (skipGap s)

/-! ### Ends of statements -/

/-- Whether a text begins with a word as a whole. -/
def beginsWithWord (word : String) (s : List Char) : Bool :=
  word.toList.isPrefixOf s
    && !((s.drop word.length).head?.any fun c => c.isAlpha)

/-- Whether a line can only go on with the line before.  `open_` tells whether a round or
square bracket goes on with it. -/
def continues (open_ : Bool) (s : List Char) : Bool :=
  match s with
  | '.' :: c :: _ => !c.isDigit
  | '+' :: c :: _ => c != '+'
  | '-' :: c :: _ => c != '-'
  | '!' :: c :: _ => c == '='
  | '(' :: _ => open_
  | '[' :: _ => open_
  | 'i' :: _ => beginsWithWord "in" s || beginsWithWord "instanceof" s
  | c :: _ => ",:;*%><=?^|&/`.+-".toList.contains c
  | [] => false

/-- Whether a statement can end before the next token. -/
def canEnd (open_ : Bool) (s : List Char) : Bool :=
  match skipGapFrom .between false s with
  | (_, []) => true
  | (_, '\x7d' :: _) => true
  | (ended, rest) => ended && !continues open_ rest

end SpokenIndex.Script
