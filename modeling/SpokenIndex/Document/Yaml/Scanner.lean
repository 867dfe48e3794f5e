/-
Tokens of YAML documents, version 1.1, and the state in which they are read.

Indentation is made into tokens: a block opens where an entry or a key stands further
to the right than all before it, and closes where something stands further to the
left.  Whether a scalar is a key is known only at the colon behind it, so its place
among the tokens is noted and the token that makes it a key is put in afterwards; the
colon must come on the same line and within 1024 characters.
-/
import SpokenIndex.Number.Digits
import SpokenIndex.Text.Basic

namespace SpokenIndex.Document.Yaml

/-- The tokens of a document. -/
inductive Token where
  | directive (words : List String)
  | documentStart
  | documentEnd
  | blockSequence
  | blockMapping
  | blockEnd
  | flowSequence
  | flowSequenceEnd
  | flowMapping
  | flowMappingEnd
  | key
  | value
  | blockEntry
  | flowEntry
  | alias (name : String)
  | anchor (name : String)
  | tag (handle : String) (suffix : String)
  | scalar (text : String) (plain : Bool)
  deriving DecidableEq, Repr

/-- A token that a colon can make a key. -/
structure PossibleKey where
  level : Nat
  tokensBefore : Nat
  /-- A key must stand here. -/
  required : Bool
  index : Nat
  line : Nat
  column : Int

/-- The state of reading tokens. -/
structure Scanner where
  rest : List Char
  index : Nat
  line : Nat
  column : Int
  /-- How many flow collections are open. -/
  level : Nat
  indent : Int
  outerIndents : List Int
  keyAllowed : Bool
  keys : List PossibleKey
  tokens : List Token

/-- A step of reading tokens. -/
abbrev Scan := StateT Scanner Option

/-- How far a colon may be from the key before it. -/
def keyReach : Nat := 1024

namespace Scanner

/-- The state before a text. -/
def start (s : List Char) : Scanner :=
  ⟨s, 0, 0, 0, 0, -1, [], true, [], []⟩

end Scanner

/-! ### Characters -/

/-- Whether a character ends a line. -/
def isBreak (c : Char) : Bool :=
  c == '\n' || c == '\r' || c == '\u0085' || c == '\u2028' || c == '\u2029'

/-- Whether a blank, a line end or the end of the text comes next. -/
def isGap : Option Char → Bool
  | none => true
  | some c => c == ' ' || c == '\t' || isBreak c

/-- Whether a character may stand in a document. -/
def isAllowed (c : Char) : Bool :=
  let n := c.toNat
  n == 0x09 || n == 0x0A || n == 0x0D || (0x20 ≤ n && n ≤ 0x7E) || n == 0x85
    || (0xA0 ≤ n && n ≤ 0xFFFD) || 0x10000 ≤ n

/-- The next character. -/
def peek : Scan (Option Char) := do
  return (← get).rest.head?

/-- The state behind the next character. -/
def stepOver (s : Scanner) : Scanner :=
  match s.rest with
  | [] => s
  | c :: rest =>
    let s := { s with rest := rest, index := s.index + 1 }
    if (isBreak c && c != '\r') || (c == '\r' && rest.head? != some '\n') then
      { s with line := s.line + 1, column := 0 }
    else if c == '\ufeff' then s
    else { s with column := s.column + 1 }

/-- Reads the next character. -/
def readChar : Scan Char := do
  match ← peek with
  | some c =>
    modify stepOver
    pure c
  | none => failure

/-- Passes over so many characters. -/
def skip : (count : Nat) → Scan Unit
  | 0 => pure ()
  | count + 1 => do
    modify stepOver
    skip count

/-- Reads the characters of a kind up to the first other one. -/
def takeWhile (p : Char → Bool) : Scan (List Char) := do
  let cs := (← get).rest.takeWhile p
  skip cs.length
  pure cs

/-- Reads a line end, as a line feed unless it is a separator of its own. -/
def lineBreak : Scan (Option Char) := do
  match (← get).rest with
  | '\r' :: '\n' :: _ =>
    skip 2
    pure (some '\n')
  | c :: _ =>
    if isBreak c then
      skip 1
      pure (some (if c == '\u2028' || c == '\u2029' then c else '\n'))
    else pure none
  | [] => pure none

/-- Whether three characters that mark the border of a document come next, alone. -/
def atBorder : Scan Bool := do
  let s ← get
  pure ((["---".toList, "...".toList].contains (s.rest.take 3)) && isGap s.rest[3]?)

/-- More than enough steps for what is left of the text. -/
def remaining : Scan Nat := do
  return (← get).rest.length + 1

/-- Fails unless a condition holds. -/
def demand (condition : Bool) : Scan Unit :=
  if condition then pure () else failure

/-! ### Tokens and keys -/

/-- Adds a token. -/
def emit (t : Token) : Scan Unit :=
  modify fun s => { s with tokens := s.tokens ++ [t] }

/-- Puts tokens in behind so many others. -/
def insertAfter (count : Nat) (ts : List Token) : Scan Unit :=
  modify fun s => { s with tokens := s.tokens.take count ++ ts ++ s.tokens.drop count }

/-- Lets a key stand next, or not. -/
def allowKey (allowed : Bool) : Scan Unit :=
  modify fun s => { s with keyAllowed := allowed }

/-- Forgets keys that no colon can follow any more. -/
def forgetStaleKeys : Scan Unit := do
  let s ← get
  let isStale (k : PossibleKey) : Bool := k.line != s.line || keyReach < s.index - k.index
  demand !(s.keys.any fun k => isStale k && k.required)
  set { s with keys := s.keys.filter fun k => !isStale k }

/-- Forgets the possible key of the open collection. -/
def forgetKey : Scan Unit := do
  let s ← get
  demand !(s.keys.any fun k => k.level == s.level && k.required)
  set { s with keys := s.keys.filter fun k => k.level != s.level }

/-- Notes that the next token may be a key. -/
def noteKey : Scan Unit := do
  if (← get).keyAllowed then
    forgetKey
    modify fun s =>
      let k : PossibleKey :=
        ⟨s.level, s.tokens.length, s.level == 0 && s.indent == s.column, s.index, s.line, s.column⟩
      { s with keys := k :: s.keys }

/-! ### Indentation -/

/-- How many of the open blocks stand to the right of a column, and the indents left. -/
def closedBy (column : Int) : Int → List Int → Nat × Int × List Int
  | indent, [] => (0, indent, [])
  | indent, outer :: more =>
    if column < indent then
      let (n, indent, rest) := closedBy column outer more
      (n + 1, indent, rest)
    else (0, indent, outer :: more)

/-- Closes the blocks that stand to the right of a column. -/
def closeBlocks (column : Int) : Scan Unit := do
  let s ← get
  if s.level == 0 then
    let (n, indent, outer) := closedBy column s.indent s.outerIndents
    set { s with
      indent := indent, outerIndents := outer
      tokens := s.tokens ++ List.replicate n Token.blockEnd }

/-- Opens a block at a column if it stands to the right of all open ones. -/
def openBlock (column : Int) : Scan Bool := do
  let s ← get
  if s.indent < column then
    set { s with indent := column, outerIndents := s.indent :: s.outerIndents }
    pure true
  else pure false

/-- Ends all blocks and possible keys, before a border of a document. -/
def closeAll : Scan Unit := do
  closeBlocks (-1)
  forgetKey
  allowKey false

end SpokenIndex.Document.Yaml
