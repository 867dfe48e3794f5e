/-
Scalars of YAML documents.

A line end inside a plain or quoted scalar is folded: one becomes a blank, of several
one is dropped.  A block scalar keeps its lines or folds them, and keeps, drops or
clips the line ends behind it, as its header says.
-/
import SpokenIndex.Document.Yaml.Scanner

namespace SpokenIndex.Document.Yaml

/-! ### Plain scalars -/

/-- Whether a plain scalar ends before a character. -/
def endsPlain (inFlow : Bool) (c : Char) (after : Option Char) : Bool :=
  isGap (some c)
    || (c == ':' && (isGap after || (inFlow && after.any fun d => ",[]\x7b\x7d".toList.contains d)))
    || (inFlow && ",?[]\x7b\x7d".toList.contains c)

/-- The characters up to where a plain scalar breaks. -/
def plainPiece (inFlow : Bool) : List Char → List Char
  | [] => []
  | c :: rest => if endsPlain inFlow c rest.head? then [] else c :: plainPiece inFlow rest

/-- Reads blanks and line ends, as they stand between lines of a plain scalar; nothing if a
border of the document comes. -/
def plainBreaks : (limit : Nat) → (breaks : List Char) → Scan (Option (List Char))
  | 0, breaks => pure (some breaks)
  | limit + 1, breaks => do
    match ← peek with
    | some ' ' =>
      skip 1
      plainBreaks limit breaks
    | _ =>
      match ← lineBreak with
      | none => pure (some breaks)
      | some b => if ← atBorder then pure none else plainBreaks limit (breaks ++ [b])

/-- What line ends in a scalar become. -/
def folded (first : Char) (more : List Char) : List Char :=
  if first != '\n' then first :: more else if more.isEmpty then [' '] else more

/-- Reads what stands between two pieces of a plain scalar. -/
def plainSpaces : Scan (List Char) := do
  let blanks ← takeWhile (· == ' ')
  match ← lineBreak with
  | none => pure blanks
  | some b =>
    allowKey true
    if ← atBorder then pure []
    else
      match ← plainBreaks (← remaining) [] with
      | none => pure []
      | some more => pure (folded b more)

/-- Reads the pieces of a plain scalar; `done` is what was read. -/
def plainPieces (indent : Int) : (limit : Nat) → (done spaces : List Char) → Scan (List Char)
  | 0, done, _ => pure done
  | limit + 1, done, spaces => do
    let s ← get
    let piece := if s.rest.head? == some '#' then [] else plainPiece (s.level != 0) s.rest
    if piece.isEmpty then pure done
    else
      allowKey false
      skip piece.length
      let done := done ++ spaces ++ piece
      let spaces ← plainSpaces
      let s ← get
      if spaces.isEmpty || s.rest.head? == some '#' || (s.level == 0 && s.column < indent) then
        pure done
      else plainPieces indent limit done spaces

/-- Reads a plain scalar. -/
def plainScalar : Scan Token := do
  let s ← get
  let cs ← plainPieces (s.indent + 1) (← remaining) [] []
  pure (.scalar (String.ofList cs) true)

/-! ### Quoted scalars -/

/-- The character of an escape of one letter. -/
def letterEscape? : Char → Option Char
  | '0' => some '\x00'
  | 'a' => some '\x07'
  | 'b' => some '\x08'
  | 't' => some '\t'
  | '\t' => some '\t'
  | 'n' => some '\n'
  | 'v' => some '\x0b'
  | 'f' => some '\x0c'
  | 'r' => some '\r'
  | 'e' => some '\x1b'
  | ' ' => some ' '
  | '"' => some '"'
  | '\\' => some '\\'
  | '/' => some '/'
  | 'N' => some '\u0085'
  | '_' => some '\u00a0'
  | 'L' => some '\u2028'
  | 'P' => some '\u2029'
  | _ => none

/-- How many digits the code point of an escape has. -/
def codeWidth? : Char → Option Nat
  | 'x' => some 2
  | 'u' => some 4
  | 'U' => some 8
  | _ => none

/-- Reads line ends and the blanks around them in a quoted scalar. -/
def quotedBreaks : (limit : Nat) → (breaks : List Char) → Scan (List Char)
  | 0, breaks => pure breaks
  | limit + 1, breaks => do
    demand !(← atBorder)
    let _ ← takeWhile fun c => c == ' ' || c == '\t'
    match ← lineBreak with
    | none => pure breaks
    | some b => quotedBreaks limit (breaks ++ [b])

/-- Reads blanks and line ends in a quoted scalar. -/
def quotedSpaces : Scan (List Char) := do
  let blanks ← takeWhile fun c => c == ' ' || c == '\t'
  demand (← peek).isSome
  match ← lineBreak with
  | none => pure blanks
  | some b => return folded b (← quotedBreaks (← remaining) [])

/-- Reads an escape behind its backslash. -/
def escape : Scan (List Char) := do
  match ← peek with
  | none => failure
  | some c =>
    if isBreak c then
      let _ ← lineBreak
      quotedBreaks (← remaining) []
    else
      skip 1
      match letterEscape? c, codeWidth? c with
      | some d, _ => pure [d]
      | none, some width =>
        let digits := (← get).rest.take width
        let n := numberIn 16 digits
        demand (digits.length == width && digits.all (isDigitIn 16))
        skip width
        if h : n.isValidChar then pure [Char.ofNatAux n h] else failure
      | none, none => failure

/-- Reads a quoted scalar behind its quote; `done` is what was read, latest first. -/
def quotedTail (double : Bool) : (limit : Nat) → (done : List Char) → Scan (List Char)
  | 0, _ => failure
  | limit + 1, done => do
    match ← peek with
    | none => failure
    | some c =>
      if isGap (some c) then
        let cs ← quotedSpaces
        quotedTail double limit (cs.reverse ++ done)
      else
        skip 1
        if !double && c == '\'' then
          if (← peek) == some '\'' then
            skip 1
            quotedTail double limit ('\'' :: done)
          else pure done.reverse
        else if double && c == '"' then pure done.reverse
        else if double && c == '\\' then
          let cs ← escape
          quotedTail double limit (cs.reverse ++ done)
        else quotedTail double limit (c :: done)

/-- Reads a quoted scalar. -/
def quotedScalar (double : Bool) : Scan Token := do
  skip 1
  let cs ← quotedTail double (← remaining) []
  pure (.scalar (String.ofList cs) false)

/-! ### Block scalars -/

/-- What becomes of the line ends behind a block scalar. -/
inductive Chomping where
  | clip
  | strip
  | keep
  deriving DecidableEq, Repr

/-- Reads how a block scalar is chomped, if that is said. -/
def chomping : Scan (Option Chomping) := do
  match ← peek with
  | some '+' =>
    skip 1
    pure (some .keep)
  | some '-' =>
    skip 1
    pure (some .strip)
  | _ => pure none

/-- Reads by how much a block scalar is indented, if that is said. -/
def indentation : Scan (Option Nat) := do
  match ← peek with
  | some c =>
    if c.isDigit then
      demand (c != '0')
      skip 1
      pure (some (digitValue c))
    else pure none
  | none => pure none

/-- Reads the header of a block scalar. -/
def blockHeader : Scan (Chomping × Option Nat) := do
  match ← chomping with
  | some c => return (c, ← indentation)
  | none =>
    let n ← indentation
    return ((← chomping).getD .clip, n)

/-- Passes over blanks and a comment to the end of a line. -/
def restOfLine : Scan Unit := do
  let _ ← takeWhile (· == ' ')
  if (← peek) == some '#' then
    let _ ← takeWhile (! isBreak ·)
  demand ((← peek).isNone || (← lineBreak).isSome)

/-- Reads empty lines before a block scalar and finds how far it is indented. -/
def findIndent : (limit : Nat) → (breaks : List Char) → (deepest : Int) → Scan (List Char × Int)
  | 0, breaks, deepest => pure (breaks, deepest)
  | limit + 1, breaks, deepest => do
    match ← peek with
    | some ' ' =>
      skip 1
      findIndent limit breaks (max deepest (← get).column)
    | _ =>
      match ← lineBreak with
      | some b => findIndent limit (breaks ++ [b]) deepest
      | none => pure (breaks, deepest)

/-- Passes over blanks up to a column. -/
def skipIndent (indent : Int) : (limit : Nat) → Scan Unit
  | 0 => pure ()
  | limit + 1 => do
    if (← get).column < indent && (← peek) == some ' ' then
      skip 1
      skipIndent indent limit

/-- Reads empty lines in a block scalar. -/
def blockBreaks (indent : Int) : (limit : Nat) → (breaks : List Char) → Scan (List Char)
  | 0, breaks => pure breaks
  | limit + 1, breaks => do
    skipIndent indent (← remaining)
    match ← lineBreak with
    | some b => blockBreaks indent limit (breaks ++ [b])
    | none => pure breaks

/-- Whether the next character is a blank. -/
def atBlank : Scan Bool := do
  return (← peek).any fun c => c == ' ' || c == '\t'

/-- Reads the lines of a block scalar: what they make, the last line end, and the empty lines
behind it. -/
def blockLines (foldedStyle : Bool) (indent : Int) :
    (limit : Nat) → (done ending breaks : List Char) → Scan (List Char × List Char × List Char)
  | 0, done, ending, breaks => pure (done, ending, breaks)
  | limit + 1, done, ending, breaks => do
    if (← get).column != indent || (← peek).isNone then pure (done, ending, breaks)
    else
      let done := done ++ breaks
      let beginsFilled := !(← atBlank)
      let line ← takeWhile (! isBreak ·)
      let done := done ++ line
      let ending := (← lineBreak).toList
      let breaks ← blockBreaks indent (← remaining) []
      if (← get).column == indent && (← peek).isSome then
        let nextFilled := !(← atBlank)
        let joint :=
          if foldedStyle && ending == ['\n'] && beginsFilled && nextFilled then
            if breaks.isEmpty then [' '] else []
          else ending
        blockLines foldedStyle indent limit (done ++ joint) ending breaks
      else pure (done, ending, breaks)

/-- Reads a block scalar. -/
def blockScalar (foldedStyle : Bool) : Scan Token := do
  skip 1
  let (chomp, increment) ← blockHeader
  demand ((← peek) != some '\t' && isGap (← peek))
  restOfLine
  let least := max 1 ((← get).indent + 1)
  let (breaks, indent) ← match increment with
    | none =>
      let (breaks, deepest) ← findIndent (← remaining) [] 0
      pure (breaks, max least deepest)
    | some n =>
      let indent := least + n - 1
      pure (← blockBreaks indent (← remaining) [], indent)
  let (done, ending, after) ← blockLines foldedStyle indent (← remaining) [] [] breaks
  let text :=
    match chomp with
    | .strip => done
    | .clip => done ++ ending
    | .keep => done ++ ending ++ after
  pure (.scalar (String.ofList text) false)

end SpokenIndex.Document.Yaml
