/-
The common ground of the grammar.

A parser reads from the front of a text and gives a tree and what is left, or nothing.
The grammar is recursive through seven goals.  Each construct is a parser that is given
the parsers of all goals, and a program is read by tying the knot with fuel that goes
down by one from a goal to the goals within it; `Scope` carries what a construct is
given.  Loops over parts of a construct use the fuel of their scope as their limit.

The grammar is lenient where only meaning is at stake: names may be declared twice, any
member can be assigned to, and operators are not grouped by rank, since no declaration
depends on it.
-/
import SpokenIndex.Script.Token
import SpokenIndex.Script.Tree
import SpokenIndex.Text.Reader

namespace SpokenIndex.Script

open SpokenIndex.Text.Reader (attempt ahead require manyFrom)

/-- What a dialect has beyond plain scripts. -/
structure Dialect where
  /-- Type annotations. -/
  typed : Bool
  /-- Markup elements as operands. -/
  markup : Bool
  deriving DecidableEq, Repr

/-- A parser of scripts. -/
abbrev Parser := Text.Reader

/-- The goals through which the grammar is recursive. -/
inductive Goal where
  | statement
  /-- Expressions with commas between them. -/
  | sequence
  | expression
  /-- An expression that begins with no arrow function with a result type. -/
  | plainExpression
  | operand
  | plainOperand
  | pattern
  | typeNotation
  | element
  deriving DecidableEq, Repr

/-- What a construct is parsed in. -/
structure Scope where
  dialect : Dialect
  fuel : Nat
  parse : Goal → Parser Tree

/-! ### Combinators -/

/-- All that a parser gives until it fails. -/
def Scope.many {α : Type} (sc : Scope) (p : Parser α) : Parser (List α) :=
  manyFrom p sc.fuel []

/-! ### Tokens -/

/-- The next token, which is not read. -/
def peek : Parser Token := fun s => some ((nextToken s).1, s)

/-- The next token. -/
def token : Parser Token := fun s => some (nextToken s)

/-- The token behind the next one, and whether a line ends before it. -/
def peekSecond : Parser (Bool × Token) := fun s =>
  let rest := (nextToken s).2
  some ((lineEnds rest, (nextToken rest).1), s)

/-- Reads a mark. -/
def mark (m : String) : Parser Unit := do
  require ((← token) == .mark m)

/-- Reads a mark if it comes next. -/
def markIf (m : String) : Parser Bool := fun s =>
  let (t, rest) := nextToken s
  if t = .mark m then some (true, rest) else some (false, s)

/-- Whether a mark comes next. -/
def atMark (m : String) : Parser Bool := do
  return (← peek) == .mark m

/-- Reads one character behind a gap, whatever mark it begins. -/
def sign (c : Char) : Parser Unit := fun s =>
  match skipGap s with
  | d :: rest => if c = d then some ((), rest) else none
  | [] => none

/-- Reads a given word. -/
def keyword (w : String) : Parser Unit := do
  require ((← token) == .word w)

/-- Reads a given word if it comes next. -/
def keywordIf (w : String) : Parser Bool := fun s =>
  let (t, rest) := nextToken s
  if t = .word w then some (true, rest) else some (false, s)

/-- Whether a given word comes next. -/
def atKeyword (w : String) : Parser Bool := do
  return (← peek) == .word w

/-- Reads any word. -/
def word : Parser String := do
  match ← token with
  | .word w => pure w
  | _ => failure

/-- Words that name nothing. -/
def reservedWords : List String :=
  ["break", "case", "catch", "class", "const", "continue", "debugger", "default", "delete",
    "do", "else", "export", "extends", "false", "finally", "for", "function", "if", "import",
    "in", "instanceof", "new", "null", "return", "super", "switch", "this", "throw", "true",
    "try", "typeof", "var", "void", "while", "with"]

/-- Reads a word that can be a name. -/
def name : Parser String := do
  let w ← word
  require (!reservedWords.contains w)
  pure w

/-- Reads a quoted text. -/
def quotedText : Parser Unit := do
  require ((← token) == .quoted)

/-- Whether a line ends before the next token. -/
def atLineEnd : Parser Bool := fun s => some (lineEnds s, s)

/-- Reads the end of a statement: a semicolon, or nothing where a statement can end.
`open_` tells whether a bracket on the next line would go on with the statement. -/
def semicolon (open_ : Bool) : Parser Unit := fun s =>
  match nextToken s with
  | (.mark ";", rest) => some ((), rest)
  | _ => if canEnd open_ s then some ((), s) else none

/-! ### Lists in brackets -/

/-- The items up to a closing mark, with commas between them; `found` are those before,
latest first.  With `gaps`, items may be missing. -/
def itemsFrom (close : String) (gaps : Bool) (item : Parser Tree) :
    (limit : Nat) → (found : List Tree) → Parser (List Tree)
  | 0, _, _ => none
  | limit + 1, found, s =>
    let (t, rest) := nextToken s
    if t = .mark close then some (found.reverse, rest)
    else if gaps ∧ t = .mark "," then itemsFrom close gaps item limit found rest
    else
      match item s with
      | none => none
      | some (x, rest) =>
        match nextToken rest with
        | (.mark m, rest) =>
          if m = close then some ((x :: found).reverse, rest)
          else if m = "," then itemsFrom close gaps item limit (x :: found) rest
          else none
        | _ => none

/-- Reads items with commas between them and the mark that closes them. -/
def Scope.items (sc : Scope) (close : String) (gaps : Bool) (item : Parser Tree) :
    Parser (List Tree) :=
  itemsFrom close gaps item sc.fuel []

/-! ### Values -/

/-- Reads an expression that makes sense as a value. -/
def Scope.value (sc : Scope) : Parser Tree := do
  let t ← sc.parse .expression
  require (t.kind != .bareTarget)
  pure t

/-- Reads expressions in parentheses. -/
def Scope.condition (sc : Scope) : Parser Tree := do
  mark "("
  let t ← sc.parse .sequence
  mark ")"
  pure t

/-- Reads what gives a name its value, if there is any. -/
def Scope.initializer (sc : Scope) : Parser (Option Tree) := do
  if ← markIf "=" then return some (← sc.value) else return none

/-- Reads the statements of a block. -/
def Scope.block (sc : Scope) : Parser Tree := do
  mark "\x7b"
  let statements ← sc.many (sc.parse .statement)
  mark "\x7d"
  pure (.group statements)

/-! ### Templates -/

/-- Where the fixed text of a template ends: at its closing quote, or at an expression. -/
inductive TemplateStop where
  | closed
  | expression

/-- Skips fixed text of a template. -/
def templateText : List Char → Option (TemplateStop × List Char)
  | [] => none
  | '`' :: rest => some (.closed, rest)
  | '$' :: '\x7b' :: rest => some (.expression, rest)
  | '\\' :: c :: rest => if isEscape (c :: rest) then templateText rest else none
  | '\\' :: [] => none
  | _ :: rest => templateText rest

/-- Reads a template whose opening quote was read, with `part` in each pair of braces. -/
def templateParts (part : Parser Tree) : (limit : Nat) → (found : List Tree) → Parser Tree
  | 0, _, _ => none
  | limit + 1, found, s =>
    match templateText s with
    | none => none
    | some (.closed, rest) => some (.group found.reverse, rest)
    | some (.expression, rest) =>
      match part rest with
      | none => none
      | some (t, rest) =>
        match sign '\x7d' rest with
        | none => none
        | some (_, rest) => templateParts part limit (t :: found) rest

/-- Reads a template whose opening quote was read. -/
def Scope.template (sc : Scope) (part : Goal) : Parser Tree :=
  templateParts (sc.parse part) sc.fuel []

end SpokenIndex.Script
