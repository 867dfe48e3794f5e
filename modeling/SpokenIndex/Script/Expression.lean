/-
Expressions.

An expression is a row of operands with operators between them, and possibly a choice
between two more.  An operand is read from its first token on: operators before it,
then what it is, then members, calls and other things behind it, and last an
assignment if it can be assigned to.
-/
import SpokenIndex.Script.Markup

namespace SpokenIndex.Script

open SpokenIndex.Text.Reader (attempt ahead require manyFrom)

/-- Marks that join operands. -/
def joiningMarks : List String :=
  ["&&", "||", "??", ">>>", ">>", "<<", "&", "^", "|", "+", "-", "*", "/", "%", "**", "<", "<=",
    "==", "===", "!=", "!==", ">=", ">"]

/-- Marks that assign; all but the first need a single target. -/
def assigningMarks : List String :=
  ["=", "+=", "-=", "*=", "/=", "%=", "^=", "&=", "|=", ">>=", ">>>=", "<<=", "**=", "&&=",
    "||=", "??="]

/-- Marks before an operand. -/
def leadingMarks : List String := ["!", "~", "-", "+", "++", "--"]

/-- Words before an operand. -/
def leadingWords : List String := ["typeof", "void", "delete"]

/-- Words that stand for a value and name nothing. -/
def valueWords : List String := ["this", "super", "true", "false", "null"]

/-- Whether an operand can begin with a token. -/
def beginsOperand : Token → Bool
  | .word w =>
    !(["in", "of", "instanceof", "as", "satisfies"].contains w)
      && (!reservedWords.contains w || (leadingWords ++ valueWords ++
        ["class", "function", "new", "import"]).contains w)
  | .numeral | .quoted | .template | .privateName => true
  | .mark m => (leadingMarks ++ ["(", "[", "\x7b", "/", "/=", "<", "@"]).contains m
  | _ => false

/-- Whether types in angle brackets behind an operand can be followed by a token. -/
def canFollowTypes (ended : Bool) : Token → Bool
  | .mark "(" | .template => true
  | .mark "<" | .mark ">" | .mark "+" | .mark "-" => false
  | t => ended || !beginsOperand t

namespace Scope

variable (sc : Scope)

/-! ### Operands that begin with a word -/

/-- Reads the class, without any call. -/
def madeOperand : Parser Tree := do
  match ← peek with
  | .mark "(" => sc.condition
  | .mark "[" => mark "[" *> sc.arrayValue
  | .mark "\x7b" => mark "\x7b" *> sc.objectValue
  | .mark "@" => return .group ((← sc.decorators) ++ [← sc.classExpression])
  | .word "class" => sc.classExpression
  | .word "function" => sc.functionExpression
  | .word "async" =>
    match ← attempt sc.functionExpression with
    | some t => pure t
    | none => word *> pure .blank
  | .word "import" => do
    keyword "import"
    mark "."
    word *> pure .blank
  | .word w => do
    require (!reservedWords.contains w || valueWords.contains w)
    word *> pure (.named w)
  | .quoted | .numeral => token *> pure .blank
  | .template => token *> sc.template .sequence
  | _ => failure

/-- Reads what follows `new`: a question for the target, or a class to make one of. -/
def newOperand : Parser Tree := do
  keyword "new"
  if ← markIf "." then
    keyword "target"
    pure .blank
  else if ← atKeyword "new" then sc.parse .operand
  else
    let made ← sc.madeOperand
    let members ← sc.many do
      if ← markIf "." then
        match ← token with
        | .word _ | .privateName => pure .blank
        | _ => failure
      else if sc.dialect.typed && (← atMark "!") && !(← atLineEnd) then
        mark "!"
        pure .blank
      else
        mark "["
        let t ← sc.parse .sequence
        mark "]"
        pure t
    if sc.dialect.typed then
      let _ ← attempt do
        sc.typeArguments
        let t ← peek
        require (canFollowTypes (← atLineEnd) t)
    let args ← if ← markIf "(" then sc.arguments else pure []
    pure (.group (made :: members ++ args))

/-- Reads what follows `yield`, possibly nothing. -/
def yieldOperand : Parser Tree := do
  keyword "yield"
  if ← markIf "*" then return .group [← sc.value]
  else
    let next ← peek
    if !(← atLineEnd) && beginsOperand next then return .group [← sc.value] else return .blank

/-- Reads an operand that begins with a word, up to what stands behind it. -/
def wordOperand (plain : Bool) (w : String) : Parser Tree := do
  let (ended, next) ← peekSecond
  if next == .mark "=>" && !reservedWords.contains w then
    let p ← shortArrowHead
    sc.arrowBody [p]
  else if valueWords.contains w then word *> pure .blank
  else
    match w with
    | "function" => sc.functionExpression
    | "class" => sc.classExpression
    | "new" => sc.newOperand
    | "import" =>
      require (next == .mark "(" || next == .mark ".")
      word *> pure .blank
    | "async" =>
      if next == .word "function" && !ended then sc.functionExpression
      else
        match ← attempt (sc.asyncArrowHead plain) with
        | some ps => sc.arrowBody ps
        | none => return .named (← name)
    | _ => return .named (← name)

/-! ### Operands that begin with a mark -/

/-- Reads an arrow function, or else expressions in parentheses. -/
def parenthesized (plain : Bool) : Parser Tree := do
  match ← sc.arrowIf plain with
  | some t => pure t
  | none =>
    mark "("
    let t ← sc.parse .sequence
    mark ")"
    pure (.ofKind .reference [t])

/-- Reads what begins with an angle bracket: an arrow function with type parameters, an
element, or a value with its type before it. -/
def angled (plain : Bool) : Parser Tree := do
  let arrow ← if sc.dialect.typed then sc.arrowIf plain else pure none
  match arrow with
  | some t => pure t
  | none =>
    if sc.dialect.markup then sc.parse .element
    else
      require sc.dialect.typed
      sc.typeArguments
      return .group [← sc.parse .operand]

/-- Reads a pattern between slashes. -/
def slashed : Parser Tree := fun s =>
  match skipGap s with
  | '/' :: rest => (skipPattern? false rest).map fun rest => (.blank, rest)
  | _ => none

/-- Reads an operand that begins with a mark, up to what stands behind it. -/
def markOperand (plain : Bool) (m : String) : Parser Tree := do
  match m with
  | "(" => sc.parenthesized plain
  | "[" => mark "[" *> sc.arrayValue
  | "\x7b" => mark "\x7b" *> sc.objectValue
  | "<" | "<<" => sc.angled plain
  | "/" | "/=" => slashed
  | "@" => return .group ((← sc.decorators) ++ [← sc.classExpression])
  | _ => failure

/-! ### What stands behind an operand -/

/-- Reads the name of a member. -/
def memberName : Parser Unit := do
  match ← token with
  | .word _ | .privateName => pure ()
  | _ => failure

/-- Reads what follows an optional access. -/
def optionalAccess (t : Tree) : Parser Tree := do
  mark "?."
  match ← peek with
  | .mark "(" =>
    mark "("
    return .group (t :: (← sc.arguments))
  | .mark "[" =>
    mark "["
    let i ← sc.parse .sequence
    mark "]"
    pure (.ofKind .reference [t, i])
  | .mark "<" =>
    require sc.dialect.typed
    sc.typeArguments
    mark "("
    return .group (t :: (← sc.arguments))
  | .template =>
    let _ ← token
    return .group [t, ← sc.template .sequence]
  | _ =>
    memberName
    pure (.ofKind .reference [t])

/-- Reads one thing that stands behind an operand. -/
def suffix (t : Tree) : Parser Tree := do
  match ← peek with
  | .mark "." =>
    mark "."
    memberName
    pure (.ofKind .reference [t])
  | .mark "?." => sc.optionalAccess t
  | .mark "[" =>
    mark "["
    let i ← sc.parse .sequence
    mark "]"
    pure (.ofKind .reference [t, i])
  | .mark "(" =>
    mark "("
    return .group (t :: (← sc.arguments))
  | .template =>
    let _ ← token
    return .group [t, ← sc.template .sequence]
  | .mark "!" =>
    require (sc.dialect.typed && !(← atLineEnd))
    mark "!"
    pure (.ofKind .reference [t])
  | .mark "<" | .mark "<<" =>
    require sc.dialect.typed
    sc.typeArguments
    let next ← peek
    require (canFollowTypes (← atLineEnd) next)
    pure (.group [t])
  | .mark "++" | .mark "--" =>
    require !(← atLineEnd)
    let _ ← token
    pure (.group [t])
  | _ => failure

/-- Reads all that stands behind an operand. -/
def suffixes : (limit : Nat) → Tree → Parser Tree
  | 0, t => pure t
  | limit + 1, t => fun s =>
    match sc.suffix t s with
    | some (u, rest) => suffixes limit u rest
    | none => some (t, s)

/-- Whether an operand of a kind can be assigned to. -/
def canBeTarget : NodeKind → Bool
  | .identifier | .reference | .collection | .bareTarget => true
  | _ => false

/-- Reads an assignment to an operand, if there is one. -/
def assignmentIf (t : Tree) : Parser Tree := do
  match ← peek with
  | .mark m =>
    if assigningMarks.contains m then
      require (canBeTarget t.kind)
      let _ ← token
      let value ← sc.value
      pure (.group [t, value])
    else pure t
  | _ => pure t

/-- Reads an operand behind the operators before it, without an assignment. -/
def baseOperand (plain : Bool) : Parser Tree := do
  match ← peek with
  | .word w => sc.wordOperand plain w
  | .mark m => sc.markOperand plain m
  | .numeral | .quoted => token *> pure .blank
  | .template => token *> sc.template .sequence
  | .privateName =>
    let _ ← token
    require (← atKeyword "in")
    pure .blank
  | _ => failure

/-- Reads an operand that no operator precedes. -/
def bareOperand (plain : Bool) : Parser Tree := do
  let base ← sc.baseOperand plain
  let t ← sc.suffixes sc.fuel base
  sc.assignmentIf t

/-- Reads an operand. -/
def operand (plain : Bool) : Parser Tree := do
  let leading ← match ← peek with
    | .mark m => pure (leadingMarks.contains m)
    | .word w => pure (leadingWords.contains w)
    | _ => pure false
  if leading then
    let _ ← token
    let t ← sc.parse .operand
    require (t.kind != .bareTarget)
    pure (.group [t])
  else
    let (_, next) ← peekSecond
    match ← peek with
    | .word "yield" => sc.yieldOperand
    | .word "await" =>
      if beginsOperand next then
        let _ ← token
        return .group [← sc.parse .operand]
      else sc.bareOperand plain
    | _ => sc.bareOperand plain
/-! ### Rows of operands -/

/-- Reads an operator between operands and the operand behind it. -/
def joined : Parser Tree := do
  match ← peek with
  | .mark m =>
    require (joiningMarks.contains m)
    let _ ← token
    sc.parse .operand
  | .word "in" | .word "instanceof" =>
    let _ ← token
    sc.parse .operand
  | .word "as" | .word "satisfies" =>
    require sc.dialect.typed
    let _ ← token
    if !(← keywordIf "const") then sc.skipType
    pure .blank
  | _ => failure

/-- Reads the first of two values to choose from, up to the colon.  Where an arrow function
with a result type takes the colon away, it is read again without one. -/
def firstChoice : Parser Tree := do
  let usual ← attempt do
    let t ← sc.value
    mark ":"
    pure t
  match usual with
  | some t => pure t
  | none =>
    require sc.dialect.typed
    let t ← sc.parse .plainExpression
    mark ":"
    pure t

/-- Reads an expression. -/
def expression (plain : Bool) : Parser Tree := do
  let first ← sc.parse (if plain then .plainOperand else .operand)
  let more ← sc.many sc.joined
  let row : Tree := if more.isEmpty then first else .group (first :: more)
  require (more.isEmpty || !(first :: more).any (·.kind == .bareTarget))
  if ← markIf "?" then
    require (row.kind != .bareTarget)
    let yes ← sc.firstChoice
    let no ← sc.value
    pure (.group [row, yes, no])
  else pure row

/-- Reads expressions with commas between them. -/
def sequence : Parser Tree := do
  let first ← sc.value
  let more ← sc.many (mark "," *> sc.value)
  pure (if more.isEmpty then first else .group (first :: more))

end Scope

end SpokenIndex.Script
