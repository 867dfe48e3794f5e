/-
Statements.

What a statement is is told by its first words.  Words that begin a statement in typed
scripts only do so where the next words bear it out; else they are names.
-/
import SpokenIndex.Script.Module

namespace SpokenIndex.Script

open SpokenIndex.Text.Reader (attempt ahead require manyFrom)

namespace Scope

variable (sc : Scope)

/-! ### Variables -/

/-- Reads variables behind the word that declares them. -/
def declaredVariables : Parser Tree := do
  let t ← sc.moreDeclarators (← sc.declarator)
  semicolon true
  pure t

/-- Reads a declaration of variables. -/
def variableStatement : Parser Tree := do
  let _ ← word
  sc.declaredVariables

/-- Whether variables are declared behind `let`. -/
def declaresBehindLet : Token → Bool
  | .word w => !(["in", "instanceof"].contains w)
  | .mark m => m == "[" || m == "\x7b"
  | _ => false

/-! ### Branches and loops -/

/-- Reads a choice between statements. -/
def ifStatement : Parser Tree := do
  keyword "if"
  let c ← sc.condition
  let yes ← sc.parse .statement
  if ← keywordIf "else" then return .group [c, yes, ← sc.parse .statement]
  else return .group [c, yes]

/-- Reads a loop that is asked before each round. -/
def whileStatement : Parser Tree := do
  keyword "while"
  let c ← sc.condition
  return .group [c, ← sc.parse .statement]

/-- Reads a loop that is asked after each round. -/
def doStatement : Parser Tree := do
  keyword "do"
  let body ← sc.parse .statement
  keyword "while"
  let c ← sc.condition
  let _ ← attempt (semicolon true)
  pure (.group [body, c])

/-- Passes over what stands between a target and what a loop goes through. -/
def loopJoint : Parser Unit :=
  keyword "of" <|> keyword "in"

/-- Reads the rest of a loop through values, behind its target. -/
def loopThrough (target : Tree) : Parser Tree := do
  loopJoint
  let values ← sc.parse .sequence
  mark ")"
  pure (.group [target, values])

/-- Reads the question and the step of a counting loop. -/
def countingRest (first : Tree) : Parser Tree := do
  let question ← if ← atMark ";" then pure .blank else sc.parse .sequence
  mark ";"
  let step ← if ← atMark ")" then pure .blank else sc.parse .sequence
  mark ")"
  pure (.group [first, question, step])

/-- Reads the head of a loop that declares variables. -/
def declaringHead : Parser Tree := do
  let _ ← word
  let target ← sc.variableTarget
  match ← attempt loopJoint with
  | some () =>
    let values ← sc.parse .sequence
    mark ")"
    pure (.group [target, values])
  | none =>
    let t ← sc.moreDeclarators (← sc.declaratorFrom target)
    mark ";"
    sc.countingRest t

/-- Reads the head of a loop whose target is declared elsewhere. -/
def targetHead : Parser Tree := do
  let target ← sc.parse .operand
  require (canBeTarget target.kind)
  sc.loopThrough target

/-- Reads the head of a loop that begins with no declaration. -/
def plainHead : Parser Tree := do
  if ← markIf ";" then sc.countingRest .blank
  else
    match ← attempt sc.targetHead with
    | some t => pure t
    | none =>
      let first ← sc.parse .sequence
      mark ";"
      sc.countingRest first

/-- Reads a loop with a head. -/
def forStatement : Parser Tree := do
  keyword "for"
  let _ ← keywordIf "await"
  mark "("
  let (_, next) ← peekSecond
  let declares ← match ← peek with
    | .word "var" | .word "const" => pure true
    | .word "let" => pure (declaresBehindLet next)
    | _ => pure false
  let head ← if declares then sc.declaringHead else sc.plainHead
  return .group [head, ← sc.parse .statement]

/-- Reads a case of a switch. -/
def switchCase : Parser Tree := do
  let question ← if ← keywordIf "default" then pure .blank
    else keyword "case" *> sc.parse .sequence
  mark ":"
  let statements ← sc.many (sc.parse .statement)
  pure (.group (question :: statements))

/-- Reads a choice among cases. -/
def switchStatement : Parser Tree := do
  keyword "switch"
  let c ← sc.condition
  mark "\x7b"
  let cases ← sc.many sc.switchCase
  mark "\x7d"
  pure (.group (c :: cases))

/-- Reads what is done with what a block throws, if anything. -/
def catchIf : Parser (List Tree) := do
  if ← keywordIf "catch" then
    let caught ← if ← markIf "(" then
        let t ← sc.parse .pattern
        if sc.dialect.typed then sc.annotation
        mark ")"
        pure [t]
      else pure []
    return caught ++ [← sc.block]
  else pure []

/-- Reads a block that may throw. -/
def tryStatement : Parser Tree := do
  keyword "try"
  let body ← sc.block
  let handler ← sc.catchIf
  let last ← if ← keywordIf "finally" then pure [← sc.block] else pure []
  pure (.group (body :: handler ++ last))

/-- Reads a statement whose names are looked up in a value. -/
def withStatement : Parser Tree := do
  keyword "with"
  let c ← sc.condition
  return .group [c, ← sc.parse .statement]

/-! ### Jumps -/

/-- Reads a jump that may carry a value. -/
def valueJump (needsValue : Bool) : Parser Tree := do
  let _ ← word
  match ← (if needsValue then pure none else attempt (semicolon true)) with
  | some () => pure .blank
  | none =>
    let t ← sc.parse .sequence
    semicolon true
    pure t

/-- Reads a jump that may name a label. -/
def labelJump : Parser Tree := do
  let _ ← word
  match ← attempt (semicolon true) with
  | some () => pure .blank
  | none =>
    let _ ← name
    semicolon true
    pure .blank

/-! ### Declarations of typed scripts -/

/-- Passes over a declaration of a type. -/
def typeDeclaration : Parser Tree := do
  keyword "type"
  let _ ← name
  sc.typeParametersIf
  mark "="
  sc.skipType
  semicolon false
  pure .blank

/-- Passes over a declaration of an interface. -/
def interfaceDeclaration : Parser Tree := do
  keyword "interface"
  let _ ← name
  sc.typeParametersIf
  if ← keywordIf "extends" then sc.commaSeparated sc.skipType
  sc.objectType
  pure .blank

/-- Reads a member of an enumeration. -/
def enumMember : Parser Tree := do
  let key ← sc.propertyName
  match ← sc.initializer with
  | some value => pure (.group [key, value])
  | none => pure key

/-- Reads a declaration of an enumeration. -/
def enumDeclaration : Parser Tree := do
  let _ ← keywordIf "const"
  keyword "enum"
  let _ ← name
  mark "\x7b"
  return .group (← sc.items "\x7d" false sc.enumMember)

/-- Reads a declaration of a namespace or module; it may lack a body. -/
def namespaceDeclaration : Parser Tree := do
  let _ ← word
  if (← peek) == .quoted then quotedText
  else
    let _ ← name
    let _ ← sc.many (mark "." *> word)
  if ← atMark "\x7b" then sc.block
  else
    semicolon false
    pure .blank

/-- Reads a declaration of what exists elsewhere. -/
def ambientDeclaration : Parser Tree := do
  keyword "declare"
  let (_, next) ← peekSecond
  if (← atKeyword "global") && next == .mark "\x7b" then keyword "global" *> sc.block
  else if (← atKeyword "module") && next == .mark "." then
    keyword "module"
    mark "."
    let _ ← word
    mark ":"
    sc.skipType
    semicolon false
    pure .blank
  else sc.parse .statement

/-- What a first word and what follows it on the same line begin in typed scripts. -/
def typedDeclaration? (w : String) (next : Token) : Option (Parser Tree) :=
  match w, next with
  | "type", .word _ => some sc.typeDeclaration
  | "interface", .word _ => some sc.interfaceDeclaration
  | "enum", .word _ => some sc.enumDeclaration
  | "const", .word "enum" => some sc.enumDeclaration
  | "namespace", .word _ => some sc.namespaceDeclaration
  | "module", .word _ | "module", .quoted => some sc.namespaceDeclaration
  | "abstract", .word "class" => some sc.classDeclaration
  | "declare", .word _ => some sc.ambientDeclaration
  | _, _ => none

/-! ### Exports -/

/-- Reads a value that a module gives by default. -/
def defaultExport : Parser Tree := do
  keyword "default"
  let (ended, next) ← peekSecond
  if ← sc.atNamedDeclaration then sc.parse .statement
  else if sc.dialect.typed && !ended && (← atKeyword "interface") then
    match next with
    | .word _ => sc.interfaceDeclaration
    | _ => failure
  else
    let t ← sc.value
    semicolon true
    pure t

/-- Reads a declaration of what a module gives. -/
def exportedDeclaration : Parser Tree := do
  let (ended, next) ← peekSecond
  match ← peek with
  | .word w =>
    let plain := ["var", "let", "const", "function", "class", "async"].contains w
    let typed := sc.dialect.typed && !ended && (sc.typedDeclaration? w next).isSome
    require (plain || typed)
    if w == "async" then require (next == .word "function")
    if w == "class" || w == "function" || w == "async" then require (← sc.atNamedDeclaration)
    sc.parse .statement
  | .mark "@" => sc.parse .statement
  | _ => failure

/-- Reads an export. -/
def exportStatement : Parser Tree := do
  keyword "export"
  match ← peek with
  | .mark "*" | .mark "\x7b" => sc.exportNames
  | .word "default" => sc.defaultExport
  | _ =>
    let typed ← if sc.dialect.typed then attempt sc.typedExport else pure none
    match typed with
    | some t => pure t
    | none => sc.exportedDeclaration

/-- Reads a class behind its decorators, possibly behind `export`. -/
def decoratedStatement : Parser Tree := do
  let marks ← sc.decorators
  let t ← match ← peek with
    | .word "export" => sc.exportStatement
    | _ => sc.classDeclaration
  pure (.group (marks ++ [t]))

/-! ### Statements -/

/-- Reads expressions that stand as a statement. -/
def expressionStatement : Parser Tree := do
  let t ← sc.parse .sequence
  semicolon true
  pure t

/-- Whether an object stands behind an opening brace where a block might. -/
def atObject : Parser Bool :=
  ahead do
    mark "\x7b"
    match ← token with
    | .quoted | .numeral => mark ":"
    | .mark "..." => pure ()
    | _ => failure

/-- Reads a statement that begins with a word. -/
def wordStatement (w : String) : Parser Tree := do
  let (ended, next) ← peekSecond
  let typed := if sc.dialect.typed && !ended then sc.typedDeclaration? w next else none
  match typed with
  | some p => p
  | none =>
    if next == .mark ":" && !reservedWords.contains w then
      let _ ← word
      mark ":"
      sc.parse .statement
    else
      match w with
      | "var" | "const" => sc.variableStatement
      | "let" => if declaresBehindLet next then sc.variableStatement else sc.expressionStatement
      | "function" | "class" | "async" =>
        if ← sc.atNamedDeclaration then
          if w == "class" then sc.classDeclaration
          else sc.functionDeclaration
        else sc.expressionStatement
      | "if" => sc.ifStatement
      | "for" => sc.forStatement
      | "while" => sc.whileStatement
      | "do" => sc.doStatement
      | "switch" => sc.switchStatement
      | "try" => sc.tryStatement
      | "with" => sc.withStatement
      | "return" => sc.valueJump false
      | "throw" => sc.valueJump true
      | "break" | "continue" => labelJump
      | "debugger" => word *> semicolon true *> pure .blank
      | "import" =>
        if next == .mark "(" || next == .mark "." then sc.expressionStatement
        else sc.importStatement
      | "export" => sc.exportStatement
      | _ => sc.expressionStatement

/-- Passes over a remark in the manner of a page, up to the line end. -/
def pageRemark : Parser Unit := fun s =>
  let s := skipGap s
  if "<!--".toList.isPrefixOf s || "-->".toList.isPrefixOf s then
    some ((), s.dropWhile fun c => !isLineEnd c)
  else none

/-- Reads a statement. -/
def statement : Parser Tree := do
  let _ ← sc.many pageRemark
  match ← peek with
  | .mark ";" => mark ";" *> pure .blank
  | .mark "\x7b" => if ← atObject then sc.expressionStatement else sc.block
  | .mark "@" => sc.decoratedStatement
  | .word w => sc.wordStatement w
  | .ending => failure
  | _ => sc.expressionStatement

end Scope

end SpokenIndex.Script
