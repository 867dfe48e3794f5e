/-
Functions, methods and classes.
-/
import SpokenIndex.Script.Binding

namespace SpokenIndex.Script

open SpokenIndex.Text.Reader (attempt ahead require manyFrom)

namespace Scope

variable (sc : Scope)

/-- The node of a function or class: its name if it has one, then its parts. -/
def namedNode (kind : NodeKind) (name : Option String) (parts : List Tree) : Tree :=
  .ofKind kind ((name.map fun n => (Tree.named n).withRole .name).toList ++ parts)

/-! ### Functions -/

/-- Reads a function as an expression. -/
def functionExpression : Parser Tree := do
  let _ ← keywordIf "async"
  keyword "function"
  let _ ← markIf "*"
  let n ← attempt name
  let ps ← sc.signature
  let body ← sc.block
  pure (namedNode .functionValue n (ps ++ [body]))

/-- Reads a function as a declaration; without a body it declares nothing. -/
def functionDeclaration : Parser Tree := do
  let _ ← keywordIf "async"
  keyword "function"
  let _ ← markIf "*"
  let n ← name
  let ps ← sc.signature
  if sc.dialect.typed && !(← atMark "\x7b") then
    semicolon false
    pure (.group ps)
  else
    let body ← sc.block
    pure (namedNode .functionDeclaration (some n) (ps ++ [body]))

/-! ### Arrow functions -/

/-- Reads the body of an arrow function. -/
def arrowBody (ps : List Tree) : Parser Tree := do
  let body ← if ← atMark "\x7b" then sc.block else sc.value
  pure (.ofKind .functionValue (ps ++ [body]))

/-- Reads the head of an arrow function up to its arrow.  With `plain`, it has no result
type. -/
def arrowHead (plain : Bool) : Parser (List Tree) := do
  sc.generics
  let ps ← sc.parameters
  if !plain then sc.resultAnnotation
  mark "=>"
  pure ps

/-- Reads an arrow function with parameters in parentheses, if one comes next. -/
def arrowIf (plain : Bool) : Parser (Option Tree) := do
  match ← attempt (sc.arrowHead plain) with
  | some ps => return some (← sc.arrowBody ps)
  | none => return none

/-- Reads the head of an arrow function whose only parameter is a name. -/
def shortArrowHead : Parser Tree := do
  let n ← name
  mark "=>"
  pure (.named n)

/-- Reads the head of an arrow function that begins with `async`. -/
def asyncArrowHead (plain : Bool) : Parser (List Tree) := do
  keyword "async"
  match ← attempt shortArrowHead with
  | some p => pure [p]
  | none => sc.arrowHead plain

/-! ### Members of objects -/

/-- Whether a token can begin the name of a property. -/
def beginsName : Token → Bool
  | .word _ | .privateName | .numeral | .quoted | .mark "[" => true
  | _ => false

/-- Passes over a word that changes the member behind it. -/
def modifierAmong (modifiers : List String) : Parser String := do
  let (_, next) ← peekSecond
  require (beginsName next || next == .mark "*")
  let w ← word
  require (modifiers.contains w)
  pure w

/-- Reads a method behind its name: its signature and body. -/
def method : Parser Tree := do
  let ps ← sc.signature
  let body ← sc.block
  pure (.group (ps ++ [body]))

/-- Whether a signature comes next. -/
def atSignature : Parser Bool := do
  return (← atMark "(") || (sc.dialect.typed && (← atMark "<"))

/-- Reads a member of an object; one that is given a default makes sense in a pattern only. -/
def objectMember : Parser Tree := do
  if ← markIf "..." then sc.parse .expression
  else
    let (_, next) ← peekSecond
    match ← peek, next with
    | .word w, .mark "," | .word w, .mark "\x7d" =>
      let _ ← name
      pure (.named w)
    | .word w, .mark "=" =>
      let _ ← name
      mark "="
      let value ← sc.value
      pure (.ofKind .bareTarget [.named w, value])
    | _, _ =>
      let modifiers ← sc.many (modifierAmong ["async", "get", "set"])
      let starred ← markIf "*"
      let key ← sc.propertyName
      if ← sc.atSignature then
        return .group [key, ← sc.method]
      else
        require (modifiers.isEmpty && !starred)
        mark ":"
        let value ← sc.parse .expression
        pure (.ofKind (if value.kind = .bareTarget then .bareTarget else .other) [key, value])

/-- The node of an array or object with the given items. -/
def collectionOf (found : List Tree) : Tree :=
  let kind := if found.any (·.kind == .bareTarget) then .bareTarget else .collection
  .ofKind kind found

/-- Reads an object whose opening brace was read. -/
def objectValue : Parser Tree := do
  return collectionOf (← sc.items "\x7d" true sc.objectMember)

/-- Reads an array whose opening bracket was read. -/
def arrayValue : Parser Tree := do
  return collectionOf (← sc.items "]" true do
    let _ ← markIf "..."
    sc.parse .expression)

/-! ### Members of classes -/

/-- Words before a member of a class. -/
def memberModifiers : List String :=
  ["static", "async", "get", "set", "accessor", "declare", "abstract", "override", "readonly",
    "public", "private", "protected"]

/-- Words before a member of a class where there are no types. -/
def plainMemberModifiers : List String := ["static", "async", "get", "set"]

/-- Reads what ends a field. -/
def fieldEnd (open_ : Bool) : Parser Unit := do
  if sc.dialect.typed then
    if !(← markIf ",") then semicolon open_
  else semicolon true

/-- Reads a field behind its name. -/
def field : Parser Tree := do
  if sc.dialect.typed then sc.annotation
  match ← sc.initializer with
  | some value =>
    sc.fieldEnd true
    pure value
  | none =>
    sc.fieldEnd false
    pure .blank

/-- Reads a method of a class behind its name; where there are types it may lack a body. -/
def classMethod : Parser Tree := do
  let ps ← sc.signature
  if sc.dialect.typed && !(← atMark "\x7b") then
    sc.fieldEnd false
    pure (.group ps)
  else
    let body ← sc.block
    pure (.group (ps ++ [body]))

/-- Reads a member of a class behind its decorators. -/
def classMemberBody : Parser Tree := do
  match ← attempt (keyword "static" *> mark "\x7b") with
  | some () =>
    let statements ← sc.many (sc.parse .statement)
    mark "\x7d"
    pure (.group statements)
  | none =>
    let modifiers := if sc.dialect.typed then memberModifiers else plainMemberModifiers
    let _ ← sc.many (modifierAmong modifiers)
    let _ ← markIf "*"
    let indexed ← if sc.dialect.typed then attempt sc.indexHead else pure none
    match indexed with
    | some () =>
      sc.annotation
      sc.fieldEnd false
      pure .blank
    | none =>
      let key ← sc.propertyName
      if sc.dialect.typed then
        if !(← markIf "?") then
          let _ ← markIf "!"
      if ← sc.atSignature then return .group [key, ← sc.classMethod]
      else return .group [key, ← sc.field]

/-- Reads a member of a class, or a semicolon. -/
def classMember : Parser Tree := do
  if ← markIf ";" then pure .blank
  else
    let marks ← sc.decorators
    let body ← sc.classMemberBody
    pure (.group (marks ++ [body]))

/-! ### Classes -/

/-- Reads what a class extends. -/
def heritage : Parser Tree := do
  let t ← sc.parse .operand
  if sc.dialect.typed then
    if ← atMark "<" then sc.typeArguments
  pure t

/-- Reads what a class extends, if anything. -/
def heritageIf : Parser (List Tree) := do
  if ← keywordIf "extends" then
    let first ← sc.heritage
    let more ← if sc.dialect.typed then sc.many (mark "," *> sc.heritage) else pure []
    pure (first :: more)
  else pure []

/-- Passes over the types that a class implements. -/
def implementsIf : Parser Unit := do
  if sc.dialect.typed then
    if ← keywordIf "implements" then sc.commaSeparated sc.skipType

/-- Reads a class behind its name. -/
def classRest : Parser (List Tree) := do
  sc.generics
  let parents ← sc.heritageIf
  sc.implementsIf
  mark "\x7b"
  let members ← sc.many sc.classMember
  mark "\x7d"
  pure (parents ++ members)

/-- Reads the name of a class. -/
def className : Parser String := do
  let n ← name
  require (n != "implements")
  pure n

/-- Reads a class as an expression. -/
def classExpression : Parser Tree := do
  keyword "class"
  let n ← attempt className
  let parts ← sc.classRest
  pure (namedNode .other n parts)

/-- Reads a class as a declaration. -/
def classDeclaration : Parser Tree := do
  if sc.dialect.typed then
    let _ ← keywordIf "abstract"
  keyword "class"
  let n ← name
  let parts ← sc.classRest
  pure (namedNode .classDeclaration (some n) parts)

end Scope

end SpokenIndex.Script
