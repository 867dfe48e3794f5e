/-
What gives names: patterns, parameters and signatures.
-/
import SpokenIndex.Script.TypeNotation

namespace SpokenIndex.Script

open SpokenIndex.Text.Reader (attempt ahead require manyFrom)

namespace Scope

variable (sc : Scope)

/-! ### Patterns -/

/-- Reads a pattern and what it stands for where there is nothing. -/
def patternWithDefault : Parser Tree := do
  let target ← sc.parse .pattern
  match ← sc.initializer with
  | some value => pure (.group [target, value])
  | none => pure target

/-- Reads the name of a property. -/
def propertyName : Parser Tree := do
  match ← token with
  | .word _ | .privateName | .numeral | .quoted => pure .blank
  | .mark "[" =>
    let t ← sc.value
    mark "]"
    pure (.group [t])
  | _ => failure

/-- Reads an entry of an object pattern. -/
def objectPatternEntry : Parser Tree := do
  if ← markIf "..." then sc.parse .pattern
  else
    let (_, next) ← peekSecond
    match ← peek, next with
    | .word _, .mark "," | .word _, .mark "\x7d" | .word _, .mark "=" => sc.patternWithDefault
    | _, _ =>
      let key ← sc.propertyName
      mark ":"
      let target ← sc.patternWithDefault
      pure (.group [key, target])

/-- Reads an element of an array pattern. -/
def arrayPatternElement : Parser Tree := do
  if ← markIf "..." then sc.parse .pattern else sc.patternWithDefault

/-- Reads a name, or a pattern of names. -/
def pattern : Parser Tree := do
  match ← peek with
  | .mark "\x7b" =>
    mark "\x7b"
    return .ofKind .collection (← sc.items "\x7d" true sc.objectPatternEntry)
  | .mark "[" =>
    mark "["
    return .ofKind .collection (← sc.items "]" true sc.arrayPatternElement)
  | _ => return .named (← name)

/-! ### Decorators -/

/-- Reads the arguments of a call whose opening parenthesis was read. -/
def arguments : Parser (List Tree) :=
  sc.items ")" true do
    let _ ← markIf "..."
    sc.value

/-- Reads a decorator. -/
def decorator : Parser Tree := do
  mark "@"
  if ← markIf "(" then
    let t ← sc.parse .sequence
    mark ")"
    pure (.group [t])
  else
    let _ ← word
    let _ ← sc.many do
      mark "."
      match ← token with
      | .word _ | .privateName => pure ()
      | _ => failure
    if sc.dialect.typed then
      let _ ← attempt sc.typeArguments
    if ← markIf "(" then return .group (← sc.arguments) else return .blank

/-- Reads decorators. -/
def decorators : Parser (List Tree) :=
  sc.many sc.decorator

/-! ### Parameters -/

/-- Words before a parameter that make it a property. -/
def parameterModifiers : List String :=
  ["public", "private", "protected", "override", "readonly"]

/-- Passes over a word that makes a parameter a property. -/
def parameterModifier : Parser Unit := do
  let (_, next) ← peekSecond
  require (match next with
    | .word _ | .mark "\x7b" | .mark "[" => true
    | _ => false)
  let w ← word
  require (parameterModifiers.contains w)

/-- Reads a parameter. -/
def parameter : Parser Tree := do
  let marks ← if sc.dialect.typed then sc.decorators else pure []
  if sc.dialect.typed then
    let _ ← sc.many parameterModifier
  let _ ← markIf "..."
  let isReceiver ← if sc.dialect.typed then keywordIf "this" else pure false
  let target ← if isReceiver then pure .blank else sc.parse .pattern
  if sc.dialect.typed then
    let _ ← markIf "?"
    sc.annotation
  match ← sc.initializer with
  | some value => pure (.group (marks ++ [target, value]))
  | none => pure (.group (marks ++ [target]))

/-- Reads parameters in parentheses. -/
def parameters : Parser (List Tree) := do
  mark "("
  sc.items ")" false sc.parameter

/-- Reads type parameters if the dialect has them. -/
def generics : Parser Unit := do
  if sc.dialect.typed then sc.typeParametersIf

/-- Passes over the result of a function if the dialect has types. -/
def resultAnnotation : Parser Unit := do
  if sc.dialect.typed then
    if ← markIf ":" then sc.resultType

/-- Reads the parameters of a function, with its type parameters and its result. -/
def signature : Parser (List Tree) := do
  sc.generics
  let ps ← sc.parameters
  sc.resultAnnotation
  pure ps

/-! ### Variables -/

/-- Reads a name or pattern of a variable, and its type. -/
def variableTarget : Parser Tree := do
  let target ← sc.parse .pattern
  if sc.dialect.typed then
    if !(← atLineEnd) then
      let _ ← markIf "!"
    sc.annotation
  pure target

/-- The node of a variable that is declared. -/
def declaratorNode (target : Tree) (value : Option Tree) : Tree :=
  .ofKind .variableDeclarator
    (target.withRole .name :: (value.map (·.withRole .value)).toList)

/-- Reads the rest of a declarator behind its target. -/
def declaratorFrom (target : Tree) : Parser Tree := do
  return declaratorNode target (← sc.initializer)

/-- Reads a variable with its value. -/
def declarator : Parser Tree := do
  sc.declaratorFrom (← sc.variableTarget)

/-- Reads the variables behind a first one. -/
def moreDeclarators (first : Tree) : Parser Tree := do
  let more ← sc.many do
    mark ","
    sc.declarator
  pure (.group (first :: more))

end Scope

end SpokenIndex.Script
