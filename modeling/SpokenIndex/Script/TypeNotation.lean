/-
Type annotations.

Types declare nothing, so what is read here is only passed over: the trees are blank.
Where a parenthesis or an angle bracket may begin either a function type or something
else, the head of a function type is tried first; it is short, and once its arrow is
read the choice stands.
-/
import SpokenIndex.Script.Grammar

namespace SpokenIndex.Script

open SpokenIndex.Text.Reader (attempt ahead require manyFrom)

namespace Scope

variable (sc : Scope)

/-- Passes over a type. -/
def skipType : Parser Unit := do
  let _ ← sc.parse .typeNotation

/-- Passes over a type behind a colon, if there is one. -/
def annotation : Parser Unit := do
  if ← markIf ":" then sc.skipType

/-- Passes over one or more items with commas between them. -/
def commaSeparated (item : Parser Unit) : Parser Unit := do
  item
  let _ ← sc.many do
    mark ","
    item

/-- Passes over types in angle brackets. -/
def typeArguments : Parser Unit := do
  sign '<'
  sc.commaSeparated sc.skipType
  let _ ← markIf ","
  sign '>'

/-- Passes over a type parameter. -/
def typeParameter : Parser Unit := do
  let _ ← sc.many do
    let (_, next) ← peekSecond
    match next with
    | .word w =>
      require (w != "extends")
      match ← word with
      | "const" | "in" | "out" => pure ()
      | _ => failure
    | _ => failure
  let _ ← name
  if ← keywordIf "extends" then sc.skipType
  if ← markIf "=" then sc.skipType

/-- Passes over type parameters in angle brackets. -/
def typeParameters : Parser Unit := do
  sign '<'
  sc.commaSeparated sc.typeParameter
  let _ ← markIf ","
  sign '>'

/-- Passes over type parameters, if there are any. -/
def typeParametersIf : Parser Unit := do
  if ← atMark "<" then sc.typeParameters

/-- Passes over the result of a function: a type, or a claim about a parameter. -/
def resultType : Parser Unit := do
  let claimed ← attempt do
    keyword "asserts"
    let _ ← word
  match claimed with
  | some _ => if ← keywordIf "is" then sc.skipType
  | none =>
    let _ ← attempt do
      let _ ← word
      require !(← atLineEnd)
      keyword "is"
    sc.skipType

/-! ### Parameters of function types -/

/-- Passes over a parameter of a function type. -/
def typeOfParameter : Parser Unit := do
  let _ ← markIf "..."
  if !(← keywordIf "this") then
    let _ ← sc.parse .pattern
  let _ ← markIf "?"
  sc.annotation

/-- Passes over the parameters of a function type. -/
def typesOfParameters : Parser Unit := do
  mark "("
  let _ ← sc.items ")" false do
    sc.typeOfParameter
    pure .blank

/-- Passes over the head of a function type, up to its arrow. -/
def functionTypeHead : Parser Unit := do
  sc.typeParametersIf
  sc.typesOfParameters
  mark "=>"

/-- Passes over the signature of a member of an object type. -/
def memberSignature : Parser Unit := do
  sc.typeParametersIf
  sc.typesOfParameters
  if ← markIf ":" then sc.resultType

/-! ### Object types -/

/-- Passes over the name of a property. -/
def propertyNameOfType : Parser Unit := do
  match ← token with
  | .word _ | .privateName | .numeral | .quoted => pure ()
  | .mark "[" =>
    let _ ← sc.parse .expression
    mark "]"
  | _ => failure

/-- Passes over a sign before `readonly` or a question mark in a mapped type. -/
def mappedSign : Parser Unit := do
  if !(← markIf "+") then
    let _ ← markIf "-"

/-- Passes over the body of a mapped type. -/
def mappedType : Parser Unit := do
  mappedSign
  let _ ← keywordIf "readonly"
  mark "["
  let _ ← name
  keyword "in"
  sc.skipType
  if ← keywordIf "as" then sc.skipType
  mark "]"
  mappedSign
  let _ ← markIf "?"
  sc.annotation
  if !(← markIf ";") then
    let _ ← markIf ","
  mark "\x7d"

/-- Passes over the brackets of an index signature. -/
def indexHead : Parser Unit := do
  mark "["
  let _ ← name
  mark ":"
  sc.skipType
  mark "]"

/-- Passes over a word that changes the member behind it. -/
def memberModifier (modifiers : List String) : Parser Unit := do
  let (_, next) ← peekSecond
  require (match next with
    | .word _ | .privateName | .numeral | .quoted | .mark "[" => true
    | _ => false)
  let w ← word
  require (modifiers.contains w)

/-- Passes over a member of an object type. -/
def typeMember : Parser Unit := do
  match ← peek with
  | .mark "(" | .mark "<" => sc.memberSignature
  | _ =>
    let construct ← attempt do
      keyword "new"
      require ((← atMark "(") || (← atMark "<"))
    match construct with
    | some _ => sc.memberSignature
    | none =>
      let _ ← sc.many (memberModifier ["readonly", "get", "set", "static"])
      match ← attempt sc.indexHead with
      | some _ => sc.annotation
      | none =>
        sc.propertyNameOfType
        let _ ← markIf "?"
        match ← peek with
        | .mark "(" | .mark "<" => sc.memberSignature
        | _ => sc.annotation

/-- Passes over what separates members of an object type. -/
def memberEnd : Parser Unit := do
  if !(← markIf ",") then semicolon false

/-- Passes over an object type. -/
def objectType : Parser Unit := do
  mark "\x7b"
  match ← attempt sc.mappedType with
  | some _ => pure ()
  | none =>
    let _ ← sc.many do
      sc.typeMember
      memberEnd
    mark "\x7d"

/-! ### Types -/

/-- Reserved words that are types. -/
def typeWords : List String := ["void", "null", "true", "false", "this", "const"]

/-- Passes over a name with further names behind dots. -/
def dottedName : Parser Unit := do
  let w ← word
  require (!reservedWords.contains w || typeWords.contains w)
  let _ ← sc.many do
    mark "."
    let _ ← word

/-- Passes over types in angle brackets on the same line, if there are any. -/
def typeArgumentsIf : Parser Unit := do
  if ← atMark "<" then
    if !(← atLineEnd) then sc.typeArguments
  else if ← atMark "<<" then sc.typeArguments

/-- Passes over the import of a type. -/
def importType : Parser Unit := do
  keyword "import"
  mark "("
  sc.skipType
  if ← markIf "," then
    let _ ← sc.parse .expression
  mark ")"
  let _ ← sc.many do
    mark "."
    let _ ← word
  sc.typeArgumentsIf

/-- Passes over an element of a tuple type. -/
def tupleElement : Parser Tree := do
  let _ ← markIf "..."
  let _ ← attempt do
    let _ ← word
    let _ ← markIf "?"
    mark ":"
  sc.skipType
  let _ ← markIf "?"
  pure .blank

/-- Passes over a type that is no operator's. -/
def primaryType : Parser Unit := do
  match ← peek with
  | .mark "(" =>
    mark "("
    sc.skipType
    mark ")"
  | .mark "\x7b" => sc.objectType
  | .mark "[" =>
    mark "["
    let _ ← sc.items "]" false sc.tupleElement
  | .mark "-" =>
    mark "-"
    require ((← token) == .numeral)
  | .quoted | .numeral =>
    let _ ← token
  | .template =>
    let _ ← token
    let _ ← sc.template .typeNotation
  | .word "import" => sc.importType
  | .word _ =>
    sc.dottedName
    sc.typeArgumentsIf
  | _ => failure

/-- Passes over a bracket behind a type: an array of it, or a member of it. -/
def typeSuffix : Parser Unit := do
  require !(← atLineEnd)
  mark "["
  if !(← markIf "]") then
    sc.skipType
    mark "]"

/-- Whether a type can begin with a token. -/
def beginsType : Token → Bool
  | .word w => !reservedWords.contains w || typeWords.contains w
      || ["typeof", "new", "import"].contains w
  | .mark m => ["(", "\x7b", "[", "<", "-"].contains m
  | .quoted | .numeral | .template => true
  | _ => false

/-- Passes over the arms of a type operator. -/
def typeOperator : Parser Unit := do
  let (_, next) ← peekSecond
  require (beginsType next)
  match ← word with
  | "keyof" | "unique" | "readonly" => require (!(next == .word "extends"))
  | _ => failure

/-- Passes over a question about the type of a value. -/
def typeQuery : Parser Unit := do
  keyword "typeof"
  if ← atKeyword "import" then sc.importType
  else
    let _ ← word
    let _ ← sc.many do
      if !(← markIf "?.") then mark "."
      match ← token with
      | .word _ | .privateName => pure ()
      | _ => failure
    sc.typeArgumentsIf

/-- Passes over a type without operators that join types. -/
def joinedType : Parser Unit := do
  let _ ← sc.many typeOperator
  let function ← attempt sc.functionTypeHead
  match function with
  | some _ => sc.resultType
  | none =>
    let constructor_ ← attempt do
      let _ ← keywordIf "abstract"
      keyword "new"
      sc.functionTypeHead
    match constructor_ with
    | some _ => sc.skipType
    | none =>
      let inferred ← attempt do
        keyword "infer"
        let _ ← name
      match inferred with
      | some _ => if ← keywordIf "extends" then sc.skipType
      | none =>
        if ← atKeyword "typeof" then sc.typeQuery else sc.primaryType
        let _ ← sc.many sc.typeSuffix

/-- Passes over a bar or an ampersand. -/
def typeJoint : Parser Unit := do
  if !(← markIf "|") then mark "&"

/-- Passes over types joined by bars and ampersands. -/
def unionType : Parser Unit := do
  let _ ← attempt typeJoint
  sc.joinedType
  let _ ← sc.many do
    typeJoint
    sc.joinedType

/-- Passes over a type. -/
def typeNotation : Parser Tree := do
  sc.unionType
  let chosen ← attempt do
    require !(← atLineEnd)
    keyword "extends"
  match chosen with
  | none => pure .blank
  | some _ =>
    sc.unionType
    mark "?"
    sc.skipType
    mark ":"
    sc.skipType
    pure .blank

end Scope

end SpokenIndex.Script
