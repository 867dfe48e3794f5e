/-
What a module takes from others and gives to others.
-/
import SpokenIndex.Script.Expression

namespace SpokenIndex.Script

open SpokenIndex.Text.Reader (attempt ahead require manyFrom)

namespace Scope

variable (sc : Scope)

/-- Passes over a name under which a module gives something: a word or a quoted text. -/
def exportedName : Parser Unit := do
  match ← token with
  | .word _ | .quoted => pure ()
  | _ => failure

/-- Passes over an item of a list of names, possibly with another name behind `as`. -/
def exchangedName : Parser Tree := do
  if sc.dialect.typed then
    let _ ← attempt do
      match ← word with
      | "type" | "typeof" => pure ()
      | _ => failure
      let (_, next) ← peekSecond
      require (!(← atKeyword "as") || next == .word "as")
      match ← peek with
      | .word _ | .quoted => pure ()
      | _ => failure
  exportedName
  if ← keywordIf "as" then exportedName
  pure .blank

/-- Passes over names in braces. -/
def exchangedNames : Parser Unit := do
  mark "\x7b"
  let _ ← sc.items "\x7d" false sc.exchangedName

/-- Passes over what tells how a module is to be read. -/
def readingHints : Parser Unit := do
  if !(← atLineEnd) then
    match ← attempt (keyword "with" <|> keyword "assert") with
    | some () =>
      let _ ← mark "\x7b" *> sc.objectValue
    | none => pure ()

/-- Passes over the source of a module behind `from`. -/
def fromSource : Parser Unit := do
  keyword "from"
  quotedText
  sc.readingHints

/-! ### Taking -/

/-- Passes over all names, or names in braces. -/
def importedNames : Parser Unit := do
  if ← markIf "*" then
    keyword "as"
    let _ ← name
  else sc.exchangedNames

/-- Passes over what an import takes. -/
def importClause : Parser Unit := do
  match ← peek with
  | .word _ =>
    let _ ← name
    if ← markIf "," then sc.importedNames
  | _ => sc.importedNames

/-- Passes over the value that an import gives a name to. -/
def importedValue : Parser Unit := do
  let required ← attempt do
    keyword "require"
    mark "("
    quotedText
    mark ")"
  match required with
  | some () => pure ()
  | none => sc.dottedName

/-- Reads an import behind its first word. -/
def importRest : Parser Unit := do
  if (← peek) == .quoted then
    quotedText
    sc.readingHints
  else
    let aliased ← if sc.dialect.typed then attempt (name *> mark "=") else pure none
    match aliased with
    | some () => sc.importedValue
    | none =>
      sc.importClause
      sc.fromSource

/-- Reads an import. -/
def importStatement : Parser Tree := do
  keyword "import"
  if sc.dialect.typed then
    let _ ← attempt do
      keyword "type" <|> keyword "typeof"
      let (_, next) ← peekSecond
      match ← peek with
      | .word w => require (w != "from" || next == .word "from")
      | .mark m => require (m == "\x7b" || m == "*")
      | _ => failure
  sc.importRest
  semicolon false
  pure .blank

/-! ### Giving -/

/-- Reads an export of names, behind its first word. -/
def exportNames : Parser Tree := do
  if ← markIf "*" then
    if ← keywordIf "as" then exportedName
    sc.fromSource
  else
    sc.exchangedNames
    if ← atKeyword "from" then sc.fromSource
  semicolon false
  pure .blank

/-- Reads an export that only typed modules have, behind its first word. -/
def typedExport : Parser Tree := do
  match ← peek with
  | .mark "=" =>
    mark "="
    let t ← sc.parse .sequence
    semicolon true
    pure t
  | .word "as" =>
    keyword "as"
    keyword "namespace"
    let _ ← name
    semicolon false
    pure .blank
  | .word "import" => sc.importStatement
  | .word "type" =>
    keyword "type"
    require ((← atMark "\x7b") || (← atMark "*"))
    sc.exportNames
  | _ => failure

/-- Whether a declaration of a class or function with a name comes next. -/
def atNamedDeclaration : Parser Bool :=
  ahead do
    let _ ← keywordIf "async"
    if ← keywordIf "function" then
      let _ ← markIf "*"
    else
      if sc.dialect.typed then
        let _ ← keywordIf "abstract"
      keyword "class"
    let n ← name
    require (n != "implements" || !sc.dialect.typed)

end Scope

end SpokenIndex.Script
