/-
Markup elements as operands.

Between the tags of an element stands text that is not made of tokens, so it is read
character by character: it ends at an angle bracket or an opening brace, and an
ampersand in it begins a character reference.  The names of the two tags are not
compared.
-/
import SpokenIndex.Script.Function

namespace SpokenIndex.Script

open SpokenIndex.Text.Reader (attempt ahead require manyFrom)

/-- What follows a character reference whose ampersand was read. -/
def skipReference? (s : List Char) : Option (List Char) :=
  match s with
  | '#' :: 'x' :: rest => closed 6 isHexDigit rest
  | '#' :: 'X' :: rest => closed 6 isHexDigit rest
  | '#' :: rest => closed 5 Char.isDigit rest
  | rest => closed 30 Char.isAlpha rest
where
  /-- What follows at most `limit` characters of a kind and a semicolon. -/
  closed (limit : Nat) (isPart : Char → Bool) (s : List Char) : Option (List Char) :=
    let part := s.takeWhile isPart
    match s.drop part.length with
    | ';' :: rest => if part.isEmpty ∨ limit < part.length then none else some rest
    | _ => none

/-- What follows the text between tags. -/
def skipElementText? : List Char → Option (List Char)
  | '<' :: rest => some ('<' :: rest)
  | '\x7b' :: rest => some ('\x7b' :: rest)
  | '>' :: _ => none
  | '\x7d' :: _ => none
  | '&' :: rest => if (skipReference? rest).isSome then skipElementText? rest else none
  | _ :: rest => skipElementText? rest
  | [] => none

/-- What follows a quoted attribute whose opening quote was read; it may span lines. -/
def skipAttributeText? (quote : Char) (s : List Char) : Option (List Char) :=
  match s.dropWhile (· != quote) with
  | _ :: rest => some rest
  | [] => none

namespace Scope

variable (sc : Scope)

/-- Passes over what follows a name after dashes. -/
def dashes : Parser Unit := fun s =>
  some ((), s.dropWhile fun c => c == '-' || isNamePart c)

/-- Passes over the name of an element or attribute. -/
def elementName : Parser Unit := do
  let _ ← word
  dashes
  let _ ← sc.many do
    if !(← markIf ".") then mark ":"
    let _ ← word
    dashes

/-- Reads expressions in braces, possibly none. -/
def braced : Parser Tree := do
  mark "\x7b"
  if ← markIf "\x7d" then pure .blank
  else
    let t ← if ← markIf "..." then sc.value else sc.parse .sequence
    sign '\x7d'
    pure (.group [t])

/-- Passes over a quoted attribute. -/
def attributeText : Parser Unit := fun s =>
  match skipGap s with
  | c :: rest =>
    if c == '"' || c == '\'' then (skipAttributeText? c rest).map fun rest => ((), rest)
    else none
  | [] => none

/-- Reads the value of an attribute. -/
def attributeValue : Parser Tree := do
  match ← peek with
  | .mark "\x7b" => sc.braced
  | .mark "<" => sc.parse .element
  | _ =>
    attributeText
    pure .blank

/-- Reads an attribute of an element. -/
def tagAttribute : Parser Tree := do
  if ← atMark "\x7b" then sc.braced
  else
    sc.elementName
    if ← markIf "=" then sc.attributeValue else pure .blank

/-- Reads the end of a closing tag behind its bracket. -/
def closingTag : Parser Unit := do
  sign '/'
  if !(← atMark ">") then sc.elementName
  sign '>'

/-- Passes over the text between tags. -/
def elementText : Parser Unit := fun s =>
  (skipElementText? s).map fun rest => ((), rest)

/-- Reads what stands between the tags of an element, up to the closing one. -/
def children : Parser Tree := do
  let found ← sc.many do
    elementText
    if ← atMark "\x7b" then sc.braced
    else
      let (_, next) ← peekSecond
      require (!(next == .mark "/") && !(next == .mark "/="))
      sc.parse .element
  elementText
  sign '<'
  sc.closingTag
  pure (.group found)

/-- Reads an element. -/
def element : Parser Tree := do
  sign '<'
  if (← attempt (sign '>')).isSome then sc.children
  else
    sc.elementName
    if sc.dialect.typed && (← atMark "<") then sc.typeArguments
    let attributes ← sc.many sc.tagAttribute
    if ← markIf "/" then
      sign '>'
      pure (.group attributes)
    else
      sign '>'
      let inner ← sc.children
      pure (.group (attributes ++ [inner]))

end Scope

end SpokenIndex.Script
