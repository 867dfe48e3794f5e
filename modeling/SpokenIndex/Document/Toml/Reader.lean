/-
Reading TOML documents, version 1.0.
-/
import SpokenIndex.Document.Toml.Scalar
import SpokenIndex.Document.Toml.Table

namespace SpokenIndex.Document.Toml

open SpokenIndex.Text SpokenIndex.Text.Reader

/-! ### Values -/

/-- Reads the items of a list behind its bracket; `found` are those before, latest first. -/
def listItems (value : Reader Value) : (limit : Nat) → (found : List Value) → Reader Value
  | 0, _ => failure
  | limit + 1, found => do
    skipLines limit
    if ← charIf ']' then pure (.list found.reverse)
    else
      let v ← value
      skipLines limit
      if ← charIf ',' then listItems value limit (v :: found)
      else
        char ']'
        pure (.list (v :: found).reverse)

/-- Reads a key, an equals sign and a value. -/
def keyAndValue (value : Reader Value) : Reader (List String × Value) := do
  let k ← key
  char '='
  skipBlanks
  return (k, ← value)

/-- Changes the table that names lead to; lists on the way are refused. -/
def changeInline (way : List String) (change : Entries → Option Entries) (entries : Entries) :
    Option Entries :=
  match way with
  | [] => change entries
  | name :: rest =>
    match Value.lookup name entries with
    | none =>
      (changeInline rest change []).map fun inner =>
        Value.setKey (.name name) (.table inner) entries
    | some (.table old) =>
      (changeInline rest change old).map fun inner =>
        Value.setKey (.name name) (.table inner) entries
    | some _ => none

/-- Reads the entries of a table in braces; `frozen` are the ways of those that were written
in brackets or braces themselves. -/
def inlineEntries (value : Reader Value) :
    (limit : Nat) → (frozen : List (List String)) → Entries → Reader Value
  | 0, _, _ => failure
  | limit + 1, frozen, entries => do
    let (k, v) ← keyAndValue value
    require (!frozen.any fun f => f.isPrefixOf k)
    match changeInline k.dropLast (writeNew (k.getLast?.getD "") v) entries with
    | none => failure
    | some entries =>
      skipBlanks
      if ← charIf '\x7d' then pure (.table entries)
      else
        char ','
        skipBlanks
        inlineEntries value limit (if Draft.isBracketed v then k :: frozen else frozen) entries

/-- Reads a value; `depth` bounds how deep lists and tables are in each other. -/
def value : (depth : Nat) → Reader Value
  | 0 => failure
  | depth + 1 => do
    let limit ← remaining
    match ← peek? with
    | some '"' =>
      if ← textIf ['"', '"', '"'] then return .text (← linesString '"')
      else return .text (← char '"' *> lineString '"')
    | some '\'' =>
      if ← textIf ['\'', '\'', '\''] then return .text (← linesString '\'')
      else return .text (← char '\'' *> lineString '\'')
    | some '[' =>
      char '['
      listItems (value depth) limit []
    | some '\x7b' =>
      char '\x7b'
      skipBlanks
      if ← charIf '\x7d' then pure (.table [])
      else inlineEntries (value depth) limit [] []
    | _ =>
      if ← textIf "true".toList then pure (.truth true)
      else if ← textIf "false".toList then pure (.truth false)
      else dateOrNumber

/-! ### Lines -/

/-- Reads a header, or a further table of a list. -/
def headerLine (d : Draft) : Reader Draft := do
  char '['
  let isItem ← charIf '['
  skipBlanks
  let way ← key
  char ']'
  if isItem then char ']'
  match if isItem then d.beginItem? way else d.beginTable? way with
  | some d => pure d
  | none => failure

/-- Reads an entry. -/
def entryLine (d : Draft) : Reader Draft := do
  let depth ← remaining
  let (k, v) ← keyAndValue (value depth)
  match d.write? k v with
  | some d => pure d
  | none => failure

/-- Reads what stands on a line besides blanks and a comment. -/
def lineContent (d : Draft) : Reader Draft := do
  match ← peek? with
  | none | some '\n' | some '#' => pure d
  | some '[' => headerLine d
  | some _ => entryLine d

/-- Reads lines to the end. -/
def allLines : (limit : Nat) → Draft → Reader Draft
  | 0, _ => failure
  | limit + 1, d => do
    skipBlanks
    let d ← lineContent d
    skipBlanks
    skipComment
    if ← atEnd then pure d
    else
      char '\n'
      allLines limit d

/-- A text with each pair of carriage return and line feed as a line feed. -/
def joinLineEnds : List Char → List Char
  | '\r' :: '\n' :: rest => '\n' :: joinLineEnds rest
  | c :: rest => c :: joinLineEnds rest
  | [] => []

/-- The table that a document denotes. -/
def read? (text : String) : Option Value :=
  let s := joinLineEnds text.toList
  match allLines (s.length + 1) .blank s with
  | some (d, []) => some (.table d.entries)
  | _ => none

end SpokenIndex.Document.Toml
