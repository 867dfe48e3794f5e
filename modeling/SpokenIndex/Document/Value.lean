/-
Values of structured documents.

Settings come from documents in three formats, and each of them denotes one of these
values.  Whole numbers and fractional ones are told apart by how they are written,
not by their value.  The entries of a table are in the order in which their keys were
first written, each key once; a key that is no text can be written in one of the
formats and names nothing.  A `moment` is a date or a time, of which only its kind
matters.
-/
import SpokenIndex.Number.Binary64

namespace SpokenIndex

/-- A key of a table. -/
inductive Key where
  | name (text : String)
  | nameless
  deriving DecidableEq

/-- A value of a structured document. -/
inductive Value where
  | null
  | truth (value : Bool)
  | whole (value : Int)
  | fraction (value : Numeral)
  | text (value : String)
  | moment
  | list (items : List Value)
  | table (entries : List (Key × Value))

instance : Inhabited Value := ⟨.null⟩

namespace Value

/-- Writes an entry of a table: in place where the name is present, else at the end. -/
def setKey (key : Key) (value : Value) : List (Key × Value) → List (Key × Value)
  | [] => [(key, value)]
  | (k, old) :: rest =>
    if k = key ∧ key ≠ .nameless then (k, value) :: rest else (k, old) :: setKey key value rest

/-- The value of a name in a table's entries. -/
def lookup (name : String) : List (Key × Value) → Option Value
  | [] => none
  | (k, value) :: rest => if k = .name name then some value else lookup name rest

/-- The table of the given names. -/
def ofFields (fields : List (String × Value)) : Value :=
  .table (fields.map fun (name, value) => (.name name, value))

/-- The list of the given texts. -/
def ofTexts (texts : List String) : Value :=
  .list (texts.map .text)

/-- The entry of a name, for a value that is a table. -/
def field? (value : Value) (name : String) : Option Value :=
  match value with
  | .table entries => lookup name entries
  | _ => none

/-- Whether a value counts as nothing: null, false, zero, or an empty text, list or table. -/
def isVoid : Value → Bool
  | .null => true
  | .truth value => !value
  | .whole value => value == 0
  | .fraction (.finite value) => value.units == 0
  | .fraction _ => false
  | .text value => value.isEmpty
  | .moment => false
  | .list items => items.isEmpty
  | .table entries => entries.isEmpty

end Value

end SpokenIndex
