/-
Tables of TOML documents while they are written.

A document writes into one tree of tables.  Names on the way that are missing become
tables; where a list of tables is on the way, its last table is meant.  Which tables may
still be opened is remembered beside the tree: a table that has a header of its own, or
that was made by dots in a key of an earlier part, is closed to headers and dots, and
what stands in braces or brackets is closed to everything.
-/
import SpokenIndex.Document.Value

namespace SpokenIndex.Document.Toml

/-- The entries of a table. -/
abbrev Entries := List (Key × Value)

/-- Changes the entries of the table that a list of names leads to; `none` if something else
is on the way. -/
def changeAt (way : List String) (change : Entries → Option Entries) (entries : Entries) :
    Option Entries :=
  match way with
  | [] => change entries
  | name :: rest =>
    match Value.lookup name entries with
    | none =>
      (changeAt rest change []).map fun inner =>
        Value.setKey (.name name) (.table inner) entries
    | some (.table old) =>
      (changeAt rest change old).map fun inner =>
        Value.setKey (.name name) (.table inner) entries
    | some (.list items) =>
      match items.getLast? with
      | some (.table old) =>
        (changeAt rest change old).map fun inner =>
          Value.setKey (.name name) (.list (items.dropLast ++ [.table inner])) entries
      | _ => none
    | some _ => none

/-- Makes sure that there is a table where a list of names leads. -/
def openTable (way : List String) (entries : Entries) : Option Entries :=
  changeAt way some entries

/-- Writes an entry that is not there yet. -/
def writeNew (name : String) (v : Value) (entries : Entries) : Option Entries :=
  match Value.lookup name entries with
  | none => some (Value.setKey (.name name) v entries)
  | some _ => none

/-- Adds an empty table to a list of tables. -/
def addToList (name : String) (entries : Entries) : Option Entries :=
  match Value.lookup name entries with
  | none => some (Value.setKey (.name name) (.list [.table []]) entries)
  | some (.list items) =>
    some (Value.setKey (.name name) (.list (items ++ [.table []])) entries)
  | some _ => none

/-- A document while it is read. -/
structure Draft where
  entries : Entries
  /-- The ways of tables that are closed to headers and dots. -/
  closed : List (List String)
  /-- The ways of tables that will be closed so by the next header. -/
  closing : List (List String)
  /-- The ways beneath which nothing can be written. -/
  frozen : List (List String)
  /-- The way of the latest header. -/
  header : List String

namespace Draft

/-- The draft of an empty document. -/
def blank : Draft := ⟨[], [], [], [], []⟩

/-- Whether nothing can be written at a way. -/
def isFrozen (d : Draft) (way : List String) : Bool :=
  d.frozen.any fun f => f.isPrefixOf way

/-- Whether a table is closed to headers and dots. -/
def isClosed (d : Draft) (way : List String) : Bool :=
  d.closed.contains way

/-- The draft with what dots in keys made closed. -/
def settle (d : Draft) : Draft :=
  { d with closed := d.closing ++ d.closed, closing := [] }

/-- The draft behind the header of a table. -/
def beginTable? (way : List String) (d : Draft) : Option Draft :=
  let d := d.settle
  if d.isClosed way ∨ d.isFrozen way then none
  else
    (openTable way d.entries).map fun entries =>
      { d with entries := entries, closed := way :: d.closed, header := way }

/-- The draft behind the header of a further table of a list. -/
def beginItem? (way : List String) (d : Draft) : Option Draft :=
  let d := d.settle
  if d.isFrozen way then none
  else
    let open_ (ways : List (List String)) := ways.filter fun w => !way.isPrefixOf w
    (changeAt way.dropLast (addToList (way.getLast?.getD "")) d.entries).map fun entries =>
      { d with
        entries := entries
        closed := way :: open_ d.closed
        frozen := open_ d.frozen
        header := way }

/-- The ways of the tables that the dots of a key lead through. -/
def waysThrough (header key : List String) : List (List String) :=
  (List.range (key.length - 1)).map fun i => header ++ key.take (i + 1)

/-- Whether a value is written in braces or brackets. -/
def isBracketed : Value → Bool
  | .list _ => true
  | .table _ => true
  | _ => false

/-- The draft with an entry beneath the latest header. -/
def write? (key : List String) (v : Value) (d : Draft) : Option Draft :=
  let through := waysThrough d.header key
  let parent := d.header ++ key.dropLast
  if through.any d.isClosed ∨ d.isFrozen parent then none
  else
    (changeAt parent (writeNew (key.getLast?.getD "") v) d.entries).map fun entries =>
      { d with
        entries := entries
        closing := through ++ d.closing
        frozen := if isBracketed v then (d.header ++ key) :: d.frozen else d.frozen }

end Draft

end SpokenIndex.Document.Toml
