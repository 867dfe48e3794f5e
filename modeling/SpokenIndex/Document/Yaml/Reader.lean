/-
From the nodes of a YAML document to its value.

A tag says of what kind a node is; without one, a plain scalar is of the kind that it
is written like, and any other scalar is a text.  In a mapping a key counts once, with
its first place and its last value.  The key `<<` takes in the entries of a mapping,
or of several, of which the first ones count most; they come before all others.
-/
import SpokenIndex.Document.Yaml.Node
import SpokenIndex.Document.Yaml.Plain

namespace SpokenIndex.Document.Yaml

/-- What the names of kinds begin with. -/
def kindNames : String := "tag:yaml.org,2002:"

/-- The kind of scalar that a tag tells. -/
def kindOfTag? (tag : String) : Option PlainKind :=
  [("null", PlainKind.null), ("bool", .truth), ("int", .whole), ("float", .fraction),
    ("timestamp", .moment), ("str", .text)].findSome? fun (name, kind) =>
      if tag == kindNames ++ name then some kind else none

/-- The kind of a scalar. -/
def scalarKind? (tag : Tag) (text : String) (plain : Bool) : Option PlainKind :=
  match tag with
  | none => some (if plain then plainKind text else .text)
  | some (start, suffix) =>
    if start ++ suffix == "!" then some (plainKind text) else kindOfTag? (start ++ suffix)

/-- Whether a tag, if there is one, tells a collection of the given name. -/
def tellsCollection (name : String) : Tag → Bool
  | none => true
  | some (start, suffix) => start ++ suffix == "!" || start ++ suffix == kindNames ++ name

/-- Whether a node is the key that takes in other mappings. -/
def isMergeKey : Node → Bool
  | .scalar tag text plain => scalarKind? tag text plain == some .merge
  | _ => false

/-- The value of a scalar. -/
def scalarValue? (tag : Tag) (text : String) (plain : Bool) : Option Value :=
  (scalarKind? tag text plain).bind fun kind => valueOf? kind text

/-- The value of a scalar as a key. -/
def keyOfNode? : Node → Option Key
  | .scalar tag text plain =>
    match scalarKind? tag text plain with
    | some .text => some (.name text)
    | some .default => some (.name text)
    | some kind => (valueOf? kind text).map fun _ => .nameless
    | none => none
  | _ => none

/-- The entries of a mapping. -/
def entriesOf? : Value → Option (List (Key × Value))
  | .table entries => some entries
  | _ => none

/-- The entries that a value gives where mappings are taken in. -/
def entriesTakenIn? : Value → Option (List (Key × Value))
  | .table entries => some entries
  | .list items =>
    (items.mapM entriesOf?).map fun tables => tables.reverse.flatten
  | _ => none

mutual

/-- The value of a node. -/
def valueOfNode? : Node → Option Value
  | .scalar tag text plain => scalarValue? tag text plain
  | .sequence tag items =>
    if tellsCollection "seq" tag then (valuesOfItems? items).map .list else none
  | .mapping tag entries =>
    if tellsCollection "map" tag then
      (valuesOfEntries? entries).map fun (taken, own) =>
        Value.table ((taken ++ own).foldl (fun es (k, v) => Value.setKey k v es) [])
    else none

/-- The values of the items of a sequence. -/
def valuesOfItems? : List Node → Option (List Value)
  | [] => some []
  | n :: rest =>
    match valueOfNode? n, valuesOfItems? rest with
    | some v, some vs => some (v :: vs)
    | _, _ => none

/-- The entries of a mapping: those taken in from others, and its own. -/
def valuesOfEntries? :
    List (Node × Node) → Option (List (Key × Value) × List (Key × Value))
  | [] => some ([], [])
  | (k, n) :: rest =>
    match valueOfNode? n, valuesOfEntries? rest with
    | some v, some (taken, own) =>
      if isMergeKey k then (entriesTakenIn? v).map fun more => (more ++ taken, own)
      else (keyOfNode? k).map fun key => (taken, (key, v) :: own)
    | _, _ => none

end

/-- The value of a document; an empty one is null. -/
def read? (text : String) : Option Value :=
  match node? text with
  | none => none
  | some none => some .null
  | some (some n) => valueOfNode? n

end SpokenIndex.Document.Yaml
