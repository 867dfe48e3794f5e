/-
Settings in the environment.

A variable whose name is a prefix followed by the name of a field, in any case, sets
that field.  For a group of settings its value is a JSON text, and a field of the
group can be set on its own: its name follows that of the group behind two
underscores.  A list is a JSON text as well.  A value that should be JSON and is not
makes the whole environment unusable; names that mean nothing are passed over.

Settings from code or from a file are laid over those from the environment, entry by
entry inside tables.
-/
import SpokenIndex.Collection.OrderedMap
import SpokenIndex.Document.Json
import SpokenIndex.Settings.Validate

namespace SpokenIndex.Settings

open SpokenIndex.Text

/-- What the name of every variable begins with. -/
def variablePrefix : String := "voxref_"

/-- What stands between the name of a group and the name of its field. -/
def nestingMark : List Char := ['_', '_']

/-- The variables of an environment with lowercase names; of equal names the last counts. -/
def normalVariables (env : List (String × String)) : OrderedMap String String :=
  .ofList (env.map fun (name, value) => (lowercase name, value))

/-- A group of settings: its name, and its fields with whether each is a list. -/
structure Group where
  name : String
  fields : List (String × Bool)

/-- The groups of settings. -/
def groups : List Group :=
  [⟨"index", [("include_glob", false), ("exclude_glob", false), ("tracked_extensions", true),
      ("source_extensions", true), ("max_file_size_kb", false)]⟩,
    ⟨"matcher", [("accept_threshold", false), ("min_token_length", false),
      ("function_min_length", false), ("stop_words", true)]⟩,
    ⟨"tree", [("cache_ttl_seconds", false), ("ignore_patterns", true)]⟩]

/-- The pieces of a text between marks of two underscores. -/
def nestingPieces : (fuel : Nat) → (done : List Char) → List Char → List String
  | 0, done, s => [String.ofList (done.reverse ++ s)]
  | _ + 1, done, [] => [String.ofList done.reverse]
  | fuel + 1, done, '_' :: '_' :: rest =>
    String.ofList done.reverse :: nestingPieces fuel [] rest
  | fuel + 1, done, c :: rest => nestingPieces fuel (c :: done) rest

/-- Whether two tables' entries at a name are both tables. -/
def asTable? : Value → Option (List (Key × Value))
  | .table entries => some entries
  | _ => none

/-- Sets a value at a way of names, making tables where there are none; a name on the way
that is set to something else stops it. -/
def setAlong : List String → Value → List (Key × Value) → List (Key × Value)
  | [], _, entries => entries
  | [name], v, entries => Value.setKey (.name name) v entries
  | name :: rest, v, entries =>
    match (Value.lookup name entries).getD (.table []) with
    | .table inner => Value.setKey (.name name) (.table (setAlong rest v inner)) entries
    | _ => entries

/-- The value that a variable gives to a field of a group, if it is usable. -/
def nestedValue? (group : Group) (way : List String) (value : String) : Option Value :=
  match way with
  | [name] =>
    if (group.fields.find? (·.1 == name)).any (·.2) && !value.isEmpty then
      Document.Json.read? value
    else some (.text value)
  | _ => some (.text value)

/-- The entries that single variables give to a group; `none` if one is unusable. -/
def nestedEntries? (group : Group) (vars : List (String × String)) :
    Option (List (Key × Value)) :=
  let start := (variablePrefix ++ group.name).toList ++ nestingMark
  vars.foldlM (fun entries (name, value) =>
    if start.isPrefixOf name.toList then
      let rest := name.toList.drop start.length
      let way := nestingPieces (rest.length + 1) [] rest
      (nestedValue? group way value).map fun v => setAlong way v entries
    else some entries) []

/-- Lays one table over another, entry by entry inside tables. -/
def overlay : (depth : Nat) → (top base : List (Key × Value)) → List (Key × Value)
  | 0, top, _ => top
  | depth + 1, top, base =>
    top.foldl (fun entries (key, v) =>
      match key, v with
      | .name name, .table inner =>
        match (Value.lookup name entries).bind asTable? with
        | some old => Value.setKey key (.table (overlay depth inner old)) entries
        | none => Value.setKey key v entries
      | _, _ => Value.setKey key v entries) base

/-- How deep tables are laid over each other. -/
def overlayDepth : Nat := 64

/-- The entries of a group with the names of its fields in their own case. -/
def fieldCase (group : Group) (entries : List (Key × Value)) : List (Key × Value) :=
  entries.foldl (fun done (key, v) =>
    match key with
    | .name name =>
      match group.fields.find? fun (field, _) => field == lowercase name with
      | some (field, _) => Value.setKey (.name field) v done
      | none => Value.setKey key v done
    | .nameless => Value.setKey key v done) []

/-- What an environment says of a group: nothing, a value, or something unusable. -/
def groupValue (vars : OrderedMap String String) (group : Group) :
    Except Unit (Option Value) :=
  let nested := nestedEntries? group vars.entries
  match vars.get? (variablePrefix ++ group.name) with
  | none =>
    match nested with
    | none => .error ()
    | some [] => .ok none
    | some entries => .ok (some (.table (fieldCase group entries)))
  | some text =>
    match Document.Json.read? text with
    | none => .error ()
    | some (.table entries) =>
      match nested with
      | none => .error ()
      | some top => .ok (some (.table (fieldCase group (overlay overlayDepth top entries))))
    | some .null => .ok none
    | some other => .ok (some other)

/-- The table of the settings in an environment, or the name of the group whose variables are
unusable. -/
def ofEnvironment (env : List (String × String)) : Except String (List (Key × Value)) :=
  let vars := normalVariables env
  let plain := ["project_root", "log_level"].filterMap fun name =>
    (vars.get? (variablePrefix ++ name)).map fun value => (Key.name name, Value.text value)
  groups.foldlM (fun entries group =>
    match groupValue vars group with
    | .error () => .error group.name
    | .ok none => .ok entries
    | .ok (some v) => .ok (entries ++ [(.name group.name, v)])) plain

/-! ### Both sources together -/

/-- Why an environment and a table together make no settings. -/
inductive SourceFault where
  /-- The variables of a group are unusable. -/
  | unusableGroup (name : String)
  /-- What they say together does not fit. -/
  | refused (refusal : Refusal)
  deriving DecidableEq, Repr

/-- The fault as a message. -/
def SourceFault.message : SourceFault → String
  | unusableGroup name =>
    "error parsing value for field \"" ++ name ++ "\" from source \"EnvSettingsSource\""
  | refused refusal => refusal.message

/-- The settings that a table makes when it is laid over an environment. -/
def ofSources (root : String → String) (here : String) (env : List (String × String))
    (entries : List (Key × Value)) : Except SourceFault SpokenIndex.Settings :=
  match ofEnvironment env with
  | .error name => .error (.unusableGroup name)
  | .ok base =>
    match ofTable root here (overlay overlayDepth entries base) with
    | .ok settings => .ok settings
    | .error refusal => .error (.refused refusal)

end SpokenIndex.Settings
