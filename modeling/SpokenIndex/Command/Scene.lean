/-
Where the program runs.

A scene is all that the program can see: what surrounds it, an environment, what can be
read from its input and how wide the screen is that it prints on.  A scene can be written
down as a table.  Of its fields `directory` is the working directory, `folders` lists
folders, `files` has the text of each file under its path, `links` the target of each
link, `environment` the values of variables and `width` the number of cells in a line of
the screen; a field that is left out is empty, and the screen is 80 cells wide then.
-/
import SpokenIndex.Document.Value
import SpokenIndex.Index.Surroundings
import SpokenIndex.Settings.File

namespace SpokenIndex.Command

/-- What the program runs in. -/
structure Scene where
  world : Surroundings
  env : List (String × String)
  /-- What can be read from the input. -/
  input : String
  /-- How many cells a line of the screen has. -/
  screenWidth : Nat

namespace Scene

/-- Where settings are looked for. -/
def site (scene : Scene) : Settings.Site :=
  ⟨scene.world.disk, scene.world.workDir, scene.env⟩

/-! ### Scenes written down -/

/-- The texts among the entries of a field, with their names. -/
def entriesIn (v : Value) (field : String) : List (String × String) :=
  match v.field? field with
  | some (.table entries) => entries.filterMap fun
    | (.name name, .text s) => some (name, s)
    | _ => none
  | _ => []

/-- The texts among the items of a field. -/
def textsIn (v : Value) (field : String) : List String :=
  match v.field? field with
  | some (.list items) => items.filterMap fun | .text s => some s | _ => none
  | _ => []

/-- The working directory that is written down. -/
def directoryIn (v : Value) : String :=
  match v.field? "directory" with
  | some (.text path) => path
  | _ => "/"

/-- The width of the screen that is written down. -/
def widthIn (v : Value) : Nat :=
  match v.field? "width" with
  | some (.whole n) => n.toNat
  | _ => 80

/-- The disk that is written down. -/
def diskIn (v : Value) : Disk :=
  let disk := Disk.blank.makeFolder (directoryIn v)
  let disk := (textsIn v "folders").foldl Disk.makeFolder disk
  let disk := (entriesIn v "files").foldl (fun d (path, text) => d.write path text.toUTF8) disk
  (entriesIn v "links").foldl (fun d (path, target) => d.makeLink path target) disk

/-- The scene that a table writes down, with what can be read from the input. -/
def ofValue (v : Value) (input : String) : Scene :=
  let disk := diskIn v
  { world := { disk, workDir := disk.resolve (directoryIn v), clock := .zero }
    env := entriesIn v "environment"
    input
    screenWidth := widthIn v }

end Scene

end SpokenIndex.Command
