/-
Walking a folder.

A walk lists the files beneath a folder: first those directly in it, by name, and
then what the walks of its folders list, by the names of the folders.  A link that
leads to a folder is neither a file nor entered; any other link counts as a file,
wherever it leads.  Which folders are entered and which files are listed is up to the
walker.  A folder that cannot be read lists nothing; it is told of, and the walk goes on.

The walk is recursion on the tree of entries, so it ends on every disk.
-/
import SpokenIndex.Collection.Sorted
import SpokenIndex.Disk.Basic

namespace SpokenIndex

/-- What a walk enters and lists, each decided by the path and its last name. -/
structure Walker where
  enters : (path name : String) → Bool
  lists : (path : String) → Bool

/-- What a walk finds at an entry of a folder. -/
inductive Finding where
  | file (path : String)
  | folder (files : List String)
  deriving DecidableEq, Repr

namespace Finding

/-- The path of a file that was found. -/
def file? : Finding → Option String
  | .file path => some path
  | .folder _ => none

/-- The files that the walk of a folder listed. -/
def folderFiles : Finding → List String
  | .file _ => []
  | .folder files => files

end Finding

/-- Files first, then folders, each by name. -/
def assemble (findings : List (String × Finding)) : List String :=
  let byName := sortStable (fun a b => decide (a.1 ≤ b.1)) findings
  byName.filterMap (·.2.file?) ++ byName.flatMap (·.2.folderFiles)

namespace Disk

/-- Whether a link in the folder at `place` leads to a folder. -/
def leadsToFolder (disk : Disk) (place : List String) (target : String) : Bool :=
  let start := if Text.startsWith "/" target then [] else place
  match disk.locateFrom true (linkLimit - 1) start (steps target) with
  | .ok found => (disk.at? found).any Node.isFolder
  | .error _ => false

mutual

/-- The files that a walk lists beneath a node with the given path and real place. -/
def walkNode (disk : Disk) (w : Walker) : Node → (path : String) → (place : List String) →
    List String
  | .folder es, path, place =>
    if disk.reads place then assemble (walkEntries disk w es path place) else []
  | .file _, _, _ => []
  | .link _, _, _ => []

/-- What a walk finds among the entries of the folder with the given path and place. -/
def walkEntries (disk : Disk) (w : Walker) : List (String × Node) → (path : String) →
    (place : List String) → List (String × Finding)
  | [], _, _ => []
  | (name, .file _) :: rest, path, place =>
    let here := Path.join path name
    if w.lists here then (name, .file here) :: walkEntries disk w rest path place
    else walkEntries disk w rest path place
  | (name, .link target) :: rest, path, place =>
    let here := Path.join path name
    if !disk.leadsToFolder place target && w.lists here then
      (name, .file here) :: walkEntries disk w rest path place
    else walkEntries disk w rest path place
  | (name, .folder es) :: rest, path, place =>
    let here := Path.join path name
    if w.enters here name then
      (name, .folder (walkNode disk w (.folder es) here (name :: place)))
        :: walkEntries disk w rest path place
    else walkEntries disk w rest path place

end

/-- The files that a walk lists beneath an absolute path. -/
def walk (disk : Disk) (w : Walker) (path : String) : Except Fault (List String) :=
  match disk.locate true path with
  | .error fault => .error fault
  | .ok place =>
    match disk.at? place with
    | some (.folder es) =>
      if disk.reads place then .ok (disk.walkNode w (.folder es) path place)
      else .error .forbidden
    | some _ => .error .notFolder
    | none => .error .missing

mutual

/-- The folders at and beneath a node that a walk comes to and cannot read, in the order in which it
comes to them. -/
def unreadNode (disk : Disk) (w : Walker) : Node → (path : String) → (place : List String) →
    List String
  | .folder es, path, place =>
    if disk.reads place then
      (sortStable (fun a b => decide (a.1 ≤ b.1)) (unreadEntries disk w es path place)).flatMap
        (·.2)
    else [path]
  | .file _, _, _ => []
  | .link _, _, _ => []

/-- The same for the folders among the entries of a folder, by their names. -/
def unreadEntries (disk : Disk) (w : Walker) : List (String × Node) → (path : String) →
    (place : List String) → List (String × List String)
  | [], _, _ => []
  | (name, .folder es) :: rest, path, place =>
    let here := Path.join path name
    if w.enters here name then
      (name, unreadNode disk w (.folder es) here (name :: place))
        :: unreadEntries disk w rest path place
    else unreadEntries disk w rest path place
  | (_, .file _) :: rest, path, place => unreadEntries disk w rest path place
  | (_, .link _) :: rest, path, place => unreadEntries disk w rest path place

end

/-- The folders that a walk beneath an absolute path comes to and cannot read. -/
def unread (disk : Disk) (w : Walker) (path : String) : List String :=
  match disk.locate true path with
  | .error _ => []
  | .ok place => ((disk.at? place).map fun node => disk.unreadNode w node path place).getD []

end Disk

end SpokenIndex
