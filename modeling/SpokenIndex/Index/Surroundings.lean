/-
What the index works in.

The disk and the working directory are what they are at the moment of an operation;
the clock is read when files are listed.  Asking for the working directory, watching the
tree and listing it can be refused from outside, each with a reason; the working
directory is refused once it was removed.
-/
import SpokenIndex.Disk.Basic
import SpokenIndex.Number.Binary64

namespace SpokenIndex

/-- The state of the outside at the moment of an operation. -/
structure Surroundings where
  disk : Disk
  workDir : String
  clock : Binary64
  /-- Why there is no working directory, if so. -/
  workDirRefusal : Option String := none
  /-- Why no observer can be scheduled, if so. -/
  watchRefusal : Option String := none
  /-- Why an observer that was scheduled cannot be started, if so. -/
  startRefusal : Option String := none
  /-- Why the tree cannot be listed, if so. -/
  listRefusal : Option String := none

namespace Surroundings

/-- Why a path has no canonical form, if so: it is relative, and there is no working directory. -/
def pathRefusal (world : Surroundings) (path : String) : Option String :=
  if Text.startsWith "/" path then none else world.workDirRefusal

/-- The paths before the first of a list that has no canonical form, and why it has none, if there
is one. -/
def firstRefusal (world : Surroundings) : List String → Option (List String × String)
  | [] => none
  | path :: rest =>
    match world.pathRefusal path with
    | some reason => some ([], reason)
    | none => (world.firstRefusal rest).map fun (before, reason) => (path :: before, reason)

end Surroundings

end SpokenIndex
