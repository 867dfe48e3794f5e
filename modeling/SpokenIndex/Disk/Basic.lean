/-
A disk and the questions that are asked of it.

A disk is its top folder, and some of its folders cannot be read.  A path is looked up
name by name, which needs no folder to be read; `..` goes to the real parent, and a
symbolic link is replaced by its target, at most forty times on one path.  A path that
ends in a slash names a folder only.  Looking up a path or reading a folder fails for
one of six causes, which are the causes that messages speak of.
-/
import SpokenIndex.Disk.Node
import SpokenIndex.Text.Quoted

namespace SpokenIndex

/-- Why a path leads nowhere, or not to what was asked for. -/
inductive Fault where
  | missing
  | forbidden
  | notFolder
  | isFolder
  | nameTooLong
  | linkLoop
  deriving DecidableEq, Repr

namespace Fault

/-- The number by which systems know the fault. -/
def number : Fault → Nat
  | missing => 2
  | forbidden => 13
  | notFolder => 20
  | isFolder => 21
  | nameTooLong => 36
  | linkLoop => 40

/-- The fault in words. -/
def words : Fault → String
  | missing => "No such file or directory"
  | forbidden => "Permission denied"
  | notFolder => "Not a directory"
  | isFolder => "Is a directory"
  | nameTooLong => "File name too long"
  | linkLoop => "Too many levels of symbolic links"

/-- The fault of a path as a message. -/
def message (fault : Fault) (path : String) : String :=
  "[Errno " ++ toString fault.number ++ "] " ++ fault.words ++ ": " ++ Text.quoted path

end Fault

/-- A disk, given by its top folder. -/
structure Disk where
  top : Node
  /-- The places of the folders that cannot be read, deepest name first. -/
  unreadable : List (List String) := []
  deriving Inhabited

namespace Disk

/-- The disk without any file. -/
def blank : Disk where
  top := .folder []

/-- Whether the folder at a place can be read. -/
def reads (disk : Disk) (place : List String) : Bool :=
  !disk.unreadable.contains place

/-! ### Looking up a path -/

/-- How many links one path may lead through. -/
def linkLimit : Nat := 40

/-- How many bytes a name may have. -/
def nameLimit : Nat := 255

/-- The pieces of a path, empty ones included. -/
def steps (path : String) : List String :=
  Text.fields '/' path

/-- The node at a place given by real names, deepest name first. -/
def at? (disk : Disk) (place : List String) : Option Node :=
  disk.top.descend place.reverse

/-- The place that a list of steps leads to from the real place `here`, deepest name first.
With `follow`, a link at the very end is followed too. -/
def locateFrom (disk : Disk) (follow : Bool) (links : Nat) (here : List String)
    (todo : List String) : Except Fault (List String) :=
  match todo with
  | [] => .ok here
  | name :: rest =>
    match disk.at? here with
    | none => .error .missing
    | some node =>
      if !node.isFolder then .error .notFolder
      else if name = "" ∨ name = "." then locateFrom disk follow links here rest
      else if name = ".." then locateFrom disk follow links here.tail rest
      else if name.utf8ByteSize > nameLimit then .error .nameTooLong
      else
        match Node.lookup name node.entries with
        | none => .error .missing
        | some (.link target) =>
          if rest.isEmpty && !follow then .ok (name :: here)
          else
            match links with
            | 0 => .error .linkLoop
            | links + 1 =>
              let start := if Text.startsWith "/" target then [] else here
              locateFrom disk follow links start (steps target ++ rest)
        | some _ => locateFrom disk follow links (name :: here) rest
termination_by (links, todo.length)

/-- The real place of an absolute path. -/
def locate (disk : Disk) (follow : Bool) (path : String) : Except Fault (List String) :=
  disk.locateFrom follow linkLimit [] (steps path)

/-- The node that an absolute path leads to, links followed. -/
def node? (disk : Disk) (path : String) : Except Fault Node :=
  match disk.locate true path with
  | .error fault => .error fault
  | .ok place =>
    match disk.at? place with
    | some node => .ok node
    | none => .error .missing

/-- Whether a path leads to anything. -/
def exists? (disk : Disk) (path : String) : Bool :=
  match disk.node? path with
  | .ok _ => true
  | .error _ => false

/-- Whether a path leads to a file. -/
def isFile (disk : Disk) (path : String) : Bool :=
  match disk.node? path with
  | .ok (.file _) => true
  | _ => false

/-- Whether a path leads to a folder. -/
def isFolder (disk : Disk) (path : String) : Bool :=
  match disk.node? path with
  | .ok (.folder _) => true
  | _ => false

/-- The bytes of a file. -/
def read (disk : Disk) (path : String) : Except Fault ByteArray :=
  match disk.node? path with
  | .ok (.file content) => .ok content
  | .ok _ => .error .isFolder
  | .error fault => .error fault

/-- The size that a folder reports. -/
def folderSize : Nat := 4096

/-- The size of a file or folder in bytes. -/
def size (disk : Disk) (path : String) : Except Fault Nat :=
  match disk.node? path with
  | .ok (.file content) => .ok content.size
  | .ok _ => .ok folderSize
  | .error fault => .error fault

/-! ### The real form of a path

Names that lead nowhere are kept, so every path has a real form; on the part that
exists, links are replaced by where they lead.  A link may lead through itself.  Then
there is no place that it stands for, and the path is left as written from there on.
-/

/-- One step as text: `..` goes up, whatever is there. -/
def stepWritten (here : List String) (name : String) : List String :=
  if name = "" ∨ name = "." then here
  else if name = ".." then here.tail
  else name :: here

/-- The components left after following `todo` from `here` as text.  If the text begins with a
slash, it begins at the top. -/
def writtenFrom (here todo : List String) : List String :=
  match todo with
  | "" :: next :: rest => (next :: rest).foldl stepWritten []
  | _ => todo.foldl stepWritten here

/-- The links of a disk that are not being followed. -/
def unopened (disk : Disk) (opened : List (List String)) : List (List String) :=
  (disk.top.linkPlaces []).filter fun place => place ∉ opened

/-- Following one more link leaves fewer to follow. -/
theorem unopened_cons_lt {disk : Disk} {opened : List (List String)} {place : List String}
    {target : String} (hlink : disk.at? place = some (.link target)) (hnew : place ∉ opened) :
    (disk.unopened (place :: opened)).length < (disk.unopened opened).length := by
  have hmem : place ∈ disk.unopened opened := by
    have hplace := Node.mem_linkPlaces [] hlink
    rw [List.reverse_reverse, List.append_nil] at hplace
    exact List.mem_filter.2 ⟨hplace, decide_eq_true hnew⟩
  have hfewer : disk.unopened (place :: opened)
      = (disk.unopened opened).filter fun other => other ≠ place := by
    rw [unopened, unopened, List.filter_filter]
    refine List.filter_congr fun other _ => ?_
    simp [List.mem_cons, not_or]
  rw [hfewer]
  exact List.length_filter_lt_length_iff_exists.2 ⟨place, hmem, by simp⟩

/-- The components left after following `todo` from `here`, deepest first; `opened` are the links
that are being followed.  It is an error to come back to one of these. -/
def resolveFrom (disk : Disk) (opened : List (List String)) (here : List String)
    (todo : List String) : Except (List String) (List String) :=
  match todo with
  | [] => .ok here
  | name :: rest =>
    if name = "" ∨ name = "." then resolveFrom disk opened here rest
    else if name = ".." then resolveFrom disk opened here.tail rest
    else
      match _hat : disk.at? (name :: here) with
      | some (.link target) =>
        if _hopened : name :: here ∈ opened then .error (writtenFrom (name :: here) rest)
        else
          let start := if Text.startsWith "/" target then [] else here
          match resolveFrom disk ((name :: here) :: opened) start (steps target) with
          | .error place => .error (writtenFrom place rest)
          | .ok place => resolveFrom disk opened place rest
      | _ => resolveFrom disk opened (name :: here) rest
termination_by ((disk.unopened opened).length, todo.length)
decreasing_by
  all_goals simp_wf
  · exact Prod.Lex.right _ (Nat.lt_succ_self _)
  · exact Prod.Lex.right _ (Nat.lt_succ_self _)
  · exact Prod.Lex.left _ _ (unopened_cons_lt _hat _hopened)
  · exact Prod.Lex.right _ (Nat.lt_succ_self _)
  · exact Prod.Lex.right _ (Nat.lt_succ_self _)

/-- The absolute path of a place given deepest name first. -/
def placePath (place : List String) : String :=
  "/" ++ "/".intercalate place.reverse

/-- The names of a path, with what stays where it is left out. -/
def namesOf (path : String) : List String :=
  (steps path).filter fun name => name ≠ "" && name ≠ "."

/-- The place of an absolute path with links followed, or the components left if one of them leads
through itself. -/
def realPlace (disk : Disk) (path : String) : Except (List String) (List String) :=
  disk.resolveFrom [] [] (namesOf path)

/-- The components of the real form of an absolute path, deepest first. -/
def realNames (disk : Disk) (path : String) : List String :=
  match disk.realPlace path with
  | .ok place => place
  | .error place => place

/-- The real form of an absolute path. -/
def resolve (disk : Disk) (path : String) : String :=
  placePath (disk.realNames path)

/-- Whether looking for the real form of a path comes to a name with a NUL character, which can
belong to nothing.  What is left as text behind a link that leads through itself is looked up only
in the end. -/
def meetsNul (disk : Disk) (path : String) : Bool :=
  let names := namesOf path
  let before := names.takeWhile fun name => !name.toList.contains '\x00'
  before.length < names.length &&
    match disk.resolveFrom [] [] before with
    | .ok _ => true
    | .error _ => (disk.resolve path).toList.contains '\x00'

/-! ### Changing a disk -/

/-- Puts a node where an absolute path leads, with the folders on the way. -/
def place (disk : Disk) (follow : Bool) (path : String) (node : Node) : Disk :=
  let target :=
    match disk.locate follow path with
    | .ok place => place
    | .error _ => disk.realNames path
  { disk with top := Node.put node target.reverse disk.top }

/-- Writes a file. -/
def write (disk : Disk) (path : String) (content : ByteArray) : Disk :=
  disk.place true path (.file content)

/-- Makes a folder, unless the path already leads to something. -/
def makeFolder (disk : Disk) (path : String) : Disk :=
  if disk.exists? path then disk else disk.place true path (.folder [])

/-- Makes a symbolic link. -/
def makeLink (disk : Disk) (path target : String) : Disk :=
  disk.place false path (.link target)

/-- Removes a file, a link or a whole folder, if the path leads to one. -/
def remove (disk : Disk) (path : String) : Disk :=
  match disk.locate false path with
  | .ok place => { disk with top := Node.remove place.reverse disk.top }
  | .error _ => disk

/-- Moves what a path leads to, replacing what was there. -/
def move (disk : Disk) (path target : String) : Disk :=
  match disk.locate false path with
  | .error _ => disk
  | .ok place =>
    match disk.at? place with
    | none => disk
    | some node => ((disk.remove path).remove target).place false target node

end Disk

end SpokenIndex
