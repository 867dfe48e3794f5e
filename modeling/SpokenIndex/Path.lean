/-
Paths as text.

A path is a string; its components are the non-empty pieces between slashes.  Two
forms matter.  The *canonical* form of a path is absolute, without empty pieces,
`.` or `..`: every path that the index holds has it, so two spellings of one place
meet in one key.  It begins with one slash, or with two if the path was written
with exactly two, which is a root of its own.  The *relative* form of a path under
a root is the way down from the root, and exists only for places strictly below it.

Nothing here looks at a disk: `..` is taken textually.
-/
import SpokenIndex.Text.Basic

namespace SpokenIndex.Path

open SpokenIndex.Text

/-! ### Components -/

/-- The non-empty pieces between slashes. -/
def pieces (s : List Char) : List (List Char) :=
  (splitAt '/' s).filter fun piece => !piece.isEmpty

/-- One step down or up: `.` stays, `..` goes up unless at the root, a name goes down.
The deepest component of `here` comes first. -/
def step (here : List (List Char)) (piece : List Char) : List (List Char) :=
  if piece = ['.'] then here
  else if piece = ['.', '.'] then here.tail
  else piece :: here

/-- The components of an absolute path, with `.` and `..` worked out. -/
def parts (s : List Char) : List (List Char) :=
  ((pieces s).foldl step []).reverse

/-- The slashes that an absolute path keeps in front: two if it was written with exactly
two, else one. -/
def leading : List Char → List Char
  | '/' :: '/' :: '/' :: _ => ['/']
  | '/' :: '/' :: _ => ['/', '/']
  | _ => ['/']

/-- The text of a path with the given leading slashes and components. -/
def render (slashes : List Char) (components : List (List Char)) : List Char :=
  slashes ++ joinWith ['/'] components

/-- The path itself if it is absolute, else the path below `cwd`. -/
def absolute (cwd path : List Char) : List Char :=
  match path with
  | '/' :: _ => path
  | _ => if cwd.getLast? = some '/' then cwd ++ path else cwd ++ '/' :: path

/-- Absolute and without empty components, `.` or `..`. -/
def normal (path : List Char) : List Char :=
  render (leading path) (parts path)

/-- Without empty components and `.`; `..` is kept, and a relative path stays relative. -/
def tidy (path : List Char) : List Char :=
  let kept := (pieces path).filter (· != ['.'])
  match path with
  | '/' :: _ => render (leading path) kept
  | _ => if kept.isEmpty then ['.'] else joinWith ['/'] kept

/-! ### The way from a root to a path -/

/-- How many components two lists share at the front. -/
def sharedLength : List (List Char) → List (List Char) → Nat
  | a :: as, b :: bs => if a = b then sharedLength as bs + 1 else 0
  | _, _ => 0

/-- The way from one place to another: up to what they share, then down. -/
def wayBetween (start target : List (List Char)) : List (List Char) :=
  let shared := sharedLength start target
  List.replicate (start.length - shared) ['.', '.'] ++ target.drop shared

/-- The way from an absolute root to an absolute path, as text; `.` if there is none to go. -/
def wayText (root path : List Char) : List Char :=
  match wayBetween (parts root) (parts path) with
  | [] => ['.']
  | way => joinWith ['/'] way

/-- Whether a way leads nowhere or begins by going up. -/
def leavesRoot (way : List Char) : Bool :=
  way == ['.'] || way == ['.', '.'] || ['.', '.', '/'].isPrefixOf way

/-- The way down from an absolute root to an absolute path, if the path lies strictly
below the root. -/
def below? (root path : List Char) : Option (List Char) :=
  let way := wayText root path
  if leavesRoot way then none else some way

/-! ### Names and folders -/

/-- What follows the last slash. -/
def base (path : List Char) : List Char :=
  (path.reverse.takeWhile (· ≠ '/')).reverse

/-- What precedes the last component, without slashes at its end unless it is only slashes. -/
def parent (path : List Char) : List Char :=
  let head := (path.reverse.dropWhile (· ≠ '/')).reverse
  if head.all (· == '/') then head else dropEndWhile (· == '/') head

/-- A path begins with its parent. -/
theorem parent_begins (path : List Char) : parent path <+: path := by
  have hhead : (path.reverse.dropWhile (· ≠ '/')).reverse <+: path := by
    rw [← List.reverse_suffix, List.reverse_reverse]
    exact List.dropWhile_suffix _
  unfold parent
  simp only
  split
  · exact hhead
  · refine List.IsPrefix.trans ?_ hhead
    rw [dropEndWhile, ← List.reverse_suffix, List.reverse_reverse]
    exact List.dropWhile_suffix _

/-- A base name cut before its last dot.  Dots at the front begin no extension. -/
def splitExtension (name : List Char) : List Char × List Char :=
  match name.reverse.dropWhile (· ≠ '.') with
  | [] => (name, [])
  | _ :: before =>
    if before.all (· == '.') then (name, [])
    else (before.reverse, name.drop before.length)

/-- The folders above a folder, itself first, up to but without `root`; `none` if the climb
never meets the root, which happens only where the two disagree on their leading slashes. -/
def climb (root folder : List Char) : Option (List (List Char)) :=
  if folder = [] ∨ folder = root then some []
  else if (parent folder).length < folder.length then
    (climb root (parent folder)).map (folder :: ·)
  else none
termination_by folder.length

/-- The part of a base name from its last dot on, unless that is its first or last
character. -/
def suffix (name : List Char) : List Char :=
  let tail := (name.reverse.takeWhile (· ≠ '.')).reverse
  if tail = [] ∨ name.length ≤ tail.length + 1 then [] else '.' :: tail

/-- `name` in the folder `dir`. -/
def child (dir name : List Char) : List Char :=
  match name with
  | '/' :: _ => name
  | _ => if dir = [] ∨ dir.getLast? = some '/' then dir ++ name else dir ++ '/' :: name

/-! ### On strings -/

/-- The canonical form of a path, relative ones being taken below `cwd`. -/
def canonical (cwd path : String) : String :=
  String.ofList (normal (absolute cwd.toList path.toList))

/-- The way down from one absolute path to another, if it lies strictly below. -/
def relative? (path root : String) : Option String :=
  (below? root.toList path.toList).map String.ofList

/-- `relative?` for paths that may be relative to `cwd`; the empty path has none. -/
def relativeIn? (cwd path root : String) : Option String :=
  if path.isEmpty then none
  else
    (below? (absolute cwd.toList root.toList) (absolute cwd.toList path.toList)).map String.ofList

/-- The last component. -/
def baseName (path : String) : String :=
  String.ofList (base path.toList)

/-- The base name without its extension. -/
def stem (path : String) : String :=
  String.ofList (splitExtension (base path.toList)).1

/-- The extension with its dot, empty if there is none. -/
def extension (path : String) : String :=
  String.ofList (splitExtension (base path.toList)).2

/-- The folder that holds a path. -/
def folder (path : String) : String :=
  String.ofList (parent path.toList)

/-- `name` in the folder `dir`. -/
def join (dir name : String) : String :=
  String.ofList (child dir.toList name.toList)

/-- Whether `path` is `owner` or lies beneath it. -/
def isAtOrBeneath (owner path : String) : Bool :=
  path == owner || (owner.toList ++ ['/']).isPrefixOf path.toList

end SpokenIndex.Path
