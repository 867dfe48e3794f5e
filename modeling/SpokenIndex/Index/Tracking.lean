/-
Which files of a tree are tracked, and what a change of the tree means for them.

A file is tracked if its path below the root matches the include glob and not the
exclude glob.  The same rule answers two questions: a listing of the tree passes over
excluded folders and keeps tracked files, and a change is passed on if it concerns a
tracked file.

A move is the deletion of its source and the creation of its target.  Deletions of
folders are always passed on, since what was beneath is gone and cannot be asked; the
files of a folder that was moved are looked up beneath the target.
-/
import SpokenIndex.Disk.Walk
import SpokenIndex.Glob.Basic
import SpokenIndex.Index.Journal

namespace SpokenIndex

/-- The files of a tree that are tracked. -/
structure Tracking where
  root : String
  includeGlob : String
  excludeGlob : Option String
  deriving DecidableEq, Repr

/-- A change of a tree, as an observer reports it. -/
inductive TreeEvent where
  | created (path : String) (isFolder : Bool)
  | modified (path : String) (isFolder : Bool)
  | deleted (path : String) (isFolder : Bool)
  | moved (path target : String) (isFolder : Bool)
  deriving DecidableEq, Repr

/-- A call that a change makes. -/
structure Call where
  kind : CallKind
  path : String
  deriving DecidableEq, Repr

/-- What a change leads to: calls, and notices in between. -/
inductive Delivery where
  | call (c : Call)
  | notice (n : Notice)
  deriving DecidableEq, Repr

namespace Tracking

/-- Whether a path is that of a tracked file. -/
def tracks (t : Tracking) (path : String) : Bool :=
  match Path.relative? path t.root with
  | none => false
  | some way => !Glob.isMatch t.excludeGlob way && Glob.isMatch (some t.includeGlob) way

/-- Whether a folder is passed over; outside the root its name alone is looked at. -/
def passesOver (t : Tracking) (path name : String) : Bool :=
  Glob.coversFolder t.excludeGlob ((Path.relative? path t.root).getD name)

/-- The walker that lists tracked files. -/
def walker (t : Tracking) : Walker where
  enters path name := !t.passesOver path name
  lists path := t.tracks path

/-- Whether a walk that begins at a folder is over at once. -/
def passesOverStart (t : Tracking) (start : String) : Bool :=
  (Path.relative? start t.root).any (Glob.coversFolder t.excludeGlob)

/-- What a listing of the tracked files beneath a folder tells of the folders beneath. -/
def noticesBeneath (t : Tracking) (disk : Disk) (start : String) : List Notice :=
  if t.passesOverStart start then []
  else
    (disk.unread t.walker start).map fun path =>
      .folderUnreadable path (Fault.message .forbidden path)

/-- The tracked files beneath a folder, or why it cannot be read. -/
def filesBeneath (t : Tracking) (disk : Disk) (start : String) : Except Notice (List String) :=
  match disk.walk t.walker start with
  | .error fault => .error (.folderUnreadable start (fault.message start))
  | .ok files => .ok (if t.passesOverStart start then [] else files)

/-- The tracked files of the tree; a root that is no folder is refused. -/
def enumerate (t : Tracking) (disk : Disk) : Except String (List String) :=
  if disk.isFolder t.root then
    match t.filesBeneath disk t.root with
    | .ok files => .ok files
    | .error _ => .ok []
  else .error ("Tree root not found: " ++ t.root)

/-- What a listing of the tree tells of its folders. -/
def treeNotices (t : Tracking) (disk : Disk) : List Notice :=
  match t.filesBeneath disk t.root with
  | .ok _ => t.noticesBeneath disk t.root
  | .error n => if disk.isFolder t.root then [n] else []

/-- A call if the path is tracked. -/
def callIfTracked (t : Tracking) (kind : CallKind) (path : String) : List Delivery :=
  if t.tracks path then [.call ⟨kind, path⟩] else []

/-- The creations of the files that a moved folder brought. -/
def arrivals (t : Tracking) (disk : Disk) (target : String) : List Delivery :=
  match t.filesBeneath disk target with
  | .ok files =>
    (t.noticesBeneath disk target).map .notice ++ files.map fun path => .call ⟨.create, path⟩
  | .error n => [.notice n]

/-- What a change leads to. -/
def deliveries (t : Tracking) (disk : Disk) : TreeEvent → List Delivery
  | .created path isFolder => if isFolder then [] else t.callIfTracked .create path
  | .modified path isFolder => if isFolder then [] else t.callIfTracked .change path
  | .deleted path isFolder =>
    if isFolder then [.call ⟨.delete, path⟩] else t.callIfTracked .delete path
  | .moved path target isFolder =>
    if isFolder then .call ⟨.delete, path⟩ :: t.arrivals disk target
    else t.callIfTracked .delete path ++ t.callIfTracked .create target

end Tracking

end SpokenIndex
