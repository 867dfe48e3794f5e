/-
What the index reports while it works.

Three things are written into a journal, in the order in which they happen: notices
of what went wrong, what was done with the observer that watches the tree, and in
which language a text was handed to the extractor.
-/
import SpokenIndex.Source.Language

namespace SpokenIndex

/-- The three kinds of call that a change of the tree makes. -/
inductive CallKind where
  | create
  | delete
  | change
  deriving DecidableEq, Repr

/-- The name of a kind of call. -/
def CallKind.label : CallKind → String
  | .create => "create"
  | .delete => "delete"
  | .change => "change"

/-- What went wrong. -/
inductive Notice where
  | scanRefused (path reason : String)
  | extractorCrashed (path reason : String)
  | folderUnreadable (path reason : String)
  | initializeFailed (root reason : String)
  | rebuildFailed (root reason : String)
  | creationFailed (path reason : String)
  | callFailed (kind : CallKind) (path reason : String)
  deriving DecidableEq, Repr

namespace Notice

/-- Whether a notice is an error or only a warning. -/
def isError : Notice → Bool
  | scanRefused _ _ => false
  | folderUnreadable _ _ => false
  | _ => true

/-- The headline of a notice. -/
def headline : Notice → String
  | scanRefused _ _ => "Error scanning file"
  | extractorCrashed _ _ => "Extractor failed"
  | folderUnreadable _ _ => "Error reading directory"
  | initializeFailed _ _ => "Error initializing index"
  | rebuildFailed _ _ => "Error rebuilding folder index"
  | creationFailed _ _ => "Error handling created file"
  | callFailed _ _ _ => "Error handling tree event"

/-- The details of a notice. -/
def details : Notice → List (String × String)
  | scanRefused path reason => [("path", path), ("error", reason)]
  | extractorCrashed path reason => [("path", path), ("error", reason)]
  | folderUnreadable path reason => [("path", path), ("error", reason)]
  | initializeFailed root reason => [("root", root), ("error", reason)]
  | rebuildFailed root reason => [("root", root), ("error", reason)]
  | creationFailed path reason => [("path", path), ("error", reason)]
  | callFailed kind path reason =>
    [("action", kind.label), ("path", path), ("error", reason)]

end Notice

/-- What is done with an observer. -/
inductive WatchAction where
  | schedule
  | start
  | stop
  | join
  deriving DecidableEq, Repr

/-- The name of an action. -/
def WatchAction.label : WatchAction → String
  | .schedule => "schedule"
  | .start => "start"
  | .stop => "stop"
  | .join => "join"

/-- An entry of a journal. -/
inductive Entry where
  | notice (n : Notice)
  | watch (action : WatchAction) (root : String)
  | scanned (language : Language)
  deriving DecidableEq, Repr

/-- What happened, first to last. -/
abbrev Journal := List Entry

namespace Journal

/-- The notices of a journal. -/
def notices (j : Journal) : List Notice :=
  j.filterMap fun | .notice n => some n | _ => none

/-- What was done with observers. -/
def watches (j : Journal) : List (WatchAction × String) :=
  j.filterMap fun | .watch action root => some (action, root) | _ => none

/-- The languages of the texts that were handed to the extractor. -/
def languages (j : Journal) : List Language :=
  j.filterMap fun | .scanned language => some language | _ => none

end Journal

/-- The entries of starting to watch a root. -/
def watchEntries (root : String) : Journal :=
  [.watch .schedule root, .watch .start root]

/-- The entries of ending to watch a root. -/
def unwatchEntries (root : String) : Journal :=
  [.watch .stop root, .watch .join root]

end SpokenIndex
