/-
Globs on paths relative to a root.

A glob is a pattern with brace groups and wildcards.  In front, `**/` stands for any
number of leading folders: since `*` crosses slashes, the pattern as it is written
already takes one or more, so only the reading without them is tried besides.  The
empty glob and the missing glob match nothing.

A folder is tested with a slash behind it, so that a glob for everything beneath a
folder also covers the folder.
-/
import SpokenIndex.Glob.Brace
import SpokenIndex.Glob.Wildcard

namespace SpokenIndex.Glob

open SpokenIndex.Text

/-- Whether a pattern without brace groups matches a relative path. -/
def matchesPlain (path : List Char) : (pattern : List Char) → Bool
  | '*' :: '*' :: '/' :: rest =>
    wildcardMatch ('*' :: '*' :: '/' :: rest) path || matchesPlain path rest
  | pattern => wildcardMatch pattern path

/-- Whether a glob matches a relative path. -/
def globMatch (glob path : List Char) : Bool :=
  !glob.isEmpty && (expand glob).any (matchesPlain path)

/-- Whether a glob, if there is one, matches a relative path. -/
def isMatch (glob : Option String) (path : String) : Bool :=
  match glob with
  | none => false
  | some glob => globMatch glob.toList path.toList

/-- Whether a glob covers a folder and so everything beneath it. -/
def coversFolder (glob : Option String) (path : String) : Bool :=
  isMatch glob (String.ofList (dropEndWhile (· == '/') path.toList ++ ['/']))

end SpokenIndex.Glob
