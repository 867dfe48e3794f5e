/-
Listings of all files under some roots.

Unlike the index, a listing holds every file that no ignore pattern matches, tracked
or not.  It is kept for a while: a listing that was made at a positive time less than
the lifetime ago is returned again, whatever happened to the disk since.
-/
import SpokenIndex.Disk.Walk
import SpokenIndex.Glob.Basic
import SpokenIndex.Index.Journal
import SpokenIndex.Index.Surroundings
import SpokenIndex.Settings.Validate

namespace SpokenIndex

/-- What is listed, and for how many seconds a listing is kept. -/
structure ListingPlan where
  roots : List String
  lifetime : Binary64
  ignorePatterns : List String
  deriving DecidableEq

/-- The listing that is kept, and when it was made; zero if there is none. -/
structure ListingCache where
  paths : List String
  madeAt : Binary64
  deriving DecidableEq

/-- Nothing is kept: the cache that holds no listing. -/
def ListingCache.none : ListingCache := ⟨[], .zero⟩

instance : Inhabited ListingCache := ⟨.none⟩

namespace ListingPlan

/-- The plan of a listing of the given roots, links resolved. -/
def forRoots (disk : Disk) (roots : List String) (lifetime : Binary64)
    (ignorePatterns : List String) : ListingPlan :=
  ⟨roots.map disk.resolve, lifetime, ignorePatterns⟩

/-- Whether a numeral is less than a number. -/
def numeralBelow (n : Numeral) (bound : Binary64) : Bool :=
  match n with
  | .finite x => x < bound
  | .infinite negative => negative
  | .notANumber => false

/-- Whether a kept listing may be returned at the given time. -/
def isFresh (plan : ListingPlan) (now : Binary64) (cache : ListingCache) : Bool :=
  .zero < cache.madeAt && numeralBelow (now.sub cache.madeAt) plan.lifetime

/-- Whether some ignore pattern matches a file. -/
def ignores (plan : ListingPlan) (way : String) : Bool :=
  plan.ignorePatterns.any fun p => Glob.isMatch (some p) way

/-- Whether some ignore pattern covers a folder. -/
def ignoresFolder (plan : ListingPlan) (way : String) : Bool :=
  plan.ignorePatterns.any fun p => Glob.coversFolder (some p) way

/-- The walker that lists what is not ignored below a root. -/
def walker (plan : ListingPlan) (root : String) : Walker where
  enters path name := !plan.ignoresFolder ((Path.relative? path root).getD name)
  lists path := !(Path.relative? path root).any plan.ignores

/-- The files beneath a root, and notices of it or of folders beneath that cannot be read. -/
def filesBeneath (plan : ListingPlan) (disk : Disk) (root : String) : List String × Journal :=
  match disk.walk (plan.walker root) root with
  | .ok files => (files, (disk.unread (plan.walker root) root).map fun path =>
      .notice (.folderUnreadable path (Fault.message .forbidden path)))
  | .error fault => ([], [.notice (.folderUnreadable root (fault.message root))])

/-- The files beneath all roots, root by root. -/
def allFiles (plan : ListingPlan) (disk : Disk) : List String × Journal :=
  plan.roots.foldl (fun (files, journal) root =>
    let (more, notices) := plan.filesBeneath disk root
    (files ++ more, journal ++ notices)) ([], [])

/-- The listing: the one that is kept if it is wanted and fresh, else a new one. -/
def list (plan : ListingPlan) (disk : Disk) (now : Binary64) (useCache : Bool)
    (cache : ListingCache) : List String × ListingCache × Journal :=
  if useCache && plan.isFresh now cache then (cache.paths, cache, [])
  else
    let (files, journal) := plan.allFiles disk
    (files, ⟨files, now⟩, journal)

/-- Whether a file of the listing has exactly the given base name. -/
def hasFile (plan : ListingPlan) (disk : Disk) (now : Binary64) (name : String)
    (cache : ListingCache) : Bool × ListingCache × Journal :=
  let (files, cache, journal) := plan.list disk now true cache
  (files.any fun path => Path.baseName path == name, cache, journal)

/-- The files of the listing whose base name is found by `finds`. -/
def search (plan : ListingPlan) (disk : Disk) (now : Binary64) (finds : String → Bool)
    (cache : ListingCache) : List String × ListingCache × Journal :=
  let (files, cache, journal) := plan.list disk now true cache
  (files.filter fun path => finds (Path.baseName path), cache, journal)

end ListingPlan

/-! ### Checking a list of paths -/

/-- What is said of a listing with an empty path. -/
def emptyPathText : String := "File path cannot be empty"

/-- Whether a list can be a listing: no path is empty. -/
def isListing (paths : List String) : Bool :=
  paths.all fun path => !path.isEmpty

/-- A listing from values: each is a text, and no path is empty. -/
def listingOfItems (items : List Value) : Settings.Checked (List String) :=
  let checked : Settings.Checked (List String) :=
    match Settings.textsOf (.list items) with
    | .ok paths => if isListing paths then .ok paths else .fail (.rejected emptyPathText)
    | .error ps => .error ps
  checked.inside (.field "paths")

end SpokenIndex
