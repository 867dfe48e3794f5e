/-
The service: one tree, indexed and listed.

The service has an index, a matcher that reads it, a listing and a root, or lacks some of
these; it is up to what is done with it that it has all of them or none.  Making a tree
for another root releases the old one first, so the old root is no longer watched when the
new one begins to be.  If making it fails, nothing of it is held.  A root that cannot be
looked up is refused before anything is released: its links lead in a circle, it holds a
NUL character, or it is relative and there is no working directory.
-/
import SpokenIndex.Index.Store
import SpokenIndex.Listing
import SpokenIndex.Matching.Transcript

namespace SpokenIndex

/-- What the service is made for. -/
structure ServicePlan where
  settings : Settings
  extractor : Extractor

/-- An index at work. -/
structure LiveIndex where
  plan : IndexPlan
  state : IndexState

/-- A listing at work. -/
structure LiveListing where
  plan : ListingPlan
  cache : ListingCache

/-- The state of the service.  The matcher is known by its settings; it reads the index that the
service has. -/
structure ServiceState where
  index : Option LiveIndex
  matcher : Option MatcherSettings
  listing : Option LiveListing
  root : Option String

namespace ServiceState

/-- The service that has nothing. -/
def empty : ServiceState := ⟨none, none, none, none⟩

instance : Inhabited ServiceState := ⟨empty⟩

/-- Whether the service has an index that is initialized. -/
def initialized (s : ServiceState) : Bool :=
  s.index.any (·.state.initialized)

/-- The mappings of the index, empty if there is none. -/
def mappings (s : ServiceState) : Mappings :=
  (s.index.map (·.state.mappings)).getD .empty

end ServiceState

/-- Why the service gives no answer. -/
inductive ServiceFault where
  | linkLoop (path : String)
  | nulInPath
  | noWorkDir (reason : String)
  | notFolder (root : String)
  | indexFailed (reason : String)
  | noIndex
  | neverInitialized
  deriving DecidableEq, Repr

namespace ServiceFault

/-- The fault as a message. -/
def message : ServiceFault → String
  | linkLoop path => "Symlink loop from " ++ Text.quoted path
  | nulInPath => "embedded null byte"
  | noWorkDir reason => reason
  | notFolder root => "Tree root is not a directory: " ++ root
  | indexFailed reason => reason
  | noIndex => "Index is not available; call initialize() first"
  | neverInitialized => "Index has not been initialized"

end ServiceFault

namespace ServicePlan

/-- Releases what the service has. -/
def dispose (s : ServiceState) : ServiceState × Journal :=
  (.empty, (s.index.map fun live => (live.plan.dispose live.state).2).getD [])

/-- Makes a tree for a root.  If that fails the service has what it had. -/
def build (plan : ServicePlan) (world : Surroundings) (root : String) (s : ServiceState) :
    Except ServiceFault Unit × ServiceState × Journal :=
  if world.disk.isFolder root then
    let indexPlan := IndexPlan.forRoot world root plan.settings.index plan.extractor
    match indexPlan.populate world none .fresh with
    | (.error reason, _, journal) => (.error (.indexFailed reason), s, journal)
    | (.ok (), index, journal) =>
      let listing := ListingPlan.forRoots world.disk [root]
        plan.settings.listing.cacheSeconds plan.settings.listing.ignorePatterns
      (.ok (),
        ⟨some ⟨indexPlan, index⟩, some plan.settings.matcher, some ⟨listing, .none⟩, some root⟩,
        journal)
  else (.error (.notFolder root), s, [])

/-- The path of a root given by the caller, or of the root of the settings. -/
def givenPath (plan : ServicePlan) (root : Option String) : String :=
  root.getD plan.settings.projectRoot

/-- The absolute path of such a root. -/
def pathOf (plan : ServicePlan) (world : Surroundings) (root : Option String) : String :=
  String.ofList (Path.absolute world.workDir.toList (plan.givenPath root).toList)

/-- The real path of a root, unless it cannot be looked up. -/
def rootOf (plan : ServicePlan) (world : Surroundings) (root : Option String) :
    Except ServiceFault String :=
  if world.disk.meetsNul (plan.pathOf world root) then .error .nulInPath
  else
    match world.pathRefusal (plan.givenPath root) with
    | some reason => .error (.noWorkDir reason)
    | none =>
      let path := world.disk.resolve (plan.pathOf world root)
      match world.disk.node? path with
      | .error .linkLoop => .error (.linkLoop path)
      | _ => .ok path

/-- Releases what the service has and makes a tree for another root. -/
def replace (plan : ServicePlan) (world : Surroundings) (root : String) (s : ServiceState) :
    Except ServiceFault Unit × ServiceState × Journal :=
  let (s, released) := dispose s
  let (answer, s, journal) := plan.build world root s
  (answer, s, released ++ journal)

/-- Releases what the service has and makes a tree for the root that is given. -/
def switchRoot (plan : ServicePlan) (world : Surroundings) (root : String) (s : ServiceState) :
    Except ServiceFault Unit × ServiceState × Journal :=
  match plan.rootOf world (some root) with
  | .error fault => (.error fault, s, [])
  | .ok target => plan.replace world target s

/-- Makes a tree for a root, unless the service has an index that is initialized for that root.  An
index that it has otherwise is released first.  An empty root is none. -/
def start (plan : ServicePlan) (world : Surroundings) (root : Option String) (s : ServiceState) :
    Except ServiceFault Unit × ServiceState × Journal :=
  match plan.rootOf world (root.filter (· ≠ "")) with
  | .error fault => (.error fault, s, [])
  | .ok target =>
    match s.index with
    | none => plan.build world target s
    | some live =>
      if s.root = some target ∧ live.state.initialized then (.ok (), s, [])
      else plan.replace world target s

/-- Resolves a transcript. -/
def find (text : String) (s : ServiceState) : Except ServiceFault Matching.Resolution :=
  match s.matcher, s.index with
  | some settings, some live =>
    if live.state.initialized then
      .ok (Matching.resolve settings live.state.mappings text)
    else .error .noIndex
  | _, _ => .error .noIndex

/-- Takes a change of the tree. -/
def observe (world : Surroundings) (event : TreeEvent) (s : ServiceState) :
    ServiceState × Journal :=
  match s.index with
  | none => (s, [])
  | some live =>
    let (index, journal) := live.plan.observe world event live.state
    ({ s with index := some { live with state := index } }, journal)

/-- Makes a tree, resolves transcripts and releases the tree, also if making it fails. -/
def session (plan : ServicePlan) (world : Surroundings) (root : Option String)
    (texts : List String) (s : ServiceState) :
    Except ServiceFault (List Matching.Resolution) × ServiceState × Journal :=
  let (started, s, journal) := plan.start world root s
  let answer :=
    match started with
    | .ok () => texts.mapM fun text => find text s
    | .error fault => .error fault
  let (s, released) := dispose s
  (answer, s, journal ++ released)

/-- Asks something of the listing of the tree. -/
def withListing {α : Type} (s : ServiceState)
    (ask : ListingPlan → ListingCache → α × ListingCache × Journal) :
    Except ServiceFault α × ServiceState × Journal :=
  match s.listing with
  | none => (.error .neverInitialized, s, [])
  | some live =>
    let (answer, cache, journal) := ask live.plan live.cache
    (.ok answer, { s with listing := some { live with cache := cache } }, journal)

end ServicePlan

end SpokenIndex
