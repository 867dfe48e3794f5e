/-
The live index of a tree.

The index registers each tracked file under its lowercase base name and the lowercase
name without its extension, each folder between the file and the root under its
lowercase name, and each symbol that the file declares under the symbol's name.  A key
leads to the path registered last.  Entries of symbols belong to the file that declares
them and go when the file goes or changes.

A change of the tree is handled as it is reported, against the disk as it is at that
moment.  A created file is scanned and registered.  A deletion drops every entry at or
beneath the path and computes the folders afresh from a listing of the tree; if the
tree cannot be listed the folders stay.  A changed file has its symbols dropped and
scanned again.  Files that cannot be scanned have no symbols.

A relative path has a canonical form only as long as there is a working directory.
`handleCall` and `populate` say what is done with paths that have one, `answerCall` and
`establish` say also what becomes of paths that have none.

Work on a file is in two steps, `scan` and `register`, so that what happens between
them can be spoken of.
-/
import SpokenIndex.Index.Mappings
import SpokenIndex.Index.Surroundings
import SpokenIndex.Index.Tracking
import SpokenIndex.Settings.Basic
import SpokenIndex.Source.Extractor
import SpokenIndex.Source.Reading

namespace SpokenIndex

/-- What an index is made for: a tree, settings and an extractor. -/
structure IndexPlan where
  /-- The canonical path of the root. -/
  root : String
  /-- The real path of the root, which is listed and watched. -/
  watchRoot : String
  settings : IndexSettings
  extractor : Extractor

/-- The state of an index. -/
@[ext] structure IndexState where
  mappings : Mappings
  initialized : Bool
  subscribed : Bool

/-- The state of an index that was never initialized. -/
def IndexState.fresh : IndexState := ⟨.empty, false, false⟩

instance : Inhabited IndexState := ⟨.fresh⟩

namespace IndexPlan

/-- The plan of an index for a root, in the given surroundings. -/
def forRoot (world : Surroundings) (root : String) (settings : IndexSettings)
    (extractor : Extractor) : IndexPlan where
  root := Path.canonical world.workDir root
  watchRoot := world.disk.resolve root
  settings := settings
  extractor := extractor

/-- The files that are listed and watched. -/
def tracking (plan : IndexPlan) : Tracking :=
  ⟨plan.watchRoot, plan.settings.includeGlob, plan.settings.excludeGlob⟩

/-- Whether a file is indexed by name. -/
def isTracked (plan : IndexPlan) (path : String) : Bool :=
  plan.settings.trackedExtensions.contains (Text.lowercase (Path.extension path))

/-- Whether a file is scanned for symbols. -/
def isSource (plan : IndexPlan) (path : String) : Bool :=
  plan.settings.sourceExtensions.contains (Text.lowercase (Path.extension path))

/-! ### Scanning -/

/-- The language in which a file is scanned. -/
def languageOf (path : String) : Language :=
  (Language.ofPath? path).getD .javascript

/-- The symbols of a file, and what is to be reported. -/
def scan (plan : IndexPlan) (disk : Disk) (path : String) : List Symbol × Journal :=
  match disk.readSource (some (plan.settings.maxFileSizeKb * 1024)) path with
  | .error fault => ([], [.notice (.scanRefused path fault.message)])
  | .ok text =>
    let language := languageOf path
    match plan.extractor language text with
    | .ok declarations => (declarations.map (·.toSymbol path), [.scanned language])
    | .error (.refused reason) => ([], [.scanned language, .notice (.scanRefused path reason)])
    | .error (.crashed reason) =>
      ([], [.scanned language, .notice (.extractorCrashed path reason)])

/-- The symbols of a file that may be no source file. -/
def scanIfSource (plan : IndexPlan) (disk : Disk) (path : String) : List Symbol × Journal :=
  if plan.isSource path then plan.scan disk path else ([], [])

/-! ### Registering -/

/-- The folders that hold a path, deepest first, strictly below the root.  A climb that never meets
the root is never over; nothing is said of it here. -/
def foldersAbove (plan : IndexPlan) (path : String) : List String :=
  match Path.relative? path plan.root with
  | none => []
  | some _ =>
    ((Path.climb plan.root.toList (Path.parent path.toList)).getD []).map String.ofList

/-- The writes that register a file by name. -/
def fileWrites (path : String) : List (String × String) :=
  [(Text.lowercase (Path.baseName path), path), (Text.lowercase (Path.stem path), path)]

/-- The writes that register the folders of a file. -/
def folderWrites (plan : IndexPlan) (path : String) : List (String × String) :=
  (plan.foldersAbove path).map fun folder => (Text.lowercase (Path.baseName folder), folder)

/-- The writes that register symbols of one kind. -/
def symbolWrites (kind : SymbolKind) (symbols : List Symbol) : List (String × String) :=
  (symbols.filter (·.kind == kind)).map fun s => (s.name, s.owner)

/-- The mappings with symbols registered. -/
def registerSymbols (symbols : List Symbol) (m : Mappings) : Mappings :=
  { m with
    components := m.components.insertAll (symbolWrites .component symbols)
    functions := m.functions.insertAll (symbolWrites .function symbols) }

/-- The mappings with a file and its symbols registered. -/
def register (plan : IndexPlan) (path : String) (symbols : List Symbol) (m : Mappings) :
    Mappings :=
  registerSymbols symbols
    { m with
      files := m.files.insertAll (fileWrites path)
      folders := m.folders.insertAll (plan.folderWrites path) }

/-- The mappings without the symbols at or beneath a path. -/
def dropSymbols (path : String) (m : Mappings) : Mappings :=
  { m with
    components := m.components.removeWhere fun _ owner => Path.isAtOrBeneath path owner
    functions := m.functions.removeWhere fun _ owner => Path.isAtOrBeneath path owner }

/-- The mappings without the files and symbols at or beneath a path. -/
def dropPath (path : String) (m : Mappings) : Mappings :=
  dropSymbols path
    { m with files := m.files.removeWhere fun _ owner => Path.isAtOrBeneath path owner }

/-! ### One file -/

/-- Registers a scanned file if it still exists. -/
def registerExisting (plan : IndexPlan) (disk : Disk) (path : String) (symbols : List Symbol)
    (m : Mappings) : Mappings :=
  if disk.isFile path then plan.register path symbols m else m

/-- Registers a file of the bulk, if it is tracked and still exists. -/
def addListed (plan : IndexPlan) (disk : Disk) (path : String) (m : Mappings) :
    Mappings × Journal :=
  if plan.isTracked path then
    let (symbols, journal) := plan.scanIfSource disk path
    (plan.registerExisting disk path symbols m, journal)
  else (m, [])

/-- Registers a created file, if it is tracked. -/
def addCreated (plan : IndexPlan) (disk : Disk) (path : String) (m : Mappings) :
    Mappings × Journal :=
  if plan.isTracked path then
    let (symbols, journal) := plan.scanIfSource disk path
    (plan.register path symbols m, journal)
  else (m, [])

/-- Registers the files of the bulk in order. -/
def addBulk (plan : IndexPlan) (disk : Disk) (paths : List String) (m : Mappings) :
    Mappings × Journal :=
  paths.foldl (fun (m, journal) path =>
    let (m, more) := plan.addListed disk path m
    (m, journal ++ more)) (m, [])

/-! ### Folders -/

/-- The files of the tree, or why it cannot be listed. -/
def listTree (plan : IndexPlan) (world : Surroundings) : Except String (List String) :=
  match world.listRefusal with
  | some reason => .error reason
  | none => plan.tracking.enumerate world.disk

/-- The folders of the tracked files among those listed. -/
def foldersOf (plan : IndexPlan) (cwd : String) (paths : List String) : NameMap :=
  .ofList (((paths.map (Path.canonical cwd)).filter plan.isTracked).flatMap plan.folderWrites)

/-- What listing the tree reports. -/
def listReports (plan : IndexPlan) (world : Surroundings) : Journal :=
  if world.listRefusal.isSome then []
  else (plan.tracking.treeNotices world.disk).map .notice

/-- The mappings with the folders computed afresh, if the tree can be listed. -/
def rebuildFolders (plan : IndexPlan) (world : Surroundings) (m : Mappings) :
    Mappings × Journal :=
  match plan.listTree world with
  | .ok paths => ({ m with folders := plan.foldersOf world.workDir paths }, plan.listReports world)
  | .error reason => (m, [.notice (.rebuildFailed plan.root reason)])

/-! ### Changes of the tree -/

/-- Registers a file that was created. -/
def handleCreate (plan : IndexPlan) (world : Surroundings) (path : String) (s : IndexState) :
    IndexState × Journal :=
  let (m, journal) := plan.addCreated world.disk (Path.canonical world.workDir path) s.mappings
  ({ s with mappings := m }, journal)

/-- Drops a file or folder that was deleted. -/
def handleDelete (plan : IndexPlan) (world : Surroundings) (path : String) (s : IndexState) :
    IndexState × Journal :=
  let (m, journal) :=
    plan.rebuildFolders world (dropPath (Path.canonical world.workDir path) s.mappings)
  ({ s with mappings := m }, journal)

/-- Scans a source file that was changed. -/
def handleChange (plan : IndexPlan) (world : Surroundings) (path : String) (s : IndexState) :
    IndexState × Journal :=
  let path := Path.canonical world.workDir path
  if plan.isSource path then
    let (symbols, journal) := plan.scan world.disk path
    ({ s with mappings := registerSymbols symbols (dropSymbols path s.mappings) }, journal)
  else (s, [])

/-- Handles a call. -/
def handleCall (plan : IndexPlan) (world : Surroundings) (c : Call) (s : IndexState) :
    IndexState × Journal :=
  match c.kind with
  | .create => plan.handleCreate world c.path s
  | .delete => plan.handleDelete world c.path s
  | .change => plan.handleChange world c.path s

/-- Takes a call: what it answers, and what it leaves.  A path without a canonical form is reported
if it is one of a creation; the other two kinds of call fail with it. -/
def answerCall (plan : IndexPlan) (world : Surroundings) (c : Call) (s : IndexState) :
    Except String Unit × IndexState × Journal :=
  match world.pathRefusal c.path with
  | none => (.ok (), plan.handleCall world c s)
  | some reason =>
    match c.kind with
    | .create => (.ok (), s, [.notice (.creationFailed c.path reason)])
    | .delete | .change => (.error reason, s, [])

/-- Handles one thing that a change of the tree leads to; a call that fails is reported. -/
def handleDelivery (plan : IndexPlan) (world : Surroundings) (s : IndexState) :
    Delivery → IndexState × Journal
  | .call c =>
    match plan.answerCall world c s with
    | (.ok (), after) => after
    | (.error reason, s, journal) =>
      (s, journal ++ [.notice (.callFailed c.kind c.path reason)])
  | .notice n => (s, [.notice n])

/-- Handles what a change of the tree leads to, in order. -/
def handleDeliveries (plan : IndexPlan) (world : Surroundings) (s : IndexState)
    (ds : List Delivery) : IndexState × Journal :=
  ds.foldl (fun (s, journal) d =>
    let (s, more) := plan.handleDelivery world s d
    (s, journal ++ more)) (s, [])

/-- Takes a change of the tree; without a subscription it is not seen. -/
def observe (plan : IndexPlan) (world : Surroundings) (event : TreeEvent) (s : IndexState) :
    IndexState × Journal :=
  if s.subscribed then
    plan.handleDeliveries world s (plan.tracking.deliveries world.disk event)
  else (s, [])

/-! ### Life -/

/-- Clears the mappings; a subscription stays. -/
def reset (s : IndexState) : IndexState :=
  { s with mappings := .empty, initialized := false }

/-- Ends the subscription and clears the mappings. -/
def dispose (plan : IndexPlan) (s : IndexState) : IndexState × Journal :=
  ({ reset s with subscribed := false },
    if s.subscribed then unwatchEntries plan.watchRoot else [])

/-- Subscribes unless subscribed already: an observer is scheduled and then started, and either can
fail. -/
def subscribe (plan : IndexPlan) (world : Surroundings) (s : IndexState) :
    Except String IndexState × Journal :=
  if s.subscribed then (.ok s, [])
  else
    match world.watchRefusal, world.startRefusal with
    | some reason, _ => (.error reason, [])
    | none, some reason => (.error reason, [.watch .schedule plan.watchRoot])
    | none, none => (.ok { s with subscribed := true }, watchEntries plan.watchRoot)

/-- Gives up an initialization: all is released, and the reason is returned. -/
def abandon (plan : IndexPlan) (reason : String) (s : IndexState) (journal : Journal) :
    Except String Unit × IndexState × Journal :=
  let (s, more) := plan.dispose s
  (.error ("Cannot index " ++ plan.root ++ ": " ++ reason), s,
    journal ++ .notice (.initializeFailed plan.root reason) :: more)

/-- The files that an initialization begins with: those given, else those of the tree. -/
def bulkPaths (plan : IndexPlan) (world : Surroundings) :
    Option (List String) → Except String (List String)
  | some paths => .ok paths
  | none => plan.listTree world

/-- What finding these files reports. -/
def bulkReports (plan : IndexPlan) (world : Surroundings) : Option (List String) → Journal
  | some _ => []
  | none => plan.listReports world

/-- Subscribes and fills the mappings from the given files, or from a listing of the tree.  An
index that is initialized stays as it is. -/
def populate (plan : IndexPlan) (world : Surroundings) (bulk : Option (List String))
    (s : IndexState) : Except String Unit × IndexState × Journal :=
  if s.initialized then (.ok (), s, [])
  else
    match plan.subscribe world s with
    | (.error reason, journal) => plan.abandon reason s journal
    | (.ok s, journal) =>
      match plan.bulkPaths world bulk with
      | .error reason => plan.abandon reason s journal
      | .ok paths =>
        let (m, more) :=
          plan.addBulk world.disk (paths.map (Path.canonical world.workDir)) s.mappings
        (.ok (), { s with mappings := m, initialized := true },
          journal ++ plan.bulkReports world bulk ++ more)

/-- Why an index is not initialized. -/
inductive Failure where
  | notIndexed (message : String)
  | pathRefused (reason : String)
  deriving DecidableEq, Repr

/-- Initializes an index.  A path of the bulk that has no canonical form ends this when its turn
comes: the index stays subscribed and keeps the files before, but it is not initialized. -/
def establish (plan : IndexPlan) (world : Surroundings) (bulk : Option (List String))
    (s : IndexState) : Except Failure Unit × IndexState × Journal :=
  if s.initialized then (.ok (), s, [])
  else
    match bulk.bind world.firstRefusal with
    | none =>
      let (answer, after) := plan.populate world bulk s
      (answer.mapError .notIndexed, after)
    | some (before, reason) =>
      match plan.populate world (some before) s with
      | (.error message, after) => (.error (.notIndexed message), after)
      | (.ok (), s, journal) =>
        (.error (.pathRefused reason), { s with initialized := false }, journal)

/-! ### Questions -/

/-- The entries of a mapping whose value is a path. -/
def namesOf (map : NameMap) (path : String) : List String :=
  (map.entries.filter fun e => e.2 == path).map Prod.fst

/-- The symbols that are registered for a file. -/
def symbolsFor (cwd path : String) (s : IndexState) : List Symbol :=
  let path := Path.canonical cwd path
  (namesOf s.mappings.components path).map (fun name => ⟨name, .component, path⟩)
    ++ (namesOf s.mappings.functions path).map (fun name => ⟨name, .function, path⟩)

end IndexPlan

end SpokenIndex
