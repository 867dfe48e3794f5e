/-
What an initialization puts into the mappings.

The files of the bulk are registered one after another, and those that are not tracked or
no longer exist are passed over (`admitted`).  So each mapping is the outcome of one
sequence of writes, made of the writes of the admitted files in the order of the bulk.
An index that was empty then holds nothing but these.
-/
import SpokenIndex.Proofs.Handlers
import SpokenIndex.Proofs.Tracking

namespace SpokenIndex

/-- The tree can be watched: an observer can be scheduled and then started. -/
def Surroundings.CanWatch (world : Surroundings) : Prop :=
  world.watchRefusal = none ∧ world.startRefusal = none

namespace IndexPlan

open Disk

variable {plan : IndexPlan} {world : Surroundings} {disk : Disk} {m : Mappings}
  {s after : IndexState} {journal : Journal} {kind : SymbolKind} {paths : List String}
  {path : String} {e : String × String}

/-! ### A bulk of files -/

/-- The files of a bulk that are registered. -/
def admitted (plan : IndexPlan) (disk : Disk) (paths : List String) : List String :=
  paths.filter fun path => plan.isTracked path && disk.isFile path

theorem mem_admitted :
    path ∈ plan.admitted disk paths ↔
      path ∈ paths ∧ plan.isTracked path = true ∧ disk.isFile path = true := by
  rw [admitted, List.mem_filter, Bool.and_eq_true]

theorem register_files (plan : IndexPlan) (path : String) (symbols : List Symbol) (m : Mappings) :
    (plan.register path symbols m).files = m.files.insertAll (fileWrites path) := by
  rw [register, registerSymbols]

theorem register_folders (plan : IndexPlan) (path : String) (symbols : List Symbol)
    (m : Mappings) :
    (plan.register path symbols m).folders = m.folders.insertAll (plan.folderWrites path) := by
  rw [register, registerSymbols]

/-- The mappings with files scanned and registered one after another. -/
def registerAll (plan : IndexPlan) (disk : Disk) (paths : List String) (m : Mappings) : Mappings :=
  paths.foldl (fun m path => plan.register path (plan.scanIfSource disk path).1 m) m

theorem registerAll_cons :
    plan.registerAll disk (path :: paths) m
      = plan.registerAll disk paths (plan.register path (plan.scanIfSource disk path).1 m) := rfl

theorem registerAll_files :
    (plan.registerAll disk paths m).files = m.files.insertAll (paths.flatMap fileWrites) := by
  induction paths generalizing m with
  | nil => rfl
  | cons path rest ih =>
      rw [registerAll_cons, ih, List.flatMap_cons, OrderedMap.insertAll_append, register_files]

theorem registerAll_folders :
    (plan.registerAll disk paths m).folders
      = m.folders.insertAll (paths.flatMap plan.folderWrites) := by
  induction paths generalizing m with
  | nil => rfl
  | cons path rest ih =>
      rw [registerAll_cons, ih, List.flatMap_cons, OrderedMap.insertAll_append, register_folders]

theorem registerAll_symbolsOf :
    (plan.registerAll disk paths m).symbolsOf kind
      = (m.symbolsOf kind).insertAll (paths.flatMap fun path =>
          symbolWrites kind (plan.scanIfSource disk path).1) := by
  induction paths generalizing m with
  | nil => rfl
  | cons path rest ih =>
      rw [registerAll_cons, ih, List.flatMap_cons, OrderedMap.insertAll_append,
        register_symbolsOf]

theorem addListed_fst :
    (plan.addListed disk path m).1 =
      if plan.isTracked path && disk.isFile path then
        plan.register path (plan.scanIfSource disk path).1 m
      else m := by
  rw [addListed]
  by_cases htracked : plan.isTracked path = true
  · simp only [htracked, ↓reduceIte, Bool.true_and]
    rfl
  · simp only [htracked, ↓reduceIte, Bool.false_and, Bool.false_eq_true]

theorem addBulk_fst :
    (plan.addBulk disk paths m).1 =
      (plan.admitted disk paths).foldl
        (fun m path => plan.register path (plan.scanIfSource disk path).1 m) m := by
  unfold addBulk
  generalize ([] : Journal) = journal
  induction paths generalizing m journal with
  | nil => rfl
  | cons path rest ih =>
      rw [List.foldl_cons, ih, addListed_fst, admitted, admitted, List.filter_cons]
      split <;> rfl

theorem addBulk_files :
    (plan.addBulk disk paths m).1.files
      = m.files.insertAll ((plan.admitted disk paths).flatMap fileWrites) := by
  rw [addBulk_fst]
  exact registerAll_files

theorem addBulk_folders :
    (plan.addBulk disk paths m).1.folders
      = m.folders.insertAll ((plan.admitted disk paths).flatMap plan.folderWrites) := by
  rw [addBulk_fst]
  exact registerAll_folders

theorem addBulk_symbolsOf :
    (plan.addBulk disk paths m).1.symbolsOf kind
      = (m.symbolsOf kind).insertAll ((plan.admitted disk paths).flatMap fun path =>
          symbolWrites kind (plan.scanIfSource disk path).1) := by
  rw [addBulk_fst]
  exact registerAll_symbolsOf

/-! ### Initialization -/

/-- Beginning to watch the tree fails, and what was done with the observer until then. -/
def WatchFails (plan : IndexPlan) (world : Surroundings) (reason : String) (tried : Journal) :
    Prop :=
  (world.watchRefusal = some reason ∧ tried = []) ∨
    (world.watchRefusal = none ∧ world.startRefusal = some reason ∧
      tried = [.watch .schedule plan.watchRoot])

theorem WatchFails.not_canWatch {reason : String} {tried : Journal}
    (h : plan.WatchFails world reason tried) : ¬ world.CanWatch := by
  rintro ⟨hwatch, hstart⟩
  rcases h with ⟨hrefused, -⟩ | ⟨-, hrefused, -⟩
  · simp [hwatch] at hrefused
  · simp [hstart] at hrefused

/-- All that subscribing can come to. -/
theorem subscribe_cases (plan : IndexPlan) (world : Surroundings) (s : IndexState) :
    (s.subscribed = true ∧ plan.subscribe world s = (.ok s, [])) ∨
    (s.subscribed = false ∧ ∃ reason tried, plan.WatchFails world reason tried ∧
      plan.subscribe world s = (.error reason, tried)) ∨
    (s.subscribed = false ∧ world.CanWatch ∧
      plan.subscribe world s
        = (.ok { s with subscribed := true }, watchEntries plan.watchRoot)) := by
  by_cases hsubscribed : s.subscribed = true
  · exact Or.inl ⟨hsubscribed, if_pos hsubscribed⟩
  · refine Or.inr ?_
    have hnot : s.subscribed = false := by simpa using hsubscribed
    rw [subscribe, if_neg hsubscribed]
    cases hwatch : world.watchRefusal with
    | some reason => exact Or.inl ⟨hnot, reason, [], Or.inl ⟨hwatch, rfl⟩, rfl⟩
    | none =>
        cases hstart : world.startRefusal with
        | some reason => exact Or.inl ⟨hnot, reason, _, Or.inr ⟨hwatch, hstart, rfl⟩, rfl⟩
        | none => exact Or.inr ⟨hnot, ⟨hwatch, hstart⟩, rfl⟩

theorem subscribe_mappings {subscribed : IndexState}
    (h : plan.subscribe world s = (.ok subscribed, journal)) :
    subscribed.mappings = s.mappings := by
  rcases subscribe_cases plan world s with
    ⟨-, heq⟩ | ⟨-, reason, tried, -, heq⟩ | ⟨-, -, heq⟩
  · obtain ⟨hok, -⟩ := Prod.mk.inj (heq.symm.trans h)
    rw [← Except.ok.inj hok]
  · rw [heq] at h
    simp at h
  · obtain ⟨hok, -⟩ := Prod.mk.inj (heq.symm.trans h)
    rw [← Except.ok.inj hok]

theorem subscribe_ok (plan : IndexPlan) (s : IndexState) (hwatch : world.CanWatch) :
    ∃ subscribed journal, plan.subscribe world s = (.ok subscribed, journal) := by
  rcases subscribe_cases plan world s with
    ⟨-, heq⟩ | ⟨-, reason, tried, hfails, -⟩ | ⟨-, -, heq⟩
  · exact ⟨_, _, heq⟩
  · exact absurd hwatch hfails.not_canWatch
  · exact ⟨_, _, heq⟩

theorem populate_eq {bulk : Option (List String)} {subscribed : IndexState}
    (hnew : s.initialized = false) (h : plan.subscribe world s = (.ok subscribed, journal)) :
    plan.populate world bulk s =
      match plan.bulkPaths world bulk with
      | .error reason => plan.abandon reason subscribed journal
      | .ok paths =>
        let (m, more) := plan.addBulk world.disk (paths.map (Path.canonical world.workDir))
          subscribed.mappings
        (.ok (), { subscribed with mappings := m, initialized := true },
          journal ++ plan.bulkReports world bulk ++ more) := by
  rewrite [populate, hnew, h]
  rfl

/-- An initialization fails if the tree cannot be watched. -/
theorem populate_of_refused {bulk : Option (List String)} {reason : String}
    (hnew : s.initialized = false) (h : plan.subscribe world s = (.error reason, journal)) :
    plan.populate world bulk s = plan.abandon reason s journal := by
  unfold populate
  simp only [hnew, Bool.false_eq_true, ↓reduceIte, h]

/-- All that an initialization can come to: the index was initialized before, it cannot be watched,
its bulk is not known, or the bulk is registered. -/
theorem populate_cases (plan : IndexPlan) (world : Surroundings) (bulk : Option (List String))
    (s : IndexState) :
    (s.initialized = true ∧ plan.populate world bulk s = (.ok (), s, [])) ∨
    (s.initialized = false ∧ s.subscribed = false ∧ ∃ reason tried,
      plan.WatchFails world reason tried ∧
        plan.populate world bulk s = plan.abandon reason s tried) ∨
    (s.initialized = false ∧ (s.subscribed = true ∨ world.CanWatch) ∧
      let watching := if s.subscribed then [] else watchEntries plan.watchRoot
      (∃ reason, plan.bulkPaths world bulk = .error reason ∧
        plan.populate world bulk s
          = plan.abandon reason { s with subscribed := true } watching) ∨
      ∃ paths, plan.bulkPaths world bulk = .ok paths ∧
        let added := plan.addBulk world.disk (paths.map (Path.canonical world.workDir)) s.mappings
        plan.populate world bulk s = (.ok (), ⟨added.1, true, true⟩,
          watching ++ plan.bulkReports world bulk ++ added.2)) := by
  obtain ⟨mappings, initialized, subscribed⟩ := s
  cases initialized with
  | true => exact Or.inl ⟨rfl, rfl⟩
  | false =>
      refine Or.inr ?_
      have hbulk : ∀ watching, plan.subscribe world ⟨mappings, false, subscribed⟩
            = (.ok ⟨mappings, false, true⟩, watching) →
          (∃ reason, plan.bulkPaths world bulk = .error reason ∧
            plan.populate world bulk ⟨mappings, false, subscribed⟩
              = plan.abandon reason ⟨mappings, false, true⟩ watching) ∨
          ∃ paths, plan.bulkPaths world bulk = .ok paths ∧
            let added := plan.addBulk world.disk (paths.map (Path.canonical world.workDir)) mappings
            plan.populate world bulk ⟨mappings, false, subscribed⟩
              = (.ok (), ⟨added.1, true, true⟩,
                  watching ++ plan.bulkReports world bulk ++ added.2) := by
        intro watching hsubscribe
        rw [populate_eq rfl hsubscribe]
        cases hpaths : plan.bulkPaths world bulk with
        | error reason => exact Or.inl ⟨reason, rfl, rfl⟩
        | ok paths => exact Or.inr ⟨paths, rfl, rfl⟩
      rcases subscribe_cases plan world ⟨mappings, false, subscribed⟩ with
        ⟨hsubscribed, heq⟩ | ⟨hsubscribed, reason, tried, hfails, heq⟩ | ⟨hsubscribed, hwatch, heq⟩
      · obtain rfl : subscribed = true := hsubscribed
        exact Or.inr ⟨rfl, Or.inl rfl, hbulk [] heq⟩
      · exact Or.inl ⟨rfl, hsubscribed, reason, tried, hfails, populate_of_refused rfl heq⟩
      · obtain rfl : subscribed = false := hsubscribed
        exact Or.inr ⟨rfl, Or.inr hwatch, hbulk (watchEntries plan.watchRoot) heq⟩

/-- An initialization that succeeds has registered its bulk. -/
theorem mappings_of_populate {bulk : Option (List String)} (hnew : s.initialized = false)
    (h : plan.populate world bulk s = (.ok (), after, journal)) :
    ∃ paths, plan.bulkPaths world bulk = .ok paths ∧
      after.mappings = (plan.addBulk world.disk
        (paths.map (Path.canonical world.workDir)) s.mappings).1 := by
  rcases hsubscribe : plan.subscribe world s with ⟨answer, watching⟩
  cases answer with
  | error reason =>
      rw [populate_of_refused hnew hsubscribe, abandon] at h
      simp at h
  | ok subscribed =>
      rw [populate_eq hnew hsubscribe] at h
      cases hpaths : plan.bulkPaths world bulk with
      | error reason => simp [hpaths, abandon] at h
      | ok paths =>
          refine ⟨paths, rfl, ?_⟩
          simp only [hpaths, Prod.mk.injEq, true_and] at h
          rw [← h.1, subscribe_mappings hsubscribe]

/-- An initialization succeeds if the tree can be watched and its bulk is known. -/
theorem populate_ok (plan : IndexPlan) (bulk : Option (List String)) (hnew : s.initialized = false)
    (hwatch : world.CanWatch) (hpaths : plan.bulkPaths world bulk = .ok paths) :
    ∃ after journal, plan.populate world bulk s = (.ok (), after, journal) := by
  obtain ⟨subscribed, watching, hsubscribe⟩ := subscribe_ok plan s hwatch
  rw [populate_eq hnew hsubscribe, hpaths]
  exact ⟨_, _, rfl⟩

/-- A fresh index takes the files of a bulk one after another, if none of them is passed over. -/
theorem mappings_populate_all {bulk : Option (List String)} (hwatch : world.CanWatch)
    (hpaths : plan.bulkPaths world bulk = .ok paths)
    (hcanonical : paths.map (Path.canonical world.workDir) = paths)
    (hadmitted : plan.admitted world.disk paths = paths) :
    (plan.populate world bulk .fresh).2.1.mappings
      = paths.foldl (fun m path => plan.register path (plan.scanIfSource world.disk path).1 m)
          .empty := by
  obtain ⟨after, journal, hpopulate⟩ := populate_ok (s := .fresh) plan bulk rfl hwatch hpaths
  obtain ⟨given, hgiven, hmappings⟩ := mappings_of_populate rfl hpopulate
  obtain rfl := Except.ok.inj (hpaths.symm.trans hgiven)
  rw [hpopulate, hmappings, hcanonical, addBulk_fst, hadmitted]
  rfl

/-! ### A bulk with a path that has no canonical form -/

theorem firstRefusal_prefix {before : List String} {reason : String}
    (h : world.firstRefusal paths = some (before, reason)) : before <+: paths := by
  induction paths generalizing before with
  | nil => simp [Surroundings.firstRefusal] at h
  | cons path rest ih =>
      rw [Surroundings.firstRefusal] at h
      cases hrefusal : world.pathRefusal path with
      | some other =>
          rw [hrefusal] at h
          obtain ⟨rfl, -⟩ := Prod.mk.inj (Option.some.inj h)
          exact List.nil_prefix
      | none =>
          rw [hrefusal] at h
          obtain ⟨⟨inner, other⟩, hinner, heq⟩ := Option.map_eq_some_iff.mp h
          obtain ⟨rfl, rfl⟩ := Prod.mk.inj heq
          exact List.cons_prefix_cons.mpr ⟨rfl, ih hinner⟩

/-- All that an initialization can come to: no path of the bulk is in its way, or it takes the paths
before the first that has no canonical form and is not completed. -/
theorem establish_cases (plan : IndexPlan) (world : Surroundings) (bulk : Option (List String))
    (s : IndexState) :
    ((s.initialized = true ∨ bulk.bind world.firstRefusal = none) ∧
      plan.establish world bulk s
        = ((plan.populate world bulk s).1.mapError .notIndexed, (plan.populate world bulk s).2)) ∨
    (s.initialized = false ∧ ∃ paths before reason, bulk = some paths ∧ before <+: paths ∧
      world.firstRefusal paths = some (before, reason) ∧
      ((∃ message after, plan.populate world (some before) s = (.error message, after) ∧
          plan.establish world bulk s = (.error (.notIndexed message), after)) ∨
        ∃ after journal, plan.populate world (some before) s = (.ok (), after, journal) ∧
          plan.establish world bulk s
            = (.error (.pathRefused reason), { after with initialized := false }, journal))) := by
  by_cases hinitialized : s.initialized = true
  · refine Or.inl ⟨Or.inl hinitialized, ?_⟩
    rw [establish, populate, if_pos hinitialized, if_pos hinitialized]
    rfl
  · cases hrefusal : bulk.bind world.firstRefusal with
    | none =>
        refine Or.inl ⟨Or.inr rfl, ?_⟩
        simp only [establish, if_neg hinitialized, hrefusal]
    | some refused =>
        obtain ⟨before, reason⟩ := refused
        obtain ⟨paths, rfl, hpaths⟩ := Option.bind_eq_some_iff.mp hrefusal
        refine Or.inr ⟨by simpa using hinitialized, paths, before, reason, rfl,
          firstRefusal_prefix hpaths, hpaths, ?_⟩
        rw [establish, if_neg hinitialized]
        simp only [hrefusal]
        rcases plan.populate world (some before) s with ⟨answer, after, journal⟩
        cases answer with
        | error message => exact Or.inl ⟨message, _, rfl, rfl⟩
        | ok => exact Or.inr ⟨after, journal, rfl, rfl⟩

/-- No path of the bulk is in the way if all have a canonical form. -/
theorem establish_snd {bulk : Option (List String)} (h : bulk.bind world.firstRefusal = none) :
    (plan.establish world bulk s).2 = (plan.populate world bulk s).2 := by
  rcases establish_cases plan world bulk s with
    ⟨-, heq⟩ | ⟨-, paths, before, reason, rfl, -, hrefused, -⟩
  · rw [heq]
  · rw [Option.bind_some, hrefused] at h
    simp at h

/-- An index holds what the paths of a bulk leave that were taken, whether or not the others have a
canonical form. -/
theorem mappings_establish (plan : IndexPlan) (world : Surroundings) (bulk : Option (List String))
    (s : IndexState) :
    ∃ taken, (taken = bulk ∨ ∃ paths before, bulk = some paths ∧ taken = some before ∧
        before <+: paths) ∧
      (plan.establish world bulk s).2.1.mappings = (plan.populate world taken s).2.1.mappings := by
  rcases establish_cases plan world bulk s with
    ⟨-, heq⟩ | ⟨-, paths, before, reason, hbulk, hbefore, -, hrest⟩
  · exact ⟨bulk, Or.inl rfl, by rw [heq]⟩
  · refine ⟨some before, Or.inr ⟨paths, before, hbulk, rfl, hbefore⟩, ?_⟩
    rcases hrest with ⟨message, after, hpopulate, heq⟩ | ⟨after, journal, hpopulate, heq⟩ <;>
      rw [heq, hpopulate]

/-! ### An index that was empty -/

/-- An index that was empty holds what the admitted files of its bulk write, and nothing else. -/
structure FilledWith (plan : IndexPlan) (disk : Disk) (paths : List String) (m : Mappings) :
    Prop where
  files : m.files = .ofList (paths.flatMap fileWrites)
  folders : m.folders = .ofList (paths.flatMap plan.folderWrites)
  symbolsOf : ∀ kind, m.symbolsOf kind
    = .ofList (paths.flatMap fun path => symbolWrites kind (plan.scanIfSource disk path).1)

theorem filledWith_of_populate {bulk : Option (List String)} (hempty : s.mappings = .empty)
    (hnew : s.initialized = false)
    (h : plan.populate world bulk s = (.ok (), after, journal)) :
    ∃ paths, plan.bulkPaths world bulk = .ok paths ∧
      plan.FilledWith world.disk
        (plan.admitted world.disk (paths.map (Path.canonical world.workDir))) after.mappings := by
  obtain ⟨paths, hpaths, hafter⟩ := mappings_of_populate hnew h
  refine ⟨paths, hpaths, ?_⟩
  rw [hafter, hempty]
  refine ⟨addBulk_files, addBulk_folders, fun kind => ?_⟩
  rw [addBulk_symbolsOf]
  cases kind <;> rfl

/-! ### The files of a regular tree -/

section Tree

variable {base : List String}

/-- The path of a file that is listed wherever it exists. -/
def IsListed (plan : IndexPlan) (base : List String) (path : String) : Prop :=
  ∃ place, Below base place ∧ path = placePath place ∧ plan.tracking.tracks path = true ∧
    plan.tracking.ComesTo base place

theorem IsListed.isBelow (h : plan.IsListed base path) : IsBelow base path := by
  obtain ⟨place, hplace, hpath, -⟩ := h
  exact ⟨place, hplace, hpath⟩

/-- A regular tree is listed unless that is refused, and the listing holds the files that exist. -/
theorem mem_listTree (hroot : plan.watchRoot = placePath base)
    (hregular : world.disk.RegularTree base) (hlists : world.listRefusal = none) :
    ∃ paths, plan.listTree world = .ok paths ∧
      ∀ path, path ∈ paths ↔ plan.IsListed base path ∧ world.disk.isFile path = true := by
  obtain ⟨paths, hpaths, hmem⟩ := Tracking.mem_enumerate (t := plan.tracking) hregular hroot
  refine ⟨paths, by rw [listTree, hlists, ← hpaths], fun path => ?_⟩
  rw [hmem]
  constructor
  · intro hgiven
    obtain ⟨place, hplace, hfile, rfl, htracks, hcomes⟩ := hgiven
    refine ⟨⟨place, hplace, rfl, htracks, hcomes⟩, ?_⟩
    rw [isFile_eq_isSome, hregular.bytes?_placePath hplace]
    exact hfile
  · intro hgiven
    obtain ⟨⟨place, hplace, rfl, htracks, hcomes⟩, hfile⟩ := hgiven
    rw [isFile_eq_isSome, hregular.bytes?_placePath hplace] at hfile
    exact ⟨place, hplace, hfile, rfl, htracks, hcomes⟩

/-- Listed paths are canonical. -/
theorem map_canonical_of_isListed {cwd : String} (h : ∀ path ∈ paths, plan.IsListed base path) :
    paths.map (Path.canonical cwd) = paths := by
  have hsame : paths.map (Path.canonical cwd) = paths.map id :=
    List.map_congr_left fun path hpath => (h path hpath).isBelow.canonical cwd
  rw [hsame, List.map_id]

/-- A deletion leaves the folders of the listed and tracked files that exist. -/
theorem handleDelete_folders_tree (path : String) (s : IndexState)
    (hroot : plan.watchRoot = placePath base) (hregular : world.disk.RegularTree base)
    (hlists : world.listRefusal = none) :
    ∃ writes, (plan.handleDelete world path s).1.mappings.folders = .ofList writes ∧
      ∀ e, e ∈ writes ↔ ∃ p, plan.IsListed base p ∧ plan.isTracked p = true ∧
        world.disk.isFile p = true ∧ e ∈ plan.folderWrites p := by
  obtain ⟨paths, hpaths, hmem⟩ := mem_listTree hroot hregular hlists
  have hcanonical : paths.map (Path.canonical world.workDir) = paths :=
    map_canonical_of_isListed fun p hp => ((hmem p).mp hp).1
  refine ⟨_, handleDelete_folders hpaths, fun e => ?_⟩
  rw [hcanonical, List.mem_flatMap]
  refine exists_congr fun p => ?_
  rw [List.mem_filter, hmem]
  constructor
  · intro hgiven
    obtain ⟨⟨⟨hlisted, hfile⟩, htracked⟩, hwrite⟩ := hgiven
    exact ⟨hlisted, htracked, hfile, hwrite⟩
  · intro hgiven
    obtain ⟨hlisted, htracked, hfile, hwrite⟩ := hgiven
    exact ⟨⟨⟨hlisted, hfile⟩, htracked⟩, hwrite⟩

theorem listRefusal_of_listTree (h : plan.listTree world = .ok paths) :
    world.listRefusal = none := by
  rw [listTree] at h
  cases hrefusal : world.listRefusal with
  | none => rfl
  | some reason => simp [hrefusal] at h

end Tree

end IndexPlan

end SpokenIndex
