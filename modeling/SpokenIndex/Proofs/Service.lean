/-
The life of the service: one tree at a time, watched for as long as it is held.

The service has four parts, and nothing in their types keeps it from having some and not
others.  Whatever it is told to do it has all of them or none (`Serves`): a part is set
only once a tree was made, with the others, and all are released together.  The index it
then has is initialized, and its root is watched; the root that was watched before was
given up before.  So the log of observers is a sequence of complete blocks, with a lone
`schedule` where an observer refused to start, and one more block is open exactly if the
service has a tree, and exactly then it answers.

Which root is watched takes a second look.  The root of the service is the real form of
the path that was asked for, and what is watched is the real form of that.  These are the
same for a path that gets through its links (`Proofs/Links`).  For one whose links lead in
a circle they need not be, although the path may lead to a folder once `..` is taken
textually.
-/
import SpokenIndex.Proofs.Lifecycle
import SpokenIndex.Proofs.Links
import SpokenIndex.Service

namespace SpokenIndex

/-- What is done with the service.  The disk may change between steps, so what is done with it has
surroundings of its own each time. -/
inductive ServiceStep where
  | start (world : Surroundings) (root : Option String)
  | switchRoot (world : Surroundings) (root : String)
  | session (world : Surroundings) (root : Option String) (texts : List String)
  | dispose
  | find (text : String)
  | observe (world : Surroundings) (event : TreeEvent)

/-- All four parts of the service. -/
structure OpenTree where
  index : LiveIndex
  matcher : MatcherSettings
  listing : LiveListing
  root : String

/-- The service that has these parts. -/
def OpenTree.state (tree : OpenTree) : ServiceState :=
  ⟨some tree.index, some tree.matcher, some tree.listing, some tree.root⟩

@[simp]
theorem OpenTree.state_index (tree : OpenTree) : tree.state.index = some tree.index := rfl

namespace ServicePlan

variable {plan : ServicePlan} {world : Surroundings} {s : ServiceState} {tree : OpenTree}
  {path root : String} {asked : Surroundings → String → Prop} {refuses : Prop}

/-- The service after a step, and what the step reports. -/
def undertake (plan : ServicePlan) (s : ServiceState) : ServiceStep → ServiceState × Journal
  | .start world root => (plan.start world root s).2
  | .switchRoot world root => (plan.switchRoot world root s).2
  | .session world root texts => (plan.session world root texts s).2
  | .dispose => dispose s
  | .find _ => (s, [])
  | .observe world event => observe world event s

/-- The service after steps, first to last, and what they report. -/
def undertakeAll (plan : ServicePlan) (s : ServiceState) :
    List ServiceStep → ServiceState × Journal
  | [] => (s, [])
  | step :: rest =>
    let (s, journal) := plan.undertake s step
    let (s, more) := plan.undertakeAll s rest
    (s, journal ++ more)

/-- The path of the root that a step asks for, and the surroundings in which it does. -/
def asks (plan : ServicePlan) : ServiceStep → Option (Surroundings × String)
  | .start world root => some (world, plan.pathOf world (root.filter (· ≠ "")))
  | .switchRoot world root => some (world, plan.pathOf world (some root))
  | .session world root _ => some (world, plan.pathOf world (root.filter (· ≠ "")))
  | _ => none

/-- A step asks for a root where an observer would refuse to start. -/
def AsksInVain (plan : ServicePlan) (step : ServiceStep) : Prop :=
  ∃ world path, plan.asks step = some (world, path) ∧ world.StartRefused

/-! ### The tree that is served -/

/-- A tree that is served: made for a path that was asked for, initialized and watched. -/
structure MadeFor (plan : ServicePlan) (world : Surroundings) (path : String) (tree : OpenTree) :
    Prop where
  root_eq : tree.root = world.disk.resolve path
  plan_eq : tree.index.plan = .forRoot world tree.root plan.settings.index plan.extractor
  matcher_eq : tree.matcher = plan.settings.matcher
  listing_eq : tree.listing.plan = .forRoots world.disk [tree.root]
    plan.settings.listing.cacheSeconds plan.settings.listing.ignorePatterns
  initialized : tree.index.state.initialized = true
  subscribed : tree.index.state.subscribed = true

/-- The service has nothing, or all parts of a tree for a path that was asked for. -/
def Serves (plan : ServicePlan) (asked : Surroundings → String → Prop) (s : ServiceState) : Prop :=
  s = .empty ∨ ∃ tree, s = tree.state ∧
    ∃ world path, asked world path ∧ plan.MadeFor world path tree

/-- The root that is watched for the index that the service has. -/
def watchedRoot (s : ServiceState) : Option String :=
  s.index.bind fun live => live.plan.watched live.state

theorem MadeFor.watchedRoot (h : plan.MadeFor world path tree) :
    watchedRoot tree.state = some (world.disk.resolve tree.root) := by
  have hwatched : tree.index.plan.watched tree.index.state = some tree.index.plan.watchRoot := by
    rw [IndexPlan.watched, if_pos h.subscribed]
  show tree.index.plan.watched tree.index.state = _
  rw [hwatched, h.plan_eq]
  rfl

theorem serves_empty : plan.Serves asked .empty := Or.inl rfl

theorem MadeFor.serves (h : plan.MadeFor world path tree) (hasked : asked world path) :
    plan.Serves asked tree.state :=
  Or.inr ⟨tree, rfl, world, path, hasked, h⟩

theorem Serves.mono {asked' : Surroundings → String → Prop} (hs : plan.Serves asked s)
    (h : ∀ world path, asked world path → asked' world path) : plan.Serves asked' s := by
  rcases hs with rfl | ⟨tree, rfl, world, path, hasked, hmade⟩
  · exact serves_empty
  · exact hmade.serves (h world path hasked)

/-! ### Making and releasing a tree -/

/-- What an operation that may make a tree leads to: it concerns observers as far as the index
changes, it leaves a tree that was asked for or nothing, and it leaves one if it says so. -/
structure Brings (plan : ServicePlan) (asked : Surroundings → String → Prop) (refuses : Prop)
    (before : ServiceState) (result : Except ServiceFault Unit × ServiceState × Journal) :
    Prop where
  watches : WatchRun refuses (watchedRoot before) (watchedRoot result.2.1) result.2.2.watches
  serves : plan.Serves asked result.2.1
  made : result.1 = .ok () → ∃ tree : OpenTree, result.2.1 = tree.state
  fault : result.1 ≠ .error .noIndex

/-- An operation that says so leaves a tree that was asked for. -/
theorem Brings.madeFor {result : Except ServiceFault Unit × ServiceState × Journal}
    (h : plan.Brings asked refuses before result) (hok : result.1 = .ok ()) :
    ∃ tree, result.2.1 = tree.state ∧
      ∃ world path, asked world path ∧ plan.MadeFor world path tree := by
  obtain ⟨tree, htree⟩ := h.made hok
  rcases h.serves with hempty | hserved
  · exact absurd (hempty.symm.trans htree) (by simp [ServiceState.empty, OpenTree.state])
  · exact hserved

theorem dispose_watchRun (s : ServiceState) :
    WatchRun refuses (watchedRoot s) none (dispose s).2.watches := by
  obtain ⟨index, matcher, listing, root⟩ := s
  cases index with
  | none => exact .still
  | some live => exact live.plan.dispose_watchRun live.state

theorem build_brings (plan : ServicePlan) (hasked : asked world path) :
    plan.Brings asked world.StartRefused .empty
      (plan.build world (world.disk.resolve path) .empty) := by
  let indexPlan := IndexPlan.forRoot world (world.disk.resolve path) plan.settings.index
    plan.extractor
  have hrun := indexPlan.populate_watchRun world none .fresh
  unfold build
  by_cases hfolder : world.disk.isFolder (world.disk.resolve path) = true
  · rw [if_pos hfolder]
    rcases hpopulate : indexPlan.populate world none .fresh with ⟨answer, index, journal⟩
    rw [hpopulate] at hrun
    cases answer with
    | error reason =>
        simp only [indexPlan] at hpopulate
        simp only [hpopulate]
        rw [IndexPlan.populate_error hpopulate] at hrun
        exact ⟨hrun, serves_empty, by simp, by simp⟩
    | ok _ =>
        obtain ⟨hinitialized, hsubscribed⟩ := IndexPlan.populate_flags
          (fun h => Bool.noConfusion h) hpopulate
        let tree : OpenTree := ⟨⟨indexPlan, index⟩, plan.settings.matcher,
          ⟨.forRoots world.disk [world.disk.resolve path] plan.settings.listing.cacheSeconds
            plan.settings.listing.ignorePatterns, .none⟩, world.disk.resolve path⟩
        have hmade : plan.MadeFor world path tree :=
          ⟨rfl, rfl, rfl, rfl, hinitialized, hsubscribed⟩
        simp only [indexPlan] at hpopulate
        simp only [hpopulate]
        exact ⟨hrun, hmade.serves hasked, fun _ => ⟨tree, rfl⟩, by simp⟩
  · rw [if_neg hfolder]
    exact ⟨.still, serves_empty, by simp, by simp⟩

theorem replace_brings (plan : ServicePlan) (s : ServiceState) (hasked : asked world path) :
    plan.Brings asked world.StartRefused s (plan.replace world (world.disk.resolve path) s) := by
  obtain ⟨hwatches, hserves, hmade, hfault⟩ := plan.build_brings hasked
  refine ⟨?_, hserves, hmade, hfault⟩
  -- What was watched is released first, so the new tree is made when nothing is.
  have hjournal : (plan.replace world (world.disk.resolve path) s).2.2.watches
      = (dispose s).2.watches
        ++ (plan.build world (world.disk.resolve path) .empty).2.2.watches :=
    Journal.watches_append _ _
  rw [hjournal]
  exact (dispose_watchRun s).trans hwatches

/-- A root is refused for a reason of its own, or found: the real form of the path that is asked
for. -/
theorem rootOf_cases (plan : ServicePlan) (world : Surroundings) (given : Option String) :
    (∃ fault, plan.rootOf world given = .error fault ∧ fault ≠ .noIndex) ∨
      plan.rootOf world given = .ok (world.disk.resolve (plan.pathOf world given)) := by
  rw [rootOf]
  split
  · exact Or.inl ⟨_, rfl, by simp⟩
  · split
    · exact Or.inl ⟨_, rfl, by simp⟩
    · simp only
      split
      · exact Or.inl ⟨_, rfl, by simp⟩
      · exact Or.inr rfl

/-- A refused root changes nothing. -/
theorem brings_refusal {fault : ServiceFault} (hs : plan.Serves asked s)
    (hfault : fault ≠ .noIndex) : plan.Brings asked refuses s (.error fault, s, []) :=
  ⟨.still, hs, by simp, fun h => hfault (Except.error.inj h)⟩

theorem switchRoot_brings (hs : plan.Serves asked s)
    (hasked : asked world (plan.pathOf world (some root))) :
    plan.Brings asked world.StartRefused s (plan.switchRoot world root s) := by
  unfold switchRoot
  rcases plan.rootOf_cases world (some root) with ⟨fault, hrefused, hfault⟩ | hfound
  · rw [hrefused]
    exact brings_refusal hs hfault
  · rw [hfound]
    exact plan.replace_brings s hasked

theorem start_brings {given : Option String} (hs : plan.Serves asked s)
    (hasked : asked world (plan.pathOf world (given.filter (· ≠ "")))) :
    plan.Brings asked world.StartRefused s (plan.start world given s) := by
  unfold start
  rcases plan.rootOf_cases world (given.filter (· ≠ "")) with ⟨fault, hrefused, hfault⟩ | hfound
  · rw [hrefused]
    exact brings_refusal hs hfault
  · rw [hfound]
    rcases hs with rfl | ⟨tree, rfl, hmade⟩
    · exact plan.build_brings hasked
    · simp only [OpenTree.state_index]
      split
      · exact ⟨.still, Or.inr ⟨tree, rfl, hmade⟩, fun _ => ⟨tree, rfl⟩, by simp⟩
      · exact plan.replace_brings tree.state hasked

/-! ### A start that succeeds -/

section Starting

variable {base : List String}

/-- A root is looked up that leads to a folder, holds no NUL character and needs no working
directory that is not there. -/
theorem rootOf_ok {given : Option String} (hpath : plan.pathOf world given = path)
    (hnul : world.disk.meetsNul path = false)
    (hrefusal : world.pathRefusal (plan.givenPath given) = none)
    (hroot : world.disk.resolve path = root) (hfolder : world.disk.isFolder root = true) :
    plan.rootOf world given = .ok root := by
  rw [rootOf, hpath, hnul, hrefusal, hroot]
  -- A path that ends in a circle of links leads to no folder.
  rw [Disk.isFolder] at hfolder
  cases hnode : world.disk.node? root with
  | error fault => simp [hnode] at hfolder
  | ok node => simp [hnode]

/-- A start succeeds if it leads to a regular tree that can be watched and listed. -/
theorem start_ok (plan : ServicePlan) (world : Surroundings) (given : Option String)
    (s : ServiceState) (htarget : plan.rootOf world (given.filter (· ≠ "")) = .ok root)
    (hfolder : world.disk.isFolder root = true)
    (hwatched : world.disk.resolve root = Disk.placePath base)
    (hregular : world.disk.RegularTree base) (hwatch : world.CanWatch)
    (hlists : world.listRefusal = none) : (plan.start world given s).1 = .ok () := by
  have hbuild : ∀ before, (plan.build world root before).1 = .ok () := by
    intro before
    let indexPlan := IndexPlan.forRoot world root plan.settings.index plan.extractor
    have hroot' : indexPlan.watchRoot = Disk.placePath base := hwatched
    obtain ⟨paths, hlist, -⟩ := IndexPlan.mem_listTree hroot' hregular hlists
    obtain ⟨index, journal, hpopulate⟩ := IndexPlan.populate_ok (s := .fresh) indexPlan none rfl
      hwatch hlist
    simp only [indexPlan] at hpopulate
    simp only [build, if_pos hfolder, hpopulate]
  simp only [start, htarget]
  cases s.index with
  | none => exact hbuild s
  | some live =>
      simp only
      split
      · rfl
      · exact hbuild .empty

/-- The tree that such a start makes. -/
theorem start_madeFor (plan : ServicePlan) (world : Surroundings) (given : Option String)
    (htarget : plan.rootOf world (given.filter (· ≠ "")) = .ok root)
    (hfolder : world.disk.isFolder root = true)
    (hwatched : world.disk.resolve root = Disk.placePath base)
    (hregular : world.disk.RegularTree base) (hwatch : world.CanWatch)
    (hlists : world.listRefusal = none) :
    ∃ tree, (plan.start world given .empty).2.1 = tree.state ∧
      plan.MadeFor world (plan.pathOf world (given.filter (· ≠ ""))) tree := by
  have hbrings : plan.Brings
      (fun made path => made = world ∧ path = plan.pathOf world (given.filter (· ≠ "")))
      world.StartRefused .empty (plan.start world given .empty) :=
    start_brings serves_empty ⟨rfl, rfl⟩
  obtain ⟨tree, htree, _, _, ⟨rfl, rfl⟩, hmade⟩ := hbrings.madeFor
    (plan.start_ok world given .empty htarget hfolder hwatched hregular hwatch hlists)
  exact ⟨tree, htree, hmade⟩

/-- A start whose observer refuses to start leaves a lone `schedule` behind. -/
theorem start_watches_of_refused (plan : ServicePlan) (world : Surroundings)
    (given : Option String) {reason : String}
    (htarget : plan.rootOf world (given.filter (· ≠ "")) = .ok root)
    (hfolder : world.disk.isFolder root = true) (hwatch : world.watchRefusal = none)
    (hstart : world.startRefusal = some reason) :
    (plan.start world given .empty).2.2.watches = [(.schedule, world.disk.resolve root)] := by
  let indexPlan := IndexPlan.forRoot world root plan.settings.index plan.extractor
  have hsubscribe : indexPlan.subscribe world .fresh
      = (.error reason, [.watch .schedule (world.disk.resolve root)]) := by
    simp only [IndexPlan.subscribe, hwatch, hstart]
    rfl
  have hpopulate : indexPlan.populate world none .fresh = indexPlan.abandon reason .fresh _ :=
    IndexPlan.populate_of_refused rfl hsubscribe
  simp only [indexPlan] at hpopulate
  simp only [start, htarget, build, if_pos hfolder, hpopulate]
  rfl

end Starting

/-! ### One step -/

theorem observe_serves (world : Surroundings) (event : TreeEvent) (hs : plan.Serves asked s) :
    plan.Serves asked (observe world event s).1 ∧
      watchedRoot (observe world event s).1 = watchedRoot s ∧
      (observe world event s).2.watches = [] := by
  rcases hs with rfl | ⟨tree, rfl, made, path, hasked, hmade⟩
  · exact ⟨serves_empty, rfl, rfl⟩
  · obtain ⟨hinitialized, hsubscribed, hwatches⟩ :=
      tree.index.plan.observe_flags world event tree.index.state
    let after : OpenTree := { tree with
      index := { tree.index with
        state := (tree.index.plan.observe world event tree.index.state).1 } }
    have hafter : plan.MadeFor made path after :=
      ⟨hmade.root_eq, hmade.plan_eq, hmade.matcher_eq, hmade.listing_eq,
        hinitialized.trans hmade.initialized, hsubscribed.trans hmade.subscribed⟩
    exact ⟨hafter.serves hasked, IndexPlan.watched_congr hsubscribed, hwatches⟩

theorem Brings.watchRun {step : ServiceStep}
    {result : Except ServiceFault Unit × ServiceState × Journal}
    (h : plan.Brings asked world.StartRefused s result)
    (hasks : plan.asks step = some (world, path)) :
    WatchRun (plan.AsksInVain step) (watchedRoot s) (watchedRoot result.2.1) result.2.2.watches :=
  h.watches.mono fun hrefused => ⟨world, path, hasks, hrefused⟩

theorem undertake_brings (step : ServiceStep) (hs : plan.Serves asked s)
    (hasked : ∀ world path, plan.asks step = some (world, path) → asked world path) :
    WatchRun (plan.AsksInVain step) (watchedRoot s) (watchedRoot (plan.undertake s step).1)
        (plan.undertake s step).2.watches ∧
      plan.Serves asked (plan.undertake s step).1 := by
  cases step with
  | start world given =>
      have hbrings : plan.Brings asked world.StartRefused s (plan.start world given s) :=
        start_brings hs (hasked world _ rfl)
      rw [undertake]
      exact ⟨hbrings.watchRun rfl, hbrings.serves⟩
  | switchRoot world root =>
      have hbrings : plan.Brings asked world.StartRefused s (plan.switchRoot world root s) :=
        switchRoot_brings hs (hasked world _ rfl)
      rw [undertake]
      exact ⟨hbrings.watchRun rfl, hbrings.serves⟩
  | session world given texts =>
      have hbrings : plan.Brings asked world.StartRefused s (plan.start world given s) :=
        start_brings hs (hasked world _ rfl)
      rcases hstart : plan.start world given s with ⟨answer, after, journal⟩
      rw [hstart] at hbrings
      simp only [undertake, session, hstart, Journal.watches_append]
      exact ⟨(hbrings.watchRun rfl).trans (dispose_watchRun _), serves_empty⟩
  | dispose => exact ⟨dispose_watchRun s, serves_empty⟩
  | find text => exact ⟨.still, hs⟩
  | observe world event =>
      obtain ⟨hserves, hsame, hwatches⟩ := observe_serves world event hs
      refine ⟨?_, hserves⟩
      rw [undertake, hsame, hwatches]
      exact .still

/-! ### All steps -/

theorem undertakeAll_singleton (plan : ServicePlan) (s : ServiceState) (step : ServiceStep) :
    plan.undertakeAll s [step] = plan.undertake s step := by
  simp [undertakeAll]

theorem undertakeAll_brings (steps : List ServiceStep) (hs : plan.Serves asked s)
    (hasked : ∀ step ∈ steps, ∀ world path,
      plan.asks step = some (world, path) → asked world path) :
    WatchRun (∃ step ∈ steps, plan.AsksInVain step) (watchedRoot s)
        (watchedRoot (plan.undertakeAll s steps).1) (plan.undertakeAll s steps).2.watches ∧
      plan.Serves asked (plan.undertakeAll s steps).1 := by
  induction steps generalizing s with
  | nil => exact ⟨.still, hs⟩
  | cons step rest ih =>
      obtain ⟨hfirst, hserves⟩ := undertake_brings step hs (hasked step List.mem_cons_self)
      obtain ⟨hothers, hlast⟩ := ih hserves fun other hother =>
        hasked other (List.mem_cons_of_mem _ hother)
      refine ⟨?_, hlast⟩
      have hjournal : (plan.undertakeAll s (step :: rest)).2.watches
          = (plan.undertake s step).2.watches
            ++ (plan.undertakeAll (plan.undertake s step).1 rest).2.watches :=
        Journal.watches_append _ _
      rw [hjournal]
      refine (hfirst.mono fun h => ⟨step, List.mem_cons_self, h⟩).trans (hothers.mono fun h => ?_)
      obtain ⟨other, hother, hvain⟩ := h
      exact ⟨other, List.mem_cons_of_mem _ hother, hvain⟩

/-! ### Answers -/

theorem find_of_madeFor (h : plan.MadeFor world path tree) (text : String) :
    find text tree.state
      = .ok (Matching.resolve plan.settings.matcher tree.index.state.mappings text) := by
  rw [← h.matcher_eq]
  exact if_pos h.initialized

/-- There is no index exactly if nothing is watched. -/
theorem find_eq_noIndex_iff (hs : plan.Serves asked s) (text : String) :
    find text s = .error .noIndex ↔ watchedRoot s = none := by
  rcases hs with rfl | ⟨tree, rfl, made, path, -, hmade⟩
  · exact ⟨fun _ => rfl, fun _ => rfl⟩
  · rw [hmade.watchedRoot, find_of_madeFor hmade]
    simp

/-- A session fails for another reason, or it resolves every transcript. -/
theorem session_ne_noIndex (hs : plan.Serves asked s) (given : Option String)
    (texts : List String) : (plan.session world given texts s).1 ≠ .error .noIndex := by
  -- Which path the tree was made for does not matter here.
  have hbrings : plan.Brings (fun _ _ => True) world.StartRefused s (plan.start world given s) :=
    start_brings (hs.mono fun _ _ _ => trivial) trivial
  rcases hstart : plan.start world given s with ⟨answer, after, journal⟩
  rw [hstart] at hbrings
  cases answer with
  | error fault =>
      have hfault : fault ≠ .noIndex := fun h => hbrings.fault (congrArg _ h)
      simpa [session, hstart] using hfault
  | ok _ =>
      obtain ⟨tree, htree, made, path, -, hmade⟩ := hbrings.madeFor rfl
      obtain rfl : after = tree.state := htree
      have hall : (texts.mapM fun text => find text tree.state) = .ok (texts.map
          (Matching.resolve plan.settings.matcher tree.index.state.mappings)) := by
        simp only [find_of_madeFor hmade]
        exact List.mapM_pure
      simp [session, hstart, hall]

/-! ### The life of the service -/

/-- How the service stands after steps, if `current` is the root that is watched now. -/
structure Stands (plan : ServicePlan) (steps : List ServiceStep) (s : ServiceState)
    (current : Option String) : Prop where
  initialized_iff : s.initialized = true ↔ current.isSome = true
  /-- Each of the four parts is there exactly if a root is watched, so all are or none is. -/
  parts : s.index.isSome = current.isSome ∧ s.matcher.isSome = current.isSome ∧
    s.listing.isSome = current.isSome ∧ s.root.isSome = current.isSome
  find_iff : ∀ text, find text s = .error .noIndex ↔ current = none
  /-- The tree is one that was asked for, and what is watched is the real form of its root. -/
  root : ∀ root, s.root = some root → ∃ tree, s = tree.state ∧ tree.root = root ∧
    ∃ step ∈ steps, ∃ world path,
      plan.asks step = some (world, path) ∧ plan.MadeFor world path tree ∧
        current = some (world.disk.resolve root) ∧
        ((∃ place, world.disk.realPlace path = .ok place) → current = some root)

theorem stands_of_serves {steps : List ServiceStep} (hs : plan.Serves (fun world path =>
      ∃ step ∈ steps, plan.asks step = some (world, path)) s) :
    plan.Stands steps s (watchedRoot s) := by
  have hfind := find_eq_noIndex_iff hs
  rcases hs with rfl | ⟨tree, rfl, world, path, ⟨step, hstep, hasks⟩, hmade⟩
  · exact ⟨iff_of_false Bool.false_ne_true Bool.false_ne_true, ⟨rfl, rfl, rfl, rfl⟩, hfind,
      fun root hroot => absurd hroot (by simp [ServiceState.empty])⟩
  · rw [hmade.watchedRoot] at hfind ⊢
    refine ⟨iff_of_true hmade.initialized rfl, ⟨rfl, rfl, rfl, rfl⟩, hfind, fun root hroot => ?_⟩
    obtain rfl : tree.root = root := Option.some.inj hroot
    refine ⟨tree, rfl, rfl, step, hstep, world, path, hasks, hmade, rfl, fun hthrough => ?_⟩
    obtain ⟨place, hplace⟩ := hthrough
    rw [hmade.root_eq, Disk.resolve_resolve hplace]

/-- **The life of the service.**  Whatever is done with the service, the roots that it watches
follow one another, each given up before the next.  An observer that was scheduled and then refused
to start is left as it is, and that happens only where a root was asked for and starting was
refused.  A root is watched now exactly if the service is initialized, exactly if it has an index,
a matcher, a listing and a root, and exactly then it answers; within a session it always does.  The
root that is watched is the real form of the root of the service, which is the same unless a link
on the path that was asked for leads through itself. -/
theorem stands_undertakeAll (plan : ServicePlan) (steps : List ServiceStep) :
    let s := (plan.undertakeAll .empty steps).1
    ∃ past current, (plan.undertakeAll .empty steps).2.watches = watchLog past current ∧
      ((∃ root, .refused root ∈ past) → ∃ step ∈ steps, plan.AsksInVain step) ∧
      plan.Stands steps s current ∧
      ∀ world given texts, (plan.session world given texts s).1 ≠ .error .noIndex := by
  intro s
  have hempty : plan.Serves (fun world path =>
      ∃ step ∈ steps, plan.asks step = some (world, path)) .empty := serves_empty
  obtain ⟨hrun, hserves⟩ := undertakeAll_brings steps hempty
    fun step hstep world path hasks => ⟨step, hstep, hasks⟩
  obtain ⟨past, hpast, hrefused⟩ := hrun.exists_watchLog
  exact ⟨past, _, hpast, hrefused, stands_of_serves hserves,
    fun world given texts => session_ne_noIndex hserves given texts⟩

/-- A service for which no file declares anything. -/
def readsNothing : ServicePlan := ⟨.standard "/", fun _ _ => .ok []⟩

/-- A disk with a folder `d`, a link to it, and a link to itself. -/
def selfLinked : Disk where
  top := .folder [("a", .link "a"), ("d", .folder []), ("x", .link "d")]

theorem selfLinked_regular : selfLinked.RegularTree ["d"] := by
  refine ⟨by decide, ⟨[], rfl, ?_⟩, fun _ => rfl⟩
  rw [Node.regular_folder_iff]
  simp

/-- A service that is started on a tree with one file has it, and watches just its root. -/
theorem stands_undertakeAll_oneFile :
    let run := readsNothing.undertakeAll .empty [.start (.calm (oneFile .empty)) (some "/r")]
    ∃ past, run.1.root = some "/r" ∧ run.1.initialized = true ∧
      run.2.watches = watchLog past (some "/r") := by
  intro run
  have hgiven : (some "/r").filter (· ≠ "") = some "/r" := by decide
  have hpath : readsNothing.pathOf (.calm (oneFile .empty)) (some "/r")
      = "/r" := by decide
  have hreal : (oneFile .empty).realPlace (Disk.placePath ["r"]) = .ok ["r"] :=
    Disk.realPlace_placePath (((oneFile_regular .empty).unlinked []).isReal (by decide))
  have hroot : (oneFile .empty).resolve "/r" = "/r" := by cbv
  have htarget : readsNothing.rootOf (.calm (oneFile .empty)) ((some "/r").filter (· ≠ ""))
      = .ok "/r" := by
    rw [hgiven]
    exact rootOf_ok hpath (by cbv) (by decide) hroot (by cbv)
  obtain ⟨tree, htree, hmade⟩ := start_madeFor readsNothing (.calm (oneFile .empty)) (some "/r")
    htarget (by cbv) (hroot.trans (by decide)) (oneFile_regular .empty) (.calm _) rfl
  rw [hgiven] at hmade
  have htreeRoot : tree.root = "/r" := by rw [hmade.root_eq, hpath]; exact hroot
  have hrun : run.1 = tree.state := by
    simp only [run, undertakeAll_singleton]
    exact htree
  obtain ⟨past, current, hlog, -, hstands, -⟩ := stands_undertakeAll readsNothing
    [.start (.calm (oneFile .empty)) (some "/r")]
  have hrunRoot : run.1.root = some "/r" := by rw [hrun]; exact congrArg some htreeRoot
  obtain ⟨-, -, -, step, hstep, world, path, hasks, -, -, hsame⟩ := hstands.root "/r" hrunRoot
  obtain rfl := List.mem_singleton.mp hstep
  obtain ⟨rfl, rfl⟩ := Prod.mk.inj (Option.some.inj hasks)
  rw [hgiven] at hsame
  have hcurrent := hsame ⟨["r"], (congrArg _ hpath).trans hreal⟩
  exact ⟨past, hrunRoot, by rw [hrun]; exact hmade.initialized, hcurrent ▸ hlog⟩

/-- The link to itself keeps the link to the folder from being followed when the root is made out,
but not when it is watched.  And an observer that refuses to start leaves a log that is no sequence
of complete blocks with at most one open block behind them. -/
theorem root_not_watched :
    (let run := readsNothing.undertakeAll .empty [.start (.calm selfLinked) (some "/a/../x")]
      ∃ past, run.1.root = some "/x" ∧ run.2.watches = watchLog past (some "/d")) ∧
    let world := { Surroundings.calm (oneFile .empty) with startRefusal := some "limit" }
    let run := readsNothing.undertakeAll .empty [.start world (some "/r")]
    run.2.watches = [(.schedule, "/r")] ∧
      ∀ (ended : List String) (current : Option String),
        run.2.watches ≠ watchLog (ended.map .ended) current := by
  refine ⟨?_, ?_⟩
  · intro run
    have hgiven : (some "/a/../x").filter (· ≠ "") = some "/a/../x" := by decide
    have hpath : readsNothing.pathOf (.calm selfLinked) (some "/a/../x") = "/a/../x" := by
      decide
    have hroot : selfLinked.resolve "/a/../x" = "/x" := by cbv
    have hwatched : selfLinked.resolve "/x" = "/d" := by cbv
    have htarget : readsNothing.rootOf (.calm selfLinked) ((some "/a/../x").filter (· ≠ ""))
        = .ok "/x" := by
      rw [hgiven]
      exact rootOf_ok hpath (by cbv) (by decide) hroot (by cbv)
    obtain ⟨tree, htree, hmade⟩ := start_madeFor readsNothing (.calm selfLinked) (some "/a/../x")
      htarget (by cbv) (hwatched.trans (by decide)) selfLinked_regular (.calm _) rfl
    rw [hgiven] at hmade
    have htreeRoot : tree.root = "/x" := by rw [hmade.root_eq, hpath]; exact hroot
    have hrun : run.1 = tree.state := by
      simp only [run, undertakeAll_singleton]
      exact htree
    have hcurrent : watchedRoot run.1 = some "/d" := by
      rw [hrun, hmade.watchedRoot, htreeRoot]
      exact congrArg some hwatched
    have hserves : readsNothing.Serves (fun _ _ => True) .empty := serves_empty
    obtain ⟨hwatches, -⟩ := undertakeAll_brings
      [.start (.calm selfLinked) (some "/a/../x")] hserves fun _ _ _ _ _ => trivial
    obtain ⟨past, hpast, -⟩ := hwatches.exists_watchLog
    exact ⟨past, by rw [hrun]; exact congrArg some htreeRoot, hcurrent ▸ hpast⟩
  · intro world run
    have hlog : run.2.watches = [(.schedule, "/r")] := by
      have hgiven : (some "/r").filter (· ≠ "") = some "/r" := by decide
      have hroot : (oneFile .empty).resolve "/r" = "/r" := by cbv
      have htarget : readsNothing.rootOf world ((some "/r").filter (· ≠ "")) = .ok "/r" := by
        rw [hgiven]
        exact rootOf_ok (by decide) (by cbv) (by decide) hroot (by cbv)
      have hwatches := readsNothing.start_watches_of_refused world (some "/r") htarget (by cbv)
        rfl rfl
      simp only [run, undertakeAll_singleton, undertake]
      exact hwatches.trans (congrArg (fun path => [(WatchAction.schedule, path)]) hroot)
    refine ⟨hlog, fun ended current heq => ?_⟩
    -- In such a log every `schedule` has a `start` behind it.
    rw [hlog] at heq
    have hlength := congrArg List.length heq
    cases ended with
    | nil => cases current <;> simp [watchLog, watchEntries, Journal.watches] at hlength
    | cons root rest =>
        simp [watchLog, PastWatch.log, watchEntries, unwatchEntries, Journal.watches] at hlength

end ServicePlan

end SpokenIndex
