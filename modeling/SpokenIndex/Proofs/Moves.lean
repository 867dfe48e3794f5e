/-
A folder that was moved.

The move of a folder is one deletion of what was at or beneath the old path, and then one
creation for each tracked file that a walk finds under the new one.  The creations write
as one sequence of writes, file after file, so what the files and symbols are afterwards
is said at once: what the deletion left, and these writes.

The old path and the new one are apart, so nothing that a walk finds under the new path
is at or beneath the old one.  That is a matter of the slash: the folders beside the old
one may have names that begin like its own, and what they hold is not beneath it.
-/
import SpokenIndex.Proofs.Confinement
import SpokenIndex.Proofs.Deletion
import SpokenIndex.Proofs.Folders
import SpokenIndex.Proofs.Walk

namespace SpokenIndex

open SpokenIndex.Path

/-! ### Paths that are apart -/

namespace Path

variable {a b path root : String}

theorem isAtOrBeneath_iff :
    isAtOrBeneath a path = true ↔ path = a ∨ a.toList ++ ['/'] <+: path.toList := by
  rw [isAtOrBeneath, Bool.or_eq_true, beq_iff_eq, List.isPrefixOf_iff_prefix]

/-- What begins with a path and a slash is beneath the path or is the path with the slash. -/
theorem isAtOrBeneath_of_opened (h : a.toList ++ ['/'] <+: b.toList ++ ['/']) :
    isAtOrBeneath a b = true := by
  rw [isAtOrBeneath_iff]
  rcases List.prefix_concat_iff.mp h with heq | hbegins
  · exact Or.inl (String.toList_injective (List.append_cancel_right heq).symm)
  · exact Or.inr hbegins

/-- What is beneath a path is neither at nor beneath one that is apart from it. -/
theorem not_isAtOrBeneath_of_apart (hapart : isAtOrBeneath a b = false)
    (hapart' : isAtOrBeneath b a = false) (hpath : b.toList ++ ['/'] <+: path.toList) :
    isAtOrBeneath a path = false := by
  rw [Bool.eq_false_iff] at hapart hapart' ⊢
  intro hgiven
  rcases isAtOrBeneath_iff.mp hgiven with rfl | hbegins
  · exact hapart' (isAtOrBeneath_iff.mpr (Or.inr hpath))
  · rcases List.prefix_or_prefix_of_prefix hbegins hpath with h | h
    · exact hapart (isAtOrBeneath_of_opened h)
    · exact hapart' (isAtOrBeneath_of_opened h)

/-- A canonical path below a root ends in a name. -/
theorem getLast?_ne_slash_of_below {cwd : String} (hpath : canonical cwd path = path)
    (hbelow : (relative? path root).isSome = true) :
    path.toList ≠ [] ∧ path.toList.getLast? ≠ some '/' := by
  obtain ⟨slashes, names, hfront, hnames, hrender⟩ := exists_canonical cwd path
  rw [hpath] at hrender
  have hne : names ≠ [] := by
    rintro rfl
    have hnone : relative? path root = none := by
      rw [relative?_eq_none_iff, hrender, parts_render_front hfront hnames]
      rintro ⟨way, hway, hnil⟩
      exact hway (List.append_eq_nil_iff.mp hnil.symm).2
    rw [hnone] at hbelow
    exact absurd hbelow (by simp)
  have htext := joinWith_ne_nil hnames hne
  rw [hrender, render, List.getLast?_append_of_ne_nil _ htext]
  exact ⟨List.append_ne_nil_of_right_ne_nil _ htext, getLast?_joinWith_ne_slash hnames⟩

end Path

/-! ### What a move brings -/

namespace IndexPlan

variable {plan : IndexPlan} {world : Surroundings} {s : IndexState} {src dest root : String}
  {kind : SymbolKind} {files : List String} {path : String}

/-- The files that a folder brought which was moved: those with a tracked extension among the files
that a walk finds under the new path. -/
def broughtTo (plan : IndexPlan) (disk : Disk) (dest : String) : List String :=
  match plan.tracking.filesBeneath disk dest with
  | .ok files => files.filter plan.isTracked
  | .error _ => []

/-- Where a canonical path leads that is below a root, a walk finds canonical paths beneath it. -/
theorem of_mem_filesBeneath {disk : Disk} {cwd : String} (hdisk : disk.top.WellFormed)
    (hdest : canonical cwd dest = dest) (hbelow : (relative? dest root).isSome = true)
    (hfiles : plan.tracking.filesBeneath disk dest = .ok files) (hpath : path ∈ files) :
    canonical cwd path = path ∧ dest.toList ++ ['/'] <+: path.toList := by
  have hlisted : ∃ listed, disk.walk plan.tracking.walker dest = .ok listed ∧ path ∈ listed := by
    rw [Tracking.filesBeneath] at hfiles
    cases hwalk : disk.walk plan.tracking.walker dest with
    | error fault => simp [hwalk] at hfiles
    | ok listed =>
        rw [hwalk] at hfiles
        obtain rfl := Except.ok.inj hfiles
        split at hpath
        · simp at hpath
        · exact ⟨listed, rfl, hpath⟩
  obtain ⟨listed, hwalk, hmem⟩ := hlisted
  obtain ⟨names, hne, hnames, rfl⟩ := Disk.exists_under_of_mem_walk hdisk hwalk hmem
  obtain ⟨hnonempty, hlast⟩ := getLast?_ne_slash_of_below hdest hbelow
  exact ⟨canonical_under hdest hnames, prefix_under hnonempty hlast hne hnames⟩

/-! ### One creation after another -/

/-- The state after some deliveries is that after each of them in turn. -/
theorem handleDeliveries_fst (plan : IndexPlan) (world : Surroundings) (s : IndexState)
    (ds : List Delivery) :
    (plan.handleDeliveries world s ds).1
      = ds.foldl (fun s d => (plan.handleDelivery world s d).1) s := by
  unfold handleDeliveries
  generalize ([] : Journal) = journal
  induction ds generalizing s journal with
  | nil => rfl
  | cons d rest ih => exact ih _ _

/-- Creations of canonical paths register the tracked ones among them, first to last. -/
theorem mappings_creations (hcanonical : ∀ path ∈ files, canonical world.workDir path = path) :
    ((files.map fun path => Delivery.call ⟨.create, path⟩).foldl
        (fun s d => (plan.handleDelivery world s d).1) s).mappings
      = plan.registerAll world.disk (files.filter plan.isTracked) s.mappings := by
  induction files generalizing s with
  | nil => rfl
  | cons path rest ih =>
      have hpath : canonical world.workDir path = path := hcanonical path List.mem_cons_self
      rw [List.map_cons, List.foldl_cons, ih fun p hp => hcanonical p (List.mem_cons_of_mem _ hp)]
      rw [handleDelivery_call (pathRefusal_of_canonical hpath), handleCall_create]
      by_cases htracked : plan.isTracked path = true
      · rw [List.filter_cons_of_pos htracked, registerAll_cons,
          handleCreate_of_tracked hpath htracked]
      · rw [List.filter_cons_of_neg htracked, handleCreate_of_not_tracked hpath htracked]

/-- Notices change nothing. -/
theorem foldl_notices (plan : IndexPlan) (world : Surroundings) (s : IndexState)
    (notices : List Notice) :
    (notices.map Delivery.notice).foldl (fun s d => (plan.handleDelivery world s d).1) s = s := by
  induction notices with
  | nil => rfl
  | cons n rest ih => exact ih

/-- After the move of a folder there is what the deletion left, with the files registered that the
folder brought. -/
theorem mappings_observe_moved (hdisk : world.disk.top.WellFormed) (hseen : s.subscribed = true)
    (hsrc : canonical world.workDir src = src)
    (hdest : canonical world.workDir dest = dest) (hbelow : (relative? dest root).isSome = true) :
    (plan.observe world (.moved src dest true) s).1.mappings
      = plan.registerAll world.disk (plan.broughtTo world.disk dest)
          (plan.handleDelete world src s).1.mappings := by
  have hdeliveries : plan.tracking.deliveries world.disk (.moved src dest true)
      = .call ⟨.delete, src⟩ :: plan.tracking.arrivals world.disk dest := rfl
  rw [observe, if_pos hseen, handleDeliveries_fst, hdeliveries, List.foldl_cons,
    handleDelivery_call (pathRefusal_of_canonical hsrc), handleCall_delete, Tracking.arrivals,
    broughtTo]
  cases hfiles : plan.tracking.filesBeneath world.disk dest with
  | error notice => rfl
  | ok files =>
      simp only [List.foldl_append, foldl_notices]
      exact mappings_creations fun path hpath =>
        (of_mem_filesBeneath hdisk hdest hbelow hfiles hpath).1

theorem beneath_of_mem_broughtTo {disk : Disk} {cwd : String} (hdisk : disk.top.WellFormed)
    (hdest : canonical cwd dest = dest) (hbelow : (relative? dest root).isSome = true)
    (hpath : path ∈ plan.broughtTo disk dest) : dest.toList ++ ['/'] <+: path.toList := by
  rw [broughtTo] at hpath
  split at hpath
  · exact (of_mem_filesBeneath hdisk hdest hbelow ‹_› (List.mem_of_mem_filter hpath)).2
  · simp at hpath

/-! ### Files and symbols after a registration -/

/-- What a path lacks it lacks still if files were registered that are neither at nor beneath it. -/
theorem lacks_registerAll {m : Mappings} {disk : Disk} (h : m.Lacks src)
    (hapart : ∀ f ∈ files, isAtOrBeneath src f = false) :
    (plan.registerAll disk files m).Lacks src where
  files e he := by
    rw [registerAll_files] at he
    rcases OrderedMap.mem_of_mem_insertAll he with hwrite | ⟨hold, -⟩
    · obtain ⟨f, hf, hwrite⟩ := List.mem_flatMap.mp hwrite
      rw [value_of_mem_fileWrites hwrite]
      exact hapart f hf
    · exact h.files e hold
  symbols kind e he := by
    rw [registerAll_symbolsOf] at he
    rcases OrderedMap.mem_of_mem_insertAll he with hwrite | ⟨hold, -⟩
    · obtain ⟨f, hf, hwrite⟩ := List.mem_flatMap.mp hwrite
      obtain ⟨-, hdeclares⟩ := mem_scanIfSource_symbolWrites.mp hwrite
      rw [show e.2 = f from hdeclares.owner_eq]
      exact hapart f hf
    · exact h.symbols kind e hold

/-- Each name of a registered file leads to a registered file. -/
theorem get?_registerAll_files {m : Mappings} {disk : Disk} {key : String} (hpath : path ∈ files)
    (hkey : key ∈ CallKind.fileNames path .create) :
    ∃ f ∈ files, (plan.registerAll disk files m).files.get? key = some f := by
  rw [fileNames_create] at hkey
  obtain ⟨w, hw, rfl⟩ := List.mem_map.mp hkey
  have hwritten : w ∈ files.flatMap fileWrites := List.mem_flatMap.mpr ⟨path, hpath, hw⟩
  rw [registerAll_files]
  have hthere : w.1 ∈ (m.files.insertAll (files.flatMap fileWrites)).keys :=
    OrderedMap.mem_keys_insertAll.mpr (Or.inr (List.mem_map_of_mem hwritten))
  obtain ⟨value, hvalue⟩ := OrderedMap.mem_keys.mp hthere
  rcases OrderedMap.mem_of_mem_insertAll hvalue with hwrite | ⟨-, hunwritten⟩
  · obtain ⟨f, hf, hwrite⟩ := List.mem_flatMap.mp hwrite
    obtain rfl : value = f := value_of_mem_fileWrites hwrite
    exact ⟨value, hf, OrderedMap.get?_eq_some_iff.mpr hvalue⟩
  · exact absurd rfl (hunwritten w hwritten)

/-- **A moved folder.**  A folder is moved between canonical paths of which neither is at or beneath
the other, the new one below some root, and an index that is subscribed sees it.  Then no file and
no symbol is at or beneath the old path.  Each name of a tracked file that a walk finds under the
new path leads to such a file.  All other files and symbols, those that are not at or beneath the
old path and have no name of such a file and none that it declares, are the same with the same
values and in the same order. -/
theorem relocated_by_move (plan : IndexPlan) (world : Surroundings) (src dest root : String)
    (s : IndexState) (hdisk : world.disk.top.WellFormed) (hseen : s.subscribed = true)
    (hsrc : canonical world.workDir src = src) (hdest : canonical world.workDir dest = dest)
    (hbelow : (relative? dest root).isSome = true) (hapart : isAtOrBeneath src dest = false)
    (hapart' : isAtOrBeneath dest src = false) :
    let brought := plan.broughtTo world.disk dest
    let fileNames := brought.flatMap fun f => CallKind.fileNames f .create
    let symbolNames := fun kind => brought.flatMap fun f => plan.declaredNames world.disk f kind
    let after := (plan.observe world (.moved src dest true) s).1.mappings
    after.Lacks src ∧
    (∀ key ∈ fileNames, ∃ path ∈ brought, after.files.get? key = some path ∧
      dest.toList ++ ['/'] <+: path.toList) ∧
    othersIn after.files src fileNames = othersIn s.mappings.files src fileNames ∧
    ∀ kind, othersIn (after.symbolsOf kind) src (symbolNames kind)
      = othersIn (s.mappings.symbolsOf kind) src (symbolNames kind) := by
  intro brought fileNames symbolNames after
  have hafter : after = plan.registerAll world.disk brought
      (plan.handleDelete world src s).1.mappings :=
    mappings_observe_moved hdisk hseen hsrc hdest hbelow
  have hbeneath : ∀ f ∈ brought, dest.toList ++ ['/'] <+: f.toList := fun f hf =>
    beneath_of_mem_broughtTo hdisk hdest hbelow hf
  have hlacks : (plan.handleDelete world src s).1.mappings.Lacks src := by
    have hdeleted := plan.lacks_handleDelete world src s
    rwa [hsrc] at hdeleted
  rw [hafter]
  refine ⟨?_, ?_, ?_, fun kind => ?_⟩
  · exact lacks_registerAll hlacks fun f hf =>
      not_isAtOrBeneath_of_apart hapart hapart' (hbeneath f hf)
  · intro key hkey
    obtain ⟨f, hf, hname⟩ := List.mem_flatMap.mp hkey
    obtain ⟨path, hpath, hget⟩ := get?_registerAll_files hf hname
    exact ⟨path, hpath, hget, hbeneath path hpath⟩
  · rw [registerAll_files, handleDelete_files hsrc]
    refine (othersIn_insertAll fun w hw => ?_).trans othersIn_removeWhere
    obtain ⟨f, hf, hw⟩ := List.mem_flatMap.mp hw
    refine List.mem_flatMap.mpr ⟨f, hf, ?_⟩
    rw [fileNames_create]
    exact List.mem_map_of_mem hw
  · rw [registerAll_symbolsOf, handleDelete_symbolsOf hsrc]
    refine (othersIn_insertAll fun w hw => ?_).trans othersIn_removeWhere
    obtain ⟨f, hf, hw⟩ := List.mem_flatMap.mp hw
    exact List.mem_flatMap.mpr ⟨f, hf, symbolWrites_declaredNames plan world.disk f kind w hw⟩

/-- A tree in which a folder has just become `new` that was `card`, beside a folder `cards`. -/
def movedTree : Disk where
  top := .folder [("r", .folder [("new", .folder [("a.ts", .file .empty)]),
    ("cards", .folder [("b.ts", .file .empty)])])]

/-- The index of the tree as it was before. -/
def beforeMove : IndexState where
  mappings :=
    { Mappings.empty with
      files := .ofList [("a.ts", "/r/card/a.ts"), ("a", "/r/card/a.ts"),
        ("b.ts", "/r/cards/b.ts"), ("b", "/r/cards/b.ts")] }
  initialized := true
  subscribed := true

/-- The file that was moved leads to its new place, and the file in the folder whose name begins
like the old one stays. -/
theorem relocated_by_move_cards :
    let world := Surroundings.calm movedTree
    let after := (wholeTextPlan.observe world (.moved "/r/card" "/r/new" true)
      beforeMove).1.mappings
    (movedTree.top.WellFormed ∧ beforeMove.subscribed = true ∧
      canonical world.workDir "/r/card" = "/r/card" ∧
      canonical world.workDir "/r/new" = "/r/new" ∧ (relative? "/r/new" "/r").isSome = true ∧
      isAtOrBeneath "/r/card" "/r/new" = false ∧ isAtOrBeneath "/r/new" "/r/card" = false) ∧
    after.Lacks "/r/card" ∧ after.files.get? "a" = some "/r/new/a.ts" ∧
      ("b", "/r/cards/b.ts") ∈ after.files.entries := by
  intro world after
  have hdisk : movedTree.top.WellFormed := by decide
  have hsrc : canonical world.workDir "/r/card" = "/r/card" := by decide
  have hdest : canonical world.workDir "/r/new" = "/r/new" := by decide
  have hbelow : (relative? "/r/new" "/r").isSome = true := by decide
  have hapart : isAtOrBeneath "/r/card" "/r/new" = false := by decide
  have hapart' : isAtOrBeneath "/r/new" "/r/card" = false := by decide
  obtain ⟨hlacks, hfiles, hothers, -⟩ := relocated_by_move wholeTextPlan world "/r/card" "/r/new"
    "/r" beforeMove hdisk rfl hsrc hdest hbelow hapart hapart'
  have hbrought : wholeTextPlan.broughtTo movedTree "/r/new" = ["/r/new/a.ts"] := by
    have hlocate : movedTree.locate true "/r/new" = .ok ["new", "r"] := by cbv
    have hwalk : movedTree.walk wholeTextPlan.tracking.walker "/r/new" = .ok ["/r/new/a.ts"] := by
      rw [Disk.walk, hlocate]
      decide +kernel
    rw [broughtTo, Tracking.filesBeneath, hwalk]
    decide
  refine ⟨⟨hdisk, rfl, hsrc, hdest, hbelow, hapart, hapart'⟩, hlacks, ?_, ?_⟩
  · rw [show world.disk = movedTree from rfl, hbrought] at hfiles
    obtain ⟨path, hpath, hget, -⟩ := hfiles "a" (by decide)
    rw [List.mem_singleton.mp hpath] at hget
    exact hget
  · rw [show world.disk = movedTree from rfl, hbrought] at hothers
    have hthere : ("b", "/r/cards/b.ts") ∈ othersIn after.files "/r/card"
        (["/r/new/a.ts"].flatMap fun f => CallKind.fileNames f .create) := by
      rw [hothers]
      decide
    exact List.mem_of_mem_filter hthere

end IndexPlan

end SpokenIndex
