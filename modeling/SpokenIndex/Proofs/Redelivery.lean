/-
What a second delivery of the same change does.

A watcher may report a change twice.  To create a file a second time writes what stands
there already, and to delete it a second time drops nothing, so these two leave the index
as it is, down to the order of its keys.

A change drops the symbols of its file before it writes them again.  The keys that lead
to the file are the same after every delivery, but not their places.  At the first a
declared name may take over the place that another file gave it; the second drops it
there and puts it behind all others.  So a second delivery moves nothing exactly if the
declared names stand last already, and a third one never does.
-/
import SpokenIndex.Matching.Transcript
import SpokenIndex.Proofs.Climb
import SpokenIndex.Proofs.History
import SpokenIndex.Proofs.LastWrites
import SpokenIndex.Proofs.Observers
import SpokenIndex.Proofs.Watched

namespace SpokenIndex

namespace OrderedMap

variable {κ ν : Type} [DecidableEq κ] {m : OrderedMap κ ν} {key : κ} {writes : List (κ × ν)}
  {owned : ν → Bool}

/-! ### The same removal again -/

omit [DecidableEq κ] in
/-- The same removal again changes nothing. -/
theorem removeWhere_removeWhere_self (m : OrderedMap κ ν) (p : κ → ν → Bool) :
    (m.removeWhere p).removeWhere p = m.removeWhere p := by
  refine OrderedMap.ext ?_
  simp only [removeWhere, List.filter_filter, Bool.and_self]

/-- What is found at a key after a removal. -/
theorem get?_removeWhere (m : OrderedMap κ ν) (p : κ → ν → Bool) (key : κ) :
    (m.removeWhere p).get? key = (m.get? key).filter fun value => !p key value := by
  refine Option.ext fun value => ?_
  rw [get?_eq_some_iff, mem_entries_removeWhere, ← get?_eq_some_iff, Option.filter_eq_some_iff,
    Bool.not_eq_true']

/-! ### Dropped and written again -/

/-- The map after the entries of an owner are dropped and written again. -/
def refresh (m : OrderedMap κ ν) (owned : ν → Bool) (writes : List (κ × ν)) : OrderedMap κ ν :=
  (m.removeWhere fun _ value => owned value).insertAll writes

theorem get?_refresh (m : OrderedMap κ ν) (owned : ν → Bool) (writes : List (κ × ν)) (key : κ) :
    (m.refresh owned writes).get? key
      = (writes.reverse.lookup key).or ((m.get? key).filter fun value => !owned value) := by
  rw [refresh, get?_insertAll, get?_removeWhere]

/-- A second time leads every key to where the first time led it. -/
theorem get?_refresh_refresh (m : OrderedMap κ ν) (owned : ν → Bool) (writes : List (κ × ν))
    (key : κ) :
    ((m.refresh owned writes).refresh owned writes).get? key
      = (m.refresh owned writes).get? key := by
  rw [get?_refresh, get?_refresh m]
  cases writes.reverse.lookup key with
  | some value => rfl
  | none => simp [Option.filter_filter]

section Owner

variable (howned : ∀ w ∈ writes, owned w.2 = true)
include howned

/-- The entries of the owner are those at the keys that were written. -/
theorem owned_iff_of_mem_refresh {e : κ × ν} (he : e ∈ (m.refresh owned writes).entries) :
    owned e.2 = true ↔ e.1 ∈ writes.map Prod.fst := by
  rcases mem_of_mem_insertAll he with hwrite | ⟨hkept, hfree⟩
  · exact iff_of_true (howned e hwrite) (List.mem_map_of_mem hwrite)
  · have hother : owned e.2 = false := (mem_entries_removeWhere.mp hkept).2
    refine iff_of_false (by simp [hother]) fun hkey => ?_
    obtain ⟨w, hw, heq⟩ := List.mem_map.mp hkey
    exact hfree w hw heq

/-- A second time moves the written keys behind all others. -/
theorem keys_refresh_refresh (m : OrderedMap κ ν) :
    ((m.refresh owned writes).refresh owned writes).keys
      = (m.refresh owned writes).keys.filter (fun key => decide (key ∉ writes.map Prod.fst))
        ++ (writes.map Prod.fst).eraseDups := by
  have hothers : ((m.refresh owned writes).removeWhere fun _ value => owned value).keys
      = (m.refresh owned writes).keys.filter
          (fun key => decide (key ∉ writes.map Prod.fst)) := by
    rw [keys, keys, List.filter_map]
    refine congrArg (List.map Prod.fst) (List.filter_congr fun e he => ?_)
    rw [Function.comp_apply, Bool.eq_iff_iff, Bool.not_eq_true', decide_eq_true_iff,
      ← owned_iff_of_mem_refresh howned he, Bool.not_eq_true]
  rw [refresh, keys_insertAll_of_new, hothers]
  intro key hkey hin
  rw [hothers, List.mem_filter, decide_eq_true_iff] at hin
  exact hin.2 hkey

/-- A second time moves nothing exactly if the written keys stand last after the first. -/
theorem refresh_refresh_eq_iff (m : OrderedMap κ ν) :
    (m.refresh owned writes).refresh owned writes = m.refresh owned writes ↔
      (writes.map Prod.fst).eraseDups <:+ (m.refresh owned writes).keys := by
  have hkeys := keys_refresh_refresh howned m
  constructor
  · intro hsame
    rw [hsame] at hkeys
    exact ⟨_, hkeys.symm⟩
  · intro hlast
    obtain ⟨before, hbefore⟩ := hlast
    refine eq_of_keys_eq (hkeys.trans ?_) (get?_refresh_refresh m owned writes)
    have hnodup : (before ++ (writes.map Prod.fst).eraseDups).Nodup :=
      hbefore ▸ nodup_keys (m.refresh owned writes)
    have hothers : before.filter (fun key => decide (key ∉ writes.map Prod.fst)) = before := by
      refine List.filter_eq_self.mpr fun key hkey => decide_eq_true fun hwritten => ?_
      exact (List.nodup_append.mp hnodup).2.2 key hkey key (List.mem_eraseDups.mpr hwritten) rfl
    have hnone : (writes.map Prod.fst).eraseDups.filter
        (fun key => decide (key ∉ writes.map Prod.fst)) = [] := by
      refine List.filter_eq_nil_iff.mpr fun key hkey hnew => ?_
      exact of_decide_eq_true hnew (List.mem_eraseDups.mp hkey)
    rw [← hbefore, List.filter_append, hothers, hnone, List.append_nil]

/-- A third time never moves anything. -/
theorem refresh_refresh_refresh (m : OrderedMap κ ν) :
    ((m.refresh owned writes).refresh owned writes).refresh owned writes
      = (m.refresh owned writes).refresh owned writes := by
  refine (refresh_refresh_eq_iff howned (m.refresh owned writes)).mpr ?_
  rw [keys_refresh_refresh howned m]
  exact List.suffix_append _ _

/-- A second time moves nothing where no written key was another owner's. -/
theorem refresh_refresh_eq_of_free
    (hfree : ∀ e ∈ m.entries, e.1 ∈ writes.map Prod.fst → owned e.2 = true) :
    (m.refresh owned writes).refresh owned writes = m.refresh owned writes := by
  refine (refresh_refresh_eq_iff howned m).mpr ?_
  rw [refresh, keys_insertAll_of_new]
  · exact List.suffix_append _ _
  · intro key hkey hin
    obtain ⟨value, he, hother⟩ := mem_keys_removeWhere.mp hin
    simp [hfree _ he hkey] at hother

end Owner

end OrderedMap

theorem Mappings.ext_symbolsOf {m other : Mappings} (hfiles : m.files = other.files)
    (hfolders : m.folders = other.folders)
    (hsymbols : ∀ kind, m.symbolsOf kind = other.symbolsOf kind) : m = other :=
  Mappings.ext hfiles hfolders (hsymbols .component) (hsymbols .function)

/-- Two indices in which the same keys lead to the same paths.  Files and folders stand in the same
order, symbols perhaps not. -/
structure Mappings.LeadsAlike (m other : Mappings) : Prop where
  files : m.files = other.files
  folders : m.folders = other.folders
  symbols : ∀ kind key, (m.symbolsOf kind).get? key = (other.symbolsOf kind).get? key

namespace IndexPlan

open Matching

variable {plan : IndexPlan} {world : Surroundings} {path p : String} {s : IndexState} {c : Call}

theorem owned_of_mem_scan_symbolWrites {disk : Disk} {kind : SymbolKind} {w : String × String}
    (hw : w ∈ symbolWrites kind (plan.scan disk path).1) :
    Path.isAtOrBeneath path w.2 = true := by
  obtain ⟨name, owner⟩ := w
  have howner : owner = path := (mem_scan_symbolWrites.mp hw).owner_eq
  rw [howner, Path.isAtOrBeneath, beq_self_eq_true, Bool.true_or]

/-! ### A creation, a deletion -/

theorem register_register (plan : IndexPlan) (path : String) (symbols : List Symbol)
    (m : Mappings) :
    plan.register path symbols (plan.register path symbols m) = plan.register path symbols m := by
  refine Mappings.ext_symbolsOf ?_ ?_ fun kind => ?_
  · simp only [register_files, OrderedMap.insertAll_insertAll_self]
  · simp only [register_folders, OrderedMap.insertAll_insertAll_self]
  · simp only [register_symbolsOf, OrderedMap.insertAll_insertAll_self]

/-- A handler keeps the flags, so the state after it is known by its mappings. -/
theorem handleCall_eq_of_mappings
    (h : (plan.handleCall world c s).1.mappings = s.mappings) :
    (plan.handleCall world c s).1 = s := by
  obtain ⟨hinitialized, hsubscribed⟩ := handleCall_flags plan world c s
  exact IndexState.ext h hinitialized hsubscribed

theorem handleCreate_again (plan : IndexPlan) (world : Surroundings) (path : String)
    (s : IndexState) :
    (plan.handleCreate world path (plan.handleCreate world path s).1).1.mappings
      = (plan.handleCreate world path s).1.mappings := by
  by_cases htracked : plan.isTracked (Path.canonical world.workDir path) = true
  · rw [handleCreate_of_tracked rfl htracked, handleCreate_of_tracked rfl htracked,
      register_register]
  · rw [handleCreate_of_not_tracked rfl htracked]

theorem handleDelete_again (plan : IndexPlan) (world : Surroundings) (path : String)
    (s : IndexState) :
    (plan.handleDelete world path (plan.handleDelete world path s).1).1.mappings
      = (plan.handleDelete world path s).1.mappings := by
  refine Mappings.ext_symbolsOf ?_ ?_ fun kind => ?_
  · rw [handleDelete_files rfl, handleDelete_files rfl, OrderedMap.removeWhere_removeWhere_self]
  · cases hlist : plan.listTree world with
    | ok paths => rw [handleDelete_folders hlist, handleDelete_folders hlist]
    | error reason => rw [handleDelete, rebuildFolders, hlist]; rfl
  · rw [handleDelete_symbolsOf rfl, handleDelete_symbolsOf rfl,
      OrderedMap.removeWhere_removeWhere_self]

/-! ### A change -/

/-- The names of one kind that a file declares, in the order in which it declares them first. -/
def declaredNames (plan : IndexPlan) (disk : Disk) (path : String) (kind : SymbolKind) :
    List String :=
  ((symbolWrites kind (plan.scanIfSource disk path).1).map Prod.fst).eraseDups

/-- The names that a file declares stand last in their mappings. -/
def DeclaredLast (plan : IndexPlan) (disk : Disk) (path : String) (m : Mappings) : Prop :=
  ∀ kind, plan.declaredNames disk path kind <:+ (m.symbolsOf kind).keys

/-- No name that a file declares leads to another file. -/
def DeclaredFree (plan : IndexPlan) (disk : Disk) (path : String) (m : Mappings) : Prop :=
  ∀ kind, ∀ e ∈ (m.symbolsOf kind).entries, e.1 ∈ plan.declaredNames disk path kind →
    Path.isAtOrBeneath path e.2 = true

section Change

variable (hsource : plan.isSource (Path.canonical world.workDir path) = true)
include hsource

/-- After a change the symbols of its file have been dropped and written again. -/
theorem handleChange_refresh (s : IndexState) (kind : SymbolKind) :
    (plan.handleChange world path s).1.mappings.symbolsOf kind
      = (s.mappings.symbolsOf kind).refresh
          (Path.isAtOrBeneath (Path.canonical world.workDir path))
          (symbolWrites kind (plan.scan world.disk (Path.canonical world.workDir path)).1) :=
  handleChange_symbolsOf rfl hsource

theorem declaredNames_of_source (disk : Disk) (kind : SymbolKind) :
    plan.declaredNames disk (Path.canonical world.workDir path) kind
      = ((symbolWrites kind (plan.scan disk (Path.canonical world.workDir path)).1).map
          Prod.fst).eraseDups := by
  rw [declaredNames, scanIfSource, if_pos hsource]

end Change

/-- A second change touches symbols only. -/
theorem handleChange_again_iff (s : IndexState) :
    (plan.handleChange world path (plan.handleChange world path s).1).1.mappings
        = (plan.handleChange world path s).1.mappings ↔
      ∀ kind, (plan.handleChange world path (plan.handleChange world path s).1).1.mappings.symbolsOf
          kind = (plan.handleChange world path s).1.mappings.symbolsOf kind := by
  constructor
  · intro hsame kind
    rw [hsame]
  · intro hsymbols
    exact Mappings.ext_symbolsOf (handleChange_files rfl) (handleChange_folders rfl) hsymbols

theorem leadsAlike_handleChange_again (plan : IndexPlan) (world : Surroundings) (path : String)
    (s : IndexState) :
    (plan.handleChange world path (plan.handleChange world path s).1).1.mappings.LeadsAlike
      (plan.handleChange world path s).1.mappings := by
  refine ⟨handleChange_files rfl, handleChange_folders rfl, fun kind key => ?_⟩
  by_cases hsource : plan.isSource (Path.canonical world.workDir path) = true
  · simp only [handleChange_refresh hsource, OrderedMap.get?_refresh_refresh]
  · simp only [handleChange_of_not_source rfl hsource]

theorem handleChange_again_eq_iff (plan : IndexPlan) (world : Surroundings) (path : String)
    (s : IndexState) :
    (plan.handleChange world path (plan.handleChange world path s).1).1.mappings
        = (plan.handleChange world path s).1.mappings ↔
      plan.DeclaredLast world.disk (Path.canonical world.workDir path)
        (plan.handleChange world path s).1.mappings := by
  by_cases hsource : plan.isSource (Path.canonical world.workDir path) = true
  · rw [handleChange_again_iff]
    refine forall_congr' fun kind => ?_
    rw [declaredNames_of_source hsource, handleChange_refresh hsource, handleChange_refresh hsource]
    exact OrderedMap.refresh_refresh_eq_iff (fun w hw => owned_of_mem_scan_symbolWrites hw) _
  · refine iff_of_true (by rw [handleChange_of_not_source rfl hsource]) fun kind => ?_
    rw [declaredNames, scanIfSource, if_neg hsource]
    exact List.nil_suffix

/-- Names that led to no other file before a change stand last after it. -/
theorem DeclaredFree.declaredLast
    (h : plan.DeclaredFree world.disk (Path.canonical world.workDir path) s.mappings) :
    plan.DeclaredLast world.disk (Path.canonical world.workDir path)
      (plan.handleChange world path s).1.mappings := by
  rw [← handleChange_again_eq_iff]
  by_cases hsource : plan.isSource (Path.canonical world.workDir path) = true
  · refine (handleChange_again_iff s).mpr fun kind => ?_
    rw [handleChange_refresh hsource, handleChange_refresh hsource]
    refine OrderedMap.refresh_refresh_eq_of_free (fun w hw => owned_of_mem_scan_symbolWrites hw) ?_
    intro e he hwritten
    refine h kind e he ?_
    rw [declaredNames_of_source hsource]
    exact List.mem_eraseDups.mpr hwritten
  · rw [handleChange_of_not_source rfl hsource]

/-- After a second change the declared names stand last. -/
theorem declaredLast_handleChange_again (plan : IndexPlan) (world : Surroundings) (path : String)
    (s : IndexState) :
    plan.DeclaredLast world.disk (Path.canonical world.workDir path)
      (plan.handleChange world path (plan.handleChange world path s).1).1.mappings := by
  rw [← handleChange_again_eq_iff]
  by_cases hsource : plan.isSource (Path.canonical world.workDir path) = true
  · refine (handleChange_again_iff _).mpr fun kind => ?_
    simp only [handleChange_refresh hsource]
    exact OrderedMap.refresh_refresh_refresh (fun w hw => owned_of_mem_scan_symbolWrites hw) _
  · simp only [handleChange_of_not_source rfl hsource]

/-! ### Any call -/

theorem mappings_handleCall_again (world : Surroundings) (s : IndexState)
    (hkind : c.kind ≠ .change) :
    (plan.handleCall world c (plan.handleCall world c s).1).1.mappings
      = (plan.handleCall world c s).1.mappings := by
  obtain ⟨kind, path⟩ := c
  cases kind with
  | create => exact handleCreate_again plan world path s
  | delete => exact handleDelete_again plan world path s
  | change => exact absurd rfl hkind

/-- **What a second delivery does.**  In every state, if a call comes to an end, then it does so
again.  A creation and a deletion that are handled twice leave the index as they left it the first
time, and every transcript has the same answer.  So does a change whose file declares no name that
led to another file.  Any change leads each key to the same path as the first time, moves nothing
exactly if the declared names stand last after the first time, and never moves anything the third
time. -/
theorem delivered_twice (plan : IndexPlan) (world : Surroundings) (c : Call)
    {s once : IndexState} (honce : plan.Handles world c s once) :
    let path := Path.canonical world.workDir c.path
    ∃ twice, plan.Handles world c once twice ∧
      (c.kind ≠ .change ∨ plan.DeclaredFree world.disk path s.mappings →
        twice = once ∧ ∀ settings transcript,
          resolve settings twice.mappings transcript = resolve settings once.mappings transcript) ∧
      (c.kind = .change → (twice = once ↔ plan.DeclaredLast world.disk path once.mappings)) ∧
      twice.mappings.LeadsAlike once.mappings ∧ plan.Handles world c twice twice := by
  intro path
  obtain ⟨hends, rfl⟩ := honce
  let once := (plan.handleCall world c s).1
  let twice := (plan.handleCall world c once).1
  have hsettled : twice.mappings = once.mappings →
      twice = once ∧ ∀ settings transcript,
        resolve settings twice.mappings transcript = resolve settings once.mappings transcript :=
    fun hsame => ⟨handleCall_eq_of_mappings hsame, fun settings transcript => by rw [hsame]⟩
  refine ⟨twice, ⟨hends, rfl⟩, ?_⟩
  by_cases hkind : c.kind = .change
  · obtain ⟨kind, given⟩ := c
    obtain rfl := hkind
    have hlast : twice.mappings = once.mappings ↔
        plan.DeclaredLast world.disk path once.mappings :=
      handleChange_again_eq_iff plan world given s
    have hthird : plan.DeclaredLast world.disk path twice.mappings :=
      declaredLast_handleChange_again plan world given s
    refine ⟨fun hgiven => hsettled (hlast.mpr ?_), fun _ => ?_,
      leadsAlike_handleChange_again plan world given s, ?_⟩
    · exact (hgiven.resolve_left (by simp)).declaredLast
    · rw [← hlast]
      exact ⟨fun htwice => by rw [htwice], handleCall_eq_of_mappings⟩
    · exact ⟨hends, handleCall_eq_of_mappings
        ((handleChange_again_eq_iff plan world given once).mpr hthird)⟩
  · have hsame : twice.mappings = once.mappings := mappings_handleCall_again world s hkind
    have htwice : twice = once := handleCall_eq_of_mappings hsame
    refine ⟨fun _ => hsettled hsame, fun hchange => absurd hchange hkind, ?_, ?_⟩
    · rw [htwice]
      exact ⟨rfl, rfl, fun _ _ => rfl⟩
    · rw [htwice]
      exact ⟨hends, htwice⟩

/-- Three files, the first and the last of which declare the same name. -/
def namesakes : Disk where
  top := .folder [("r", .folder [("a.ts", .file "alphaone".toUTF8),
    ("b.ts", .file "alphatwo".toUTF8), ("c.ts", .file "alphaone".toUTF8)])]

/-- The index of the first two of the three. -/
theorem performAll_namesakes :
    (wholeTextPlan.performAll .fresh
        [.populate (.calm namesakes) (some ["/r/a.ts", "/r/b.ts"])]).mappings
      = wholeTextPlan.register "/r/b.ts" [⟨"alphatwo", .function, "/r/b.ts"⟩]
          (wholeTextPlan.register "/r/a.ts" [⟨"alphaone", .function, "/r/a.ts"⟩] .empty) := by
  have hfirst : (wholeTextPlan.scanIfSource namesakes "/r/a.ts").1
      = [⟨"alphaone", .function, "/r/a.ts"⟩] := by cbv
  have hsecond : (wholeTextPlan.scanIfSource namesakes "/r/b.ts").1
      = [⟨"alphatwo", .function, "/r/b.ts"⟩] := by cbv
  rw [performAll, List.foldl_cons, List.foldl_nil, perform, establish_snd (by decide)]
  refine (mappings_populate_all (.calm _) rfl (by decide) (by cbv)).trans ?_
  rw [List.foldl_cons, List.foldl_cons, List.foldl_nil]
  exact congrArg₂ _ hsecond (congrArg₂ _ hfirst rfl)

/-- The third file is created.  It takes the name over, and a second report of that changes nothing
and leads a transcript nowhere else. -/
theorem delivered_twice_namesakes :
    let world := Surroundings.calm namesakes
    let s := wholeTextPlan.performAll .fresh [.populate world (some ["/r/a.ts", "/r/b.ts"])]
    let once := (wholeTextPlan.handleCall world ⟨.create, "/r/c.ts"⟩ s).1
    wholeTextPlan.Handles world ⟨.create, "/r/c.ts"⟩ s once ∧
      ∃ twice, wholeTextPlan.Handles world ⟨.create, "/r/c.ts"⟩ once twice ∧ twice = once ∧
        ∀ transcript, resolve .standard twice.mappings transcript
          = resolve .standard once.mappings transcript := by
  intro world s once
  have hcanonical : Path.canonical world.workDir "/r/c.ts" = "/r/c.ts" := by decide
  have hwalk : Path.WalksUp wholeTextPlan.root "/r/c.ts" [] :=
    .inside (by decide) (.ended (by decide))
  have honce : wholeTextPlan.Handles world ⟨.create, "/r/c.ts"⟩ s once :=
    handles_create s (hcanonical.symm ▸ hwalk)
  obtain ⟨twice, htwice, hsettled, -⟩ :=
    delivered_twice wholeTextPlan world ⟨.create, "/r/c.ts"⟩ honce
  obtain ⟨hsame, hresolved⟩ := hsettled (Or.inl (by simp))
  exact ⟨honce, twice, htwice, hsame, hresolved .standard⟩

/-- The third file takes the name over in its old place.  A second report of the same change moves
the name behind the other, and the same transcript refers to another file. -/
theorem second_change_reorders :
    let world := Surroundings.calm namesakes
    let s := wholeTextPlan.performAll .fresh [.populate world (some ["/r/a.ts", "/r/b.ts"])]
    let once := (wholeTextPlan.handleCall world ⟨.change, "/r/c.ts"⟩ s).1
    let twice := (wholeTextPlan.handleCall world ⟨.change, "/r/c.ts"⟩ once).1
    once.mappings.functions.entries = [("alphaone", "/r/c.ts"), ("alphatwo", "/r/b.ts")] ∧
      twice.mappings.functions.entries = [("alphatwo", "/r/b.ts"), ("alphaone", "/r/c.ts")] ∧
      (resolve .standard once.mappings "alpha").paths = ["/r/c.ts"] ∧
      (resolve .standard twice.mappings "alpha").paths = ["/r/b.ts"] := by
  intro world s once twice
  have hcanonical : Path.canonical world.workDir "/r/c.ts" = "/r/c.ts" := by decide
  have hscan : (wholeTextPlan.scan namesakes "/r/c.ts").1
      = [⟨"alphaone", .function, "/r/c.ts"⟩] := by cbv
  have hchange : ∀ (s : IndexState) (m : Mappings), s.mappings = m →
      (wholeTextPlan.handleCall world ⟨.change, "/r/c.ts"⟩ s).1.mappings
        = registerSymbols [⟨"alphaone", .function, "/r/c.ts"⟩] (dropSymbols "/r/c.ts" m) := by
    intro s m hm
    rw [handleCall_change, handleChange_of_source hcanonical (by decide), hm]
    exact congrArg (registerSymbols · _) hscan
  have honce : once.mappings = _ := hchange s _ performAll_namesakes
  have htwice : twice.mappings = _ := hchange once _ honce
  rw [htwice, honce]
  decide +kernel

end IndexPlan

end SpokenIndex
