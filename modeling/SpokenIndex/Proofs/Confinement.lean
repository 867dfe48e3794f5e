/-
What an event leaves alone.

An event is about one path.  It removes entries that lead to the path or beneath it, and
it writes under the names of the path.  A write changes the entry of its own key or comes
behind all others, and a removal keeps the order of what it leaves.  So every other entry
of the files and symbols stands after the event as it stood before, with its value, and
these entries follow one another as they did.

Which entries these are is said of each by itself: where it leads and under which name.
So that they are the same ones in the same order is the equality of two filters.
-/
import SpokenIndex.Proofs.Redelivery

namespace SpokenIndex

namespace OrderedMap

variable {κ ν : Type} {key : κ} {writes : List (κ × ν)} {picks : κ × ν → Bool}

/-! ### Entries that are not written and not removed -/

theorem filter_putEntry [DecidableEq κ] (hkey : ∀ value, picks (key, value) = false) (value : ν)
    (l : List (κ × ν)) : (putEntry key value l).filter picks = l.filter picks := by
  induction l with
  | nil => rw [putEntry, List.filter_cons_of_neg (by simp [hkey])]
  | cons e rest ih =>
      obtain ⟨k, v⟩ := e
      rw [putEntry]
      by_cases hk : k = key
      · subst hk
        rw [if_pos rfl, List.filter_cons_of_neg (by simp [hkey]),
          List.filter_cons_of_neg (by simp [hkey])]
      · rw [if_neg hk, List.filter_cons, List.filter_cons, ih]

/-- Entries under other keys than those written stay, in their order. -/
theorem filter_insertAll [DecidableEq κ] (m : OrderedMap κ ν)
    (hwrites : ∀ w ∈ writes, ∀ value, picks (w.1, value) = false) :
    (m.insertAll writes).entries.filter picks = m.entries.filter picks := by
  induction writes generalizing m with
  | nil => rfl
  | cons w rest ih =>
      rw [insertAll_cons, ih _ fun d hd => hwrites d (List.mem_cons_of_mem _ hd)]
      exact filter_putEntry (hwrites w List.mem_cons_self) w.2 m.entries

/-- Entries that are not removed stay, in their order. -/
theorem filter_removeWhere (m : OrderedMap κ ν) {p : κ → ν → Bool}
    (hkept : ∀ e, picks e = true → p e.1 e.2 = false) :
    (m.removeWhere p).entries.filter picks = m.entries.filter picks := by
  show (m.entries.filter fun e => !p e.1 e.2).filter picks = _
  rw [List.filter_filter]
  refine List.filter_congr fun e _ => ?_
  by_cases hpick : picks e = true
  · rw [hpick, hkept e hpick]
    rfl
  · rw [Bool.eq_false_iff.mpr hpick, Bool.false_and]

/-- Writes add keys behind the old ones and take none away. -/
theorem keys_prefix_insertAll [DecidableEq κ] (m : OrderedMap κ ν) (writes : List (κ × ν)) :
    m.keys <+: (m.insertAll writes).keys := by
  rw [keys_insertAll, List.eraseDups_append, eraseDups_of_nodup m.nodup_keys]
  exact List.prefix_append _ _

end OrderedMap

/-- The entries of a mapping that are not a path's: they lead neither to the path nor beneath it,
and stand under none of the given names. -/
def othersIn (map : NameMap) (path : String) (names : List String) : List (String × String) :=
  map.entries.filter fun e => !Path.isAtOrBeneath path e.2 && decide (e.1 ∉ names)

/-- The names under which a call registers a path among the files: its base name and its stem, in
lowercase. -/
def CallKind.fileNames (path : String) : CallKind → List String
  | .create => [Text.lowercase (Path.baseName path), Text.lowercase (Path.stem path)]
  | .delete => []
  | .change => []

namespace IndexPlan

variable {plan : IndexPlan} {world : Surroundings} {path p : String} {s : IndexState}
  {kind : SymbolKind} {names : List String} {map : NameMap} {writes : List (String × String)}

/-- The names under which a call registers symbols of a path: those that the file declares now. -/
def symbolNames (plan : IndexPlan) (disk : Disk) (path : String) (kind : SymbolKind) :
    CallKind → List String
  | .create => plan.declaredNames disk path kind
  | .delete => []
  | .change => plan.declaredNames disk path kind

theorem fileNames_create (path : String) :
    CallKind.fileNames path .create = (fileWrites path).map Prod.fst := rfl

/-! ### One mapping -/

theorem othersIn_insertAll (hnames : ∀ w ∈ writes, w.1 ∈ names) :
    othersIn (map.insertAll writes) p names = othersIn map p names := by
  refine OrderedMap.filter_insertAll map fun w hw value => ?_
  rw [decide_eq_false (not_not.mpr (hnames w hw)), Bool.and_false]

theorem othersIn_removeWhere :
    othersIn (map.removeWhere fun _ owner => Path.isAtOrBeneath p owner) p names
      = othersIn map p names := by
  refine OrderedMap.filter_removeWhere map fun e hpick => ?_
  rw [Bool.and_eq_true, Bool.not_eq_eq_eq_not, Bool.not_true] at hpick
  exact hpick.1

theorem symbolWrites_declaredNames (plan : IndexPlan) (disk : Disk) (path : String)
    (kind : SymbolKind) :
    ∀ w ∈ symbolWrites kind (plan.scanIfSource disk path).1,
      w.1 ∈ plan.declaredNames disk path kind := by
  intro w hw
  exact List.mem_eraseDups.mpr (List.mem_map_of_mem hw)

/-! ### One call -/

section Call

variable (hp : Path.canonical world.workDir path = p)
include hp

theorem othersIn_files_handleCall (call : CallKind) :
    othersIn (plan.handleCall world ⟨call, path⟩ s).1.mappings.files p (call.fileNames p)
      = othersIn s.mappings.files p (call.fileNames p) := by
  cases call with
  | create =>
      by_cases htracked : plan.isTracked p = true
      · rw [handleCall_create, handleCreate_of_tracked hp htracked, register_files]
        rw [fileNames_create]
        exact othersIn_insertAll fun w hw => List.mem_map_of_mem hw
      · rw [handleCall_create, handleCreate_of_not_tracked hp htracked]
  | delete =>
      rw [handleCall_delete, handleDelete_files hp]
      exact othersIn_removeWhere
  | change => rw [handleCall_change, handleChange_files hp]

theorem othersIn_symbolsOf_handleCall (call : CallKind) (kind : SymbolKind) :
    othersIn ((plan.handleCall world ⟨call, path⟩ s).1.mappings.symbolsOf kind) p
        (plan.symbolNames world.disk p kind call)
      = othersIn (s.mappings.symbolsOf kind) p (plan.symbolNames world.disk p kind call) := by
  have hwrites := symbolWrites_declaredNames plan world.disk p kind
  cases call with
  | create =>
      by_cases htracked : plan.isTracked p = true
      · rw [handleCall_create, handleCreate_of_tracked hp htracked, register_symbolsOf]
        exact othersIn_insertAll hwrites
      · rw [handleCall_create, handleCreate_of_not_tracked hp htracked]
  | delete =>
      rw [handleCall_delete, handleDelete_symbolsOf hp]
      exact othersIn_removeWhere
  | change =>
      by_cases hsource : plan.isSource p = true
      · rw [scanIfSource, if_pos hsource] at hwrites
        rw [handleCall_change, handleChange_symbolsOf hp hsource]
        exact (othersIn_insertAll hwrites).trans othersIn_removeWhere
      · rw [handleCall_change, handleChange_of_not_source hp hsource]

/-- A creation adds keys behind those that were there. -/
theorem keys_handleCreate :
    s.mappings.files.keys <+: (plan.handleCreate world path s).1.mappings.files.keys ∧
      s.mappings.folders.keys <+: (plan.handleCreate world path s).1.mappings.folders.keys ∧
      ∀ kind, (s.mappings.symbolsOf kind).keys <+:
        ((plan.handleCreate world path s).1.mappings.symbolsOf kind).keys := by
  by_cases htracked : plan.isTracked p = true
  · rw [handleCreate_of_tracked hp htracked]
    refine ⟨?_, ?_, fun kind => ?_⟩
    · rw [register_files]
      exact OrderedMap.keys_prefix_insertAll _ _
    · rw [register_folders]
      exact OrderedMap.keys_prefix_insertAll _ _
    · rw [register_symbolsOf]
      exact OrderedMap.keys_prefix_insertAll _ _
  · rw [handleCreate_of_not_tracked hp htracked]
    exact ⟨List.prefix_refl _, List.prefix_refl _, fun _ => List.prefix_refl _⟩

end Call

/-- **What an event leaves alone.**  In every state, after any call about a path, the files that
lead neither there nor beneath and, for a creation, stand under neither its base name nor its stem
are the same with the same values and in the same order, and so are the symbols but for those names
that the file there declares now.  A change leaves all files and folders as they are, and a creation
takes no key from any mapping. -/
theorem others_after_call (plan : IndexPlan) (world : Surroundings) (path : String)
    (s : IndexState) :
    let p := Path.canonical world.workDir path
    let after := fun call => (plan.handleCall world ⟨call, path⟩ s).1.mappings
    (∀ call : CallKind,
      othersIn (after call).files p (call.fileNames p)
        = othersIn s.mappings.files p (call.fileNames p) ∧
      ∀ kind, othersIn ((after call).symbolsOf kind) p (plan.symbolNames world.disk p kind call)
        = othersIn (s.mappings.symbolsOf kind) p (plan.symbolNames world.disk p kind call)) ∧
    ((after .change).files = s.mappings.files ∧ (after .change).folders = s.mappings.folders) ∧
    s.mappings.files.keys <+: (after .create).files.keys ∧
      s.mappings.folders.keys <+: (after .create).folders.keys ∧
      ∀ kind, (s.mappings.symbolsOf kind).keys <+: ((after .create).symbolsOf kind).keys := by
  intro p after
  refine ⟨fun call => ⟨?_, fun kind => ?_⟩, ⟨?_, ?_⟩, ?_⟩
  · exact othersIn_files_handleCall rfl call
  · exact othersIn_symbolsOf_handleCall rfl call kind
  · exact handleChange_files rfl
  · exact handleChange_folders rfl
  · exact keys_handleCreate rfl

end IndexPlan

end SpokenIndex
