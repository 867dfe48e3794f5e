/-
What is done with an index in its life, and where its entries come from.

An index is initialized, is told of changes, is cleared and is released, in any order and
each time in surroundings of the moment.  None of this makes up an entry.  An entry that
is there after an operation was there before, or the operation concerns a path that is
indexed and the entry is one that this path writes.  An entry for a folder is the only
one that may come from elsewhere, because a deletion lists the whole tree for it.
-/
import SpokenIndex.Proofs.Initialization

namespace SpokenIndex

/-- What is done with an index. -/
inductive Operation where
  | populate (world : Surroundings) (bulk : Option (List String))
  | call (world : Surroundings) (c : Call)
  | reset
  | dispose

namespace IndexPlan

/-- The index after an operation. -/
def perform (plan : IndexPlan) (s : IndexState) : Operation → IndexState
  | .populate world bulk => (plan.establish world bulk s).2.1
  | .call world c => (plan.answerCall world c s).2.1
  | .reset => reset s
  | .dispose => (plan.dispose s).1

/-- The index after operations, first to last. -/
def performAll (plan : IndexPlan) (s : IndexState) (ops : List Operation) : IndexState :=
  ops.foldl plan.perform s

/-- Whether an operation is about a path: that of a call, or one of those that an initialization
begins with. -/
def Concerns (plan : IndexPlan) : Operation → String → Prop
  | .populate world bulk, path =>
    ∃ paths, plan.bulkPaths world bulk = .ok paths ∧
      path ∈ paths.map (Path.canonical world.workDir)
  | .call world c, path => path = Path.canonical world.workDir c.path
  | .reset, _ => False
  | .dispose, _ => False

variable {plan : IndexPlan} {world : Surroundings} {s : IndexState} {op : Operation}
  {ops : List Operation} {name owner : String} {e : String × String}

/-- What each operation keeps of the mappings, all of them keep. -/
theorem performAll_induction (holds : Mappings → Prop) (hstart : holds s.mappings)
    (hstep : ∀ s, holds s.mappings → ∀ op ∈ ops, holds (plan.perform s op).mappings) :
    holds (plan.performAll s ops).mappings := by
  induction ops generalizing s with
  | nil => exact hstart
  | cons op rest ih =>
      refine ih (hstep s hstart op List.mem_cons_self) fun s hs other hother => ?_
      exact hstep s hs other (List.mem_cons_of_mem _ hother)

/-! ### Initialization -/

/-- An initialization leaves the mappings as they are, clears them, or adds its bulk. -/
theorem mappings_populate (plan : IndexPlan) (world : Surroundings) (bulk : Option (List String))
    (s : IndexState) :
    (plan.populate world bulk s).2.1.mappings = s.mappings ∨
      (plan.populate world bulk s).2.1.mappings = .empty ∨
        ∃ paths, plan.bulkPaths world bulk = .ok paths ∧
          (plan.populate world bulk s).2.1.mappings = (plan.addBulk world.disk
            (paths.map (Path.canonical world.workDir)) s.mappings).1 := by
  by_cases hinitialized : s.initialized = true
  · unfold populate
    rw [if_pos hinitialized]
    exact Or.inl rfl
  · rw [Bool.not_eq_true] at hinitialized
    refine Or.inr ?_
    rcases hsubscribe : plan.subscribe world s with ⟨answer, journal⟩
    cases answer with
    | error reason =>
        rw [populate_of_refused hinitialized hsubscribe]
        exact Or.inl rfl
    | ok subscribed =>
        rw [populate_eq hinitialized hsubscribe]
        cases hpaths : plan.bulkPaths world bulk with
        | error reason => exact Or.inl rfl
        | ok paths =>
            refine Or.inr ⟨paths, rfl, ?_⟩
            simp only [subscribe_mappings hsubscribe]

/-- What an initialization adds to a mapping is written by a tracked file of its bulk. -/
theorem of_mem_populate {bulk : Option (List String)} (mapping : Mappings → NameMap)
    (writes : String → List (String × String)) (hempty : mapping .empty = .empty)
    (hbulk : ∀ paths, mapping (plan.addBulk world.disk paths s.mappings).1
      = (mapping s.mappings).insertAll ((plan.admitted world.disk paths).flatMap writes))
    (h : e ∈ (mapping (plan.perform s (.populate world bulk)).mappings).entries) :
    e ∈ (mapping s.mappings).entries ∨
      ∃ path, plan.Concerns (.populate world bulk) path ∧ plan.isTracked path = true ∧
        e ∈ writes path := by
  obtain ⟨taken, htaken, hmappings⟩ := mappings_establish plan world bulk s
  rw [perform, hmappings] at h
  rcases mappings_populate plan world taken s with hsame | hcleared | ⟨paths, hpaths, hadded⟩
  · exact Or.inl (hsame ▸ h)
  · rw [hcleared, hempty] at h
    exact absurd h List.not_mem_nil
  · rw [hadded, hbulk] at h
    rcases OrderedMap.mem_of_mem_insertAll h with h | ⟨h, -⟩
    · obtain ⟨path, hpath, hwrite⟩ := List.mem_flatMap.mp h
      obtain ⟨hin, htracked, -⟩ := mem_admitted.mp hpath
      refine Or.inr ⟨path, ?_, htracked, hwrite⟩
      rcases htaken with rfl | ⟨given, before, rfl, rfl, hbefore⟩
      · exact ⟨paths, hpaths, hin⟩
      · obtain rfl := Except.ok.inj hpaths
        exact ⟨given, rfl, (hbefore.map _).subset hin⟩
    · exact Or.inl h

/-! ### Where an entry comes from -/

theorem of_mem_files_perform (h : e ∈ (plan.perform s op).mappings.files.entries) :
    e ∈ s.mappings.files.entries ∨
      ∃ path, plan.Concerns op path ∧ plan.isTracked path = true ∧ e ∈ fileWrites path := by
  cases op with
  | populate world bulk =>
      exact of_mem_populate (·.files) fileWrites rfl (fun _ => addBulk_files) h
  | call world c =>
      refine (answerCall_state plan world c s).elim (fun hsame => Or.inl (hsame ▸ h)) fun heq => ?_
      rw [perform, heq] at h
      obtain ⟨callKind, path⟩ := c
      cases callKind with
      | create =>
          rw [handleCall_create] at h
          by_cases htracked : plan.isTracked (Path.canonical world.workDir path) = true
          · rcases of_mem_files_handleCreate rfl h with h | h
            · exact Or.inr ⟨_, rfl, htracked, h⟩
            · exact Or.inl h
          · rw [handleCreate_of_not_tracked rfl htracked] at h
            exact Or.inl h
      | delete => exact Or.inl ((mem_files_handleDelete rfl).mp h).1
      | change =>
          rw [handleCall_change, handleChange_files rfl] at h
          exact Or.inl h
  | reset => exact absurd h List.not_mem_nil
  | dispose => exact absurd h List.not_mem_nil

theorem of_mem_symbolsOf_perform (kind : SymbolKind)
    (h : (name, owner) ∈ ((plan.perform s op).mappings.symbolsOf kind).entries) :
    (name, owner) ∈ (s.mappings.symbolsOf kind).entries ∨
      plan.Concerns op owner ∧ plan.isSource owner = true ∧
        ∃ disk, plan.Declares disk owner ⟨name, kind, owner⟩ := by
  cases op with
  | populate world bulk =>
      rcases of_mem_populate (·.symbolsOf kind) _ (by cases kind <;> rfl)
        (fun _ => addBulk_symbolsOf) h with h | ⟨path, hconcerns, -, hwrite⟩
      · exact Or.inl h
      · obtain ⟨hsource, hdeclares⟩ := mem_scanIfSource_symbolWrites.mp hwrite
        obtain rfl : owner = path := hdeclares.owner_eq
        exact Or.inr ⟨hconcerns, hsource, _, hdeclares⟩
  | call world c =>
      refine (answerCall_state plan world c s).elim (fun hsame => Or.inl (hsame ▸ h)) fun heq => ?_
      rw [perform, heq] at h
      obtain ⟨callKind, path⟩ := c
      cases callKind with
      | create =>
          rcases of_mem_symbolsOf_handleCreate rfl h with ⟨hsource, hdeclares⟩ | h
          · obtain rfl : owner = Path.canonical world.workDir path := hdeclares.owner_eq
            exact Or.inr ⟨rfl, hsource, _, hdeclares⟩
          · exact Or.inl h
      | delete => exact Or.inl ((mem_symbolsOf_handleDelete rfl).mp h).1
      | change =>
          rw [handleCall_change] at h
          by_cases hsource : plan.isSource (Path.canonical world.workDir path) = true
          · rcases of_mem_symbolsOf_handleChange rfl hsource h with hdeclares | ⟨h, -⟩
            · obtain rfl : owner = Path.canonical world.workDir path := hdeclares.owner_eq
              exact Or.inr ⟨rfl, hsource, _, hdeclares⟩
            · exact Or.inl h
          · rw [handleChange_of_not_source rfl hsource] at h
            exact Or.inl h
  | reset => cases kind <;> exact absurd h List.not_mem_nil
  | dispose => cases kind <;> exact absurd h List.not_mem_nil

theorem of_mem_folders_perform (h : e ∈ (plan.perform s op).mappings.folders.entries) :
    e ∈ s.mappings.folders.entries ∨
      ∃ cwd path, e ∈ plan.folderWrites (Path.canonical cwd path) := by
  cases op with
  | populate world bulk =>
      rcases of_mem_populate (·.folders) plan.folderWrites rfl (fun _ => addBulk_folders) h with
        h | ⟨path, ⟨paths, -, hin⟩, -, hwrite⟩
      · exact Or.inl h
      · obtain ⟨given, -, rfl⟩ := List.mem_map.mp hin
        exact Or.inr ⟨_, given, hwrite⟩
  | call world c =>
      refine (answerCall_state plan world c s).elim (fun hsame => Or.inl (hsame ▸ h)) fun heq => ?_
      rw [perform, heq] at h
      obtain ⟨callKind, path⟩ := c
      cases callKind with
      | create =>
          rcases of_mem_folders_handleCreate rfl h with h | h
          · exact Or.inr ⟨_, path, h⟩
          · exact Or.inl h
      | delete =>
          rw [handleCall_delete] at h
          cases hlist : plan.listTree world with
          | error reason =>
              rw [handleDelete, rebuildFolders, hlist] at h
              exact Or.inl h
          | ok paths =>
              rw [handleDelete_folders hlist] at h
              obtain ⟨p, hp, hwrite⟩ := List.mem_flatMap.mp (OrderedMap.mem_of_mem_ofList h)
              obtain ⟨given, -, rfl⟩ := List.mem_map.mp (List.mem_filter.mp hp).1
              exact Or.inr ⟨_, given, hwrite⟩
      | change =>
          rw [handleCall_change, handleChange_folders rfl] at h
          exact Or.inl h
  | reset => exact absurd h List.not_mem_nil
  | dispose => exact absurd h List.not_mem_nil

end IndexPlan

end SpokenIndex
