/-
Nothing stale outlives the queue.

An entry of the index may speak of a file as it was.  What holds at every moment is that
such an entry has a call waiting that will drop it: the deletion of its file, or for a
symbol also a change of its file.  The delicate step is the creation of a file that was
deleted again before its creation is handled; then the deletion waits behind it, and
that is the third part of the invariant.  Once no call waits, no entry is stale.

Nothing is assumed of how often a file changes, of the extractor, or of whether the tree
can be listed when a call is handled.
-/
import SpokenIndex.Proofs.Watched

namespace SpokenIndex

open Disk IndexPlan

/-- A path is that of a file, or its deletion waits. -/
def Stands (disk : Disk) (queue : List Call) (path : String) : Prop :=
  disk.isFile path = true ∨ ⟨.delete, path⟩ ∈ queue

/-- A symbol is declared by its file, or a change or the deletion of the file waits. -/
def Current (plan : IndexPlan) (disk : Disk) (queue : List Call) (sym : Symbol) : Prop :=
  plan.Declares disk sym.owner sym ∨ ⟨.change, sym.owner⟩ ∈ queue ∨ ⟨.delete, sym.owner⟩ ∈ queue

/-- Every entry of an index is true of the tree, or a call waits that drops it. -/
structure Sound (plan : IndexPlan) (base : List String) (w : Watched) : Prop where
  regular : w.disk.RegularTree base
  calls : ∀ c ∈ w.queue, IsBelow base c.path
  created : ∀ {path later}, Waits w.queue ⟨.create, path⟩ later → Stands w.disk later path
  files : ∀ e ∈ w.index.mappings.files.entries,
    IsBelow base e.2 ∧ e ∈ fileWrites e.2 ∧ Stands w.disk w.queue e.2
  symbols : ∀ {kind name owner}, (name, owner) ∈ (w.index.mappings.symbolsOf kind).entries →
    IsBelow base owner ∧ plan.isSource owner = true ∧
      Current plan w.disk w.queue ⟨name, kind, owner⟩

section Queue

variable {plan : IndexPlan} {base : List String} {conduct : Conduct} {w w' : Watched} {disk : Disk}
  {queue rest : List Call} {c : Call} {path owner : String} {kind : CallKind} {sym : Symbol}

/-- Handling a call other than its deletion leaves a path standing. -/
theorem Stands.of_cons (h : Stands disk (c :: rest) path) (hc : c ≠ ⟨.delete, path⟩) :
    Stands disk rest path := by
  rcases h with hfile | hwaits
  · exact Or.inl hfile
  · exact Or.inr ((List.mem_cons.mp hwaits).resolve_left (Ne.symm hc))

theorem Current.of_cons (h : Current plan disk (c :: rest) sym)
    (hchange : c ≠ ⟨.change, sym.owner⟩) (hdelete : c ≠ ⟨.delete, sym.owner⟩) :
    Current plan disk rest sym := by
  rcases h with hdeclares | hwaits | hwaits
  · exact Or.inl hdeclares
  · exact Or.inr (Or.inl ((List.mem_cons.mp hwaits).resolve_left (Ne.symm hchange)))
  · exact Or.inr (Or.inr ((List.mem_cons.mp hwaits).resolve_left (Ne.symm hdelete)))

namespace Watched.Edited

/-- Where a file is deleted, its deletion is queued. -/
theorem stands (h : Edited base conduct w w' kind path) {other : String}
    (hother : IsBelow base other) (hstands : Stands w.disk queue other) :
    Stands w'.disk (queue ++ [⟨kind, path⟩]) other := by
  rcases hstands with hfile | hwaits
  · rcases h.isFile_or hother hfile with hfile' | ⟨rfl, rfl⟩
    · exact Or.inl hfile'
    · exact Or.inr (List.mem_append_right _ List.mem_cons_self)
  · exact Or.inr (List.mem_append_left _ hwaits)

theorem current (h : Edited base conduct w w' kind path) (howner : IsBelow base sym.owner)
    (hcurrent : Current plan w.disk queue sym) :
    Current plan w'.disk (queue ++ [⟨kind, path⟩]) sym := by
  rcases hcurrent with hdeclares | hwaits | hwaits
  · rcases h.declares_or howner hdeclares with hdeclares' | ⟨rfl | rfl, rfl⟩
    · exact Or.inl hdeclares'
    · exact Or.inr (Or.inl (List.mem_append_right _ List.mem_cons_self))
    · exact Or.inr (Or.inr (List.mem_append_right _ List.mem_cons_self))
  · exact Or.inr (Or.inl (List.mem_append_left _ hwaits))
  · exact Or.inr (Or.inr (List.mem_append_left _ hwaits))

end Watched.Edited

end Queue

namespace Sound

variable {plan : IndexPlan} {base : List String} {conduct : Conduct} {w w' start : Watched}
  {bulk : Option (List String)} {kind : CallKind} {path : String} {rest : List Call} {c : Call}
  {world : Surroundings}

/-! ### At the beginning -/

theorem of_starts (h : w.Starts plan base bulk) : Sound plan base w := by
  obtain ⟨paths, hfilled, hpaths, -⟩ := h.filledWith
  refine ⟨h.regular, ?_, ?_, fun e he => ?_, fun {kind name owner} he => ?_⟩
  · rw [h.idle]
    exact fun c hc => absurd hc List.not_mem_nil
  · rw [h.idle]
    exact fun hwaits => absurd hwaits not_waits_nil
  · rw [hfilled.files] at he
    obtain ⟨p, hp, hwrite⟩ := List.mem_flatMap.mp (OrderedMap.mem_of_mem_ofList he)
    obtain ⟨hbelow, -, hfile⟩ := hpaths p hp
    rw [value_of_mem_fileWrites hwrite]
    exact ⟨hbelow, hwrite, Or.inl hfile⟩
  · rw [hfilled.symbolsOf] at he
    obtain ⟨p, hp, hwrite⟩ := List.mem_flatMap.mp (OrderedMap.mem_of_mem_ofList he)
    obtain ⟨hsource, hdeclares⟩ := mem_scanIfSource_symbolWrites.mp hwrite
    obtain rfl : owner = p := hdeclares.owner_eq
    exact ⟨(hpaths _ hp).1, hsource, Or.inl hdeclares⟩

/-! ### A file changes -/

theorem edited (h : Sound plan base w) (he : Watched.Edited base conduct w w' kind path) :
    Sound plan base w' := by
  refine ⟨he.regular, ?_, fun {p later} hwaits => ?_, fun e hentry => ?_,
    fun {kind name owner} hentry => ?_⟩
  · intro c hc
    rw [he.queue] at hc
    rcases List.mem_append.mp hc with hc | hc
    · exact h.calls c hc
    · rw [List.mem_singleton.mp hc]
      exact he.below
  · rw [he.queue] at hwaits
    rcases waits_concat.mp hwaits with ⟨hlast, rfl⟩ | ⟨l, rfl, hbefore⟩
    · obtain ⟨rfl, rfl⟩ := Call.mk.inj hlast
      have hnew := he.here.new_isSome_or.resolve_right (by simp)
      exact Or.inl (isFile_eq_isSome.trans hnew)
    · exact he.stands (h.calls _ hbefore.mem) (h.created hbefore)
  · rw [he.index] at hentry
    obtain ⟨hbelow, hwrite, hstands⟩ := h.files e hentry
    rw [he.queue]
    exact ⟨hbelow, hwrite, he.stands hbelow hstands⟩
  · rw [he.index] at hentry
    obtain ⟨hbelow, hsource, hcurrent⟩ := h.symbols hentry
    rw [he.queue]
    exact ⟨hbelow, hsource, he.current hbelow hcurrent⟩

/-! ### A call is handled -/

theorem handled_files (h : Sound plan base w) (hqueue : w.queue = c :: rest)
    {e : String × String}
    (hentry : e ∈ (plan.handleCall world c w.index).1.mappings.files.entries) :
    IsBelow base e.2 ∧ e ∈ fileWrites e.2 ∧ Stands w.disk rest e.2 := by
  have hhead : Waits w.queue c rest := hqueue ▸ waits_head
  have hbelow := h.calls c hhead.mem
  have hp := hbelow.canonical world.workDir
  have hkept : e ∈ w.index.mappings.files.entries → c ≠ ⟨.delete, e.2⟩ →
      IsBelow base e.2 ∧ e ∈ fileWrites e.2 ∧ Stands w.disk rest e.2 := by
    intro hold hc
    obtain ⟨hin, hwrite, hstands⟩ := h.files e hold
    rw [hqueue] at hstands
    exact ⟨hin, hwrite, hstands.of_cons hc⟩
  obtain ⟨kind, path⟩ := c
  cases kind with
  | create =>
      rw [handleCall_create] at hentry
      rcases of_mem_files_handleCreate hp hentry with hwrite | hold
      · rw [value_of_mem_fileWrites hwrite]
        exact ⟨hbelow, hwrite, h.created hhead⟩
      · exact hkept hold (by simp)
  | change =>
      rw [handleCall_change, handleChange_files hp] at hentry
      exact hkept hentry (by simp)
  | delete =>
      rw [handleCall_delete] at hentry
      obtain ⟨hold, hout⟩ := (mem_files_handleDelete hp).mp hentry
      exact hkept hold fun hc => ne_of_not_isAtOrBeneath hout (Call.mk.inj hc).2

theorem handled_symbols (h : Sound plan base w) (hqueue : w.queue = c :: rest)
    (hdisk : world.disk = w.disk) {kind : SymbolKind} {name owner : String}
    (hentry : (name, owner) ∈
      ((plan.handleCall world c w.index).1.mappings.symbolsOf kind).entries) :
    IsBelow base owner ∧ plan.isSource owner = true ∧
      Current plan w.disk rest ⟨name, kind, owner⟩ := by
  have hhead : Waits w.queue c rest := hqueue ▸ waits_head
  have hbelow := h.calls c hhead.mem
  have hp := hbelow.canonical world.workDir
  have hnew : plan.isSource c.path = true → plan.Declares world.disk c.path ⟨name, kind, owner⟩ →
      IsBelow base owner ∧ plan.isSource owner = true ∧
        Current plan w.disk rest ⟨name, kind, owner⟩ := by
    intro hsource hdeclares
    obtain rfl : owner = c.path := hdeclares.owner_eq
    rw [hdisk] at hdeclares
    exact ⟨hbelow, hsource, Or.inl hdeclares⟩
  have hkept : (name, owner) ∈ (w.index.mappings.symbolsOf kind).entries →
      c ≠ ⟨.change, owner⟩ → c ≠ ⟨.delete, owner⟩ →
      IsBelow base owner ∧ plan.isSource owner = true ∧
        Current plan w.disk rest ⟨name, kind, owner⟩ := by
    intro hold hchange hdelete
    obtain ⟨hin, hsource, hcurrent⟩ := h.symbols hold
    rw [hqueue] at hcurrent
    exact ⟨hin, hsource, hcurrent.of_cons hchange hdelete⟩
  obtain ⟨callKind, path⟩ := c
  cases callKind with
  | create =>
      rw [handleCall_create] at hentry
      rcases of_mem_symbolsOf_handleCreate hp hentry with ⟨hsource, hdeclares⟩ | hold
      · exact hnew hsource hdeclares
      · exact hkept hold (by simp) (by simp)
  | change =>
      rw [handleCall_change] at hentry
      by_cases hsource : plan.isSource path = true
      · rcases of_mem_symbolsOf_handleChange hp hsource hentry with hdeclares | ⟨hold, hout⟩
        · exact hnew hsource hdeclares
        · exact hkept hold
            (fun hc => ne_of_not_isAtOrBeneath hout (Call.mk.inj hc).2) (by simp)
      · -- a file that is no source file has no symbols, so nothing is dropped and nothing lost
        rw [handleChange_of_not_source hp hsource] at hentry
        refine hkept hentry (fun hc => hsource ?_) (by simp)
        rw [(Call.mk.inj hc).2]
        exact (h.symbols hentry).2.1
  | delete =>
      rw [handleCall_delete] at hentry
      obtain ⟨hold, hout⟩ := (mem_symbolsOf_handleDelete hp).mp hentry
      exact hkept hold (by simp) fun hc => ne_of_not_isAtOrBeneath hout (Call.mk.inj hc).2

theorem handled (h : Sound plan base w) (hqueue : w.queue = c :: rest)
    (hdisk : world.disk = w.disk) :
    Sound plan base ⟨w.disk, rest, (plan.handleCall world c w.index).1⟩ := by
  refine ⟨h.regular, fun d hd => h.calls d ?_, fun hwaits => h.created (hqueue ▸ hwaits.cons),
    fun e he => h.handled_files hqueue he, fun he => h.handled_symbols hqueue hdisk he⟩
  rw [hqueue]
  exact List.mem_cons_of_mem _ hd

/-! ### Any number of steps -/

theorem step (h : Sound plan base w) (hstep : Watched.Step plan base conduct w w') :
    Sound plan base w' := by
  rcases hstep.cases h.regular with ⟨kind, path, hedited⟩ | ⟨c, rest, world, hqueue, -, hdisk, rfl⟩
  · exact h.edited hedited
  · exact h.handled hqueue hdisk

theorem run (h : Sound plan base w) (hrun : Watched.Run plan base conduct w w') :
    Sound plan base w' := by
  induction hrun with
  | refl => exact h
  | tail _ hstep ih => exact ih.step hstep

end Sound

/-- **Nothing stale remains.**  From an index that was initialized on a regular tree, after any
changes of its files and any handling of the calls that these made, and once no call waits: every
path that a file name leads to is that of an existing file, and every symbol is declared by its
file as the file is now. -/
theorem nothing_stale {plan : IndexPlan} {base : List String} {conduct : Conduct}
    {bulk : Option (List String)} {start w : Watched} (hstart : start.Starts plan base bulk)
    (hrun : Watched.Run plan base conduct start w) (hidle : w.queue = []) :
    (∀ e ∈ w.index.mappings.files.entries, w.disk.isFile e.2 = true) ∧
      (∀ e ∈ w.index.mappings.components.entries,
        plan.Declares w.disk e.2 ⟨e.1, .component, e.2⟩) ∧
      ∀ e ∈ w.index.mappings.functions.entries,
        plan.Declares w.disk e.2 ⟨e.1, .function, e.2⟩ := by
  have hsound : Sound plan base w := (Sound.of_starts hstart).run hrun
  have hsymbols : ∀ kind, ∀ e ∈ (w.index.mappings.symbolsOf kind).entries,
      plan.Declares w.disk e.2 ⟨e.1, kind, e.2⟩ := by
    intro kind e he
    obtain ⟨-, -, hcurrent⟩ := hsound.symbols he
    simpa [Current, hidle] using hcurrent
  refine ⟨fun e he => ?_, hsymbols .component, hsymbols .function⟩
  obtain ⟨-, -, hstands⟩ := hsound.files e he
  simpa [Stands, hidle] using hstands

/-- Of two files both are written over and one is deleted, and only then are the calls handled.  The
index has entries of the other one, and none is stale. -/
theorem nothing_stale_late_run :
    let start : Watched := ⟨twoFiles, [], twoFilesIndex⟩
    let w : Watched := ⟨lateTree, [], lateIndex twoFilesIndex⟩
    (start.Starts wholeTextPlan ["r"] none ∧ Watched.Run wholeTextPlan ["r"] .free start w) ∧
      (w.index.mappings.files.entries = [("b.ts", "/r/lib/b.ts"), ("b", "/r/lib/b.ts")] ∧
        w.index.mappings.functions.entries = [("h", "/r/lib/b.ts")]) ∧
      (∀ e ∈ w.index.mappings.files.entries, w.disk.isFile e.2 = true) ∧
      (∀ e ∈ w.index.mappings.components.entries,
        wholeTextPlan.Declares w.disk e.2 ⟨e.1, .component, e.2⟩) ∧
      ∀ e ∈ w.index.mappings.functions.entries,
        wholeTextPlan.Declares w.disk e.2 ⟨e.1, .function, e.2⟩ := by
  intro start w
  have hrun : Watched.Run wholeTextPlan ["r"] .free start w :=
    Watched.late_run twoFilesIndex trivial trivial trivial
  obtain ⟨hfiles, -, hfunctions⟩ := entries_lateIndex
  exact ⟨⟨twoFiles_starts, hrun⟩, ⟨hfiles, hfunctions⟩, nothing_stale twoFiles_starts hrun rfl⟩

end SpokenIndex
