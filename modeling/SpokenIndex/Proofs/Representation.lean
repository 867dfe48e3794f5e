/-
What holds of an index at any time.

The files of an index are tracked and stand under their names, its folders lie strictly
below the root and stand under theirs, and its symbols come from source files and are in
the mapping for their kind.  An empty index has all this.  An operation keeps it, since an
entry that is new after an operation is one that some path writes (`Proofs/History`), and
what is written is right by itself.

Nothing is asked of the surroundings, of the extractor or of the paths that are given.
-/
import SpokenIndex.Proofs.Ancestors
import SpokenIndex.Proofs.History

namespace SpokenIndex

open SpokenIndex.Text

/-- What holds of the mappings of an index at any time. -/
structure IndexPlan.WellKept (plan : IndexPlan) (m : Mappings) : Prop where
  files : ∀ e ∈ m.files.entries, plan.isTracked e.2 = true ∧
    (e.1 = lowercase (Path.baseName e.2) ∨ e.1 = lowercase (Path.stem e.2))
  folders : ∀ e ∈ m.folders.entries,
    e.1 = lowercase (Path.baseName e.2) ∧ Path.IsStrictlyBelow plan.root e.2
  components : ∀ e ∈ m.components.entries,
    beginsWithCapital e.1 = true ∧ plan.isSource e.2 = true
  functions : ∀ e ∈ m.functions.entries,
    beginsWithCapital e.1 = false ∧ plan.isSource e.2 = true

namespace IndexPlan

variable {plan : IndexPlan} {s : IndexState} {m : Mappings} {op : Operation} {disk : Disk}
  {path cwd : String} {sym : Symbol} {e : String × String}

/-! ### What is written -/

theorem key_of_mem_fileWrites (h : e ∈ fileWrites path) :
    e.1 = lowercase (Path.baseName e.2) ∨ e.1 = lowercase (Path.stem e.2) := by
  simp only [fileWrites, List.mem_cons, List.not_mem_nil, or_false] at h
  rcases h with rfl | rfl
  · exact Or.inl rfl
  · exact Or.inr rfl

theorem of_mem_folderWrites (h : e ∈ plan.folderWrites (Path.canonical cwd path)) :
    e.1 = lowercase (Path.baseName e.2) ∧ Path.IsStrictlyBelow plan.root e.2 := by
  obtain ⟨folder, hfolder, rfl⟩ := List.mem_map.mp h
  exact ⟨rfl, isStrictlyBelow_of_mem_foldersAbove hfolder⟩

/-- The kind of a declared symbol is that of its name. -/
theorem Declares.kind_eq (h : plan.Declares disk path sym) :
    sym.kind = SymbolKind.ofName sym.name := by
  obtain ⟨_, _, -, -, d, -, rfl⟩ := h
  rfl

/-! ### What is kept -/

theorem wellKept_empty (plan : IndexPlan) : plan.WellKept .empty where
  files _ he := absurd he List.not_mem_nil
  folders _ he := absurd he List.not_mem_nil
  components _ he := absurd he List.not_mem_nil
  functions _ he := absurd he List.not_mem_nil

theorem WellKept.perform (h : plan.WellKept s.mappings) :
    plan.WellKept (plan.perform s op).mappings where
  files e he := by
    rcases of_mem_files_perform he with hold | ⟨path, -, htracked, hwrite⟩
    · exact h.files e hold
    · rw [← value_of_mem_fileWrites hwrite] at htracked
      exact ⟨htracked, key_of_mem_fileWrites hwrite⟩
  folders e he := by
    rcases of_mem_folders_perform he with hold | ⟨cwd, path, hwrite⟩
    · exact h.folders e hold
    · exact of_mem_folderWrites hwrite
  components e he := by
    rcases of_mem_symbolsOf_perform .component he with hold | ⟨-, hsource, _, hdeclares⟩
    · exact h.components e hold
    · refine ⟨?_, hsource⟩
      by_contra hcapital
      simpa [SymbolKind.ofName, hcapital] using hdeclares.kind_eq
  functions e he := by
    rcases of_mem_symbolsOf_perform .function he with hold | ⟨-, hsource, _, hdeclares⟩
    · exact h.functions e hold
    · refine ⟨?_, hsource⟩
      by_contra hcapital
      simpa [SymbolKind.ofName, hcapital] using hdeclares.kind_eq

/-- No name is both that of a component and that of a function. -/
theorem WellKept.disjoint (h : plan.WellKept m) : m.components.keys.Disjoint m.functions.keys := by
  intro key hcomponent hfunction
  obtain ⟨c, hc, rfl⟩ := List.mem_map.mp hcomponent
  obtain ⟨f, hf, hkey⟩ := List.mem_map.mp hfunction
  have hcapital : beginsWithCapital c.1 = true := (h.components c hc).1
  have hsmall : beginsWithCapital f.1 = false := (h.functions f hf).1
  rw [hkey, hcapital] at hsmall
  exact Bool.noConfusion hsmall

/-- **What an index holds.**  Whatever is done with an index, its mappings are well kept; so the
root is not among its folders, and no component has the name of a function. -/
theorem wellKept_performAll (world : Surroundings) (root : String) (settings : IndexSettings)
    (extractor : Extractor) (ops : List Operation) :
    let plan := forRoot world root settings extractor
    let m := (plan.performAll .fresh ops).mappings
    plan.WellKept m ∧ (∀ e ∈ m.folders.entries, e.2 ≠ plan.root) ∧
      m.components.keys.Disjoint m.functions.keys := by
  intro plan m
  have hkept : plan.WellKept m :=
    performAll_induction plan.WellKept (wellKept_empty plan) fun _ hs _ _ => hs.perform
  exact ⟨hkept, fun e he => (hkept.folders e he).2.ne, hkept.disjoint⟩

end IndexPlan

end SpokenIndex
