/-
What the handlers do to the mappings.

A handler writes into the mappings or removes from them, and what it writes for symbols
is what a scan of one file finds.  A scan is described once, as the symbols that a file
declares (`Declares`): nothing, if the file cannot be read, is too large, is no text, or
is refused by the extractor.  Each handler is then described mapping by mapping, and no
later proof unfolds one.
-/
import SpokenIndex.Index.Store
import SpokenIndex.Proofs.Entries
import SpokenIndex.Proofs.Files

namespace SpokenIndex

/-- The mapping in which symbols of a kind are found. -/
def Mappings.symbolsOf (m : Mappings) : SymbolKind → NameMap
  | .component => m.components
  | .function => m.functions

namespace IndexPlan

variable {plan : IndexPlan} {world : Surroundings} {disk : Disk} {m : Mappings} {s : IndexState}
  {path name owner : String} {kind : SymbolKind} {symbols : List Symbol} {sym : Symbol}
  {e : String × String}

/-! ### What a file declares -/

/-- A file declares a symbol: the file can be read, and the extractor finds it in the text. -/
def Declares (plan : IndexPlan) (disk : Disk) (path : String) (sym : Symbol) : Prop :=
  ∃ text declarations,
    disk.readSource (some (plan.settings.maxFileSizeKb * 1024)) path = .ok text ∧
      plan.extractor (languageOf path) text = .ok declarations ∧
        ∃ d ∈ declarations, d.toSymbol path = sym

/-- A file with the given bytes would declare a symbol. -/
def DeclaredIn (plan : IndexPlan) (path : String) (content : ByteArray) (sym : Symbol) : Prop :=
  (content.size : Int) ≤ plan.settings.maxFileSizeKb * 1024 ∧
    ∃ text declarations, textOfBytes content = .ok text ∧
      plan.extractor (languageOf path) text = .ok declarations ∧
        ∃ d ∈ declarations, d.toSymbol path = sym

theorem declares_iff :
    plan.Declares disk path sym ↔
      ∃ content, disk.bytes? path = some content ∧ plan.DeclaredIn path content sym := by
  constructor
  · intro hgiven
    obtain ⟨text, declarations, hread, hextract, hmem⟩ := hgiven
    obtain ⟨content, hbytes, hsize, htext⟩ := Disk.readSource_eq_ok_iff.mp hread
    exact ⟨content, hbytes, hsize, text, declarations, htext, hextract, hmem⟩
  · intro hgiven
    obtain ⟨content, hbytes, hsize, text, declarations, htext, hextract, hmem⟩ := hgiven
    have hread := Disk.readSource_eq_ok_iff.mpr ⟨content, hbytes, hsize, htext⟩
    exact ⟨text, declarations, hread, hextract, hmem⟩

theorem Declares.owner_eq (h : plan.Declares disk path sym) : sym.owner = path := by
  obtain ⟨_, _, -, -, d, -, rfl⟩ := h
  rfl

theorem Declares.isFile (h : plan.Declares disk path sym) : disk.isFile path = true := by
  obtain ⟨content, hcontent, -⟩ := declares_iff.mp h
  exact Disk.isFile_iff.mpr ⟨content, hcontent⟩

/-- What a file declares depends on its bytes only. -/
theorem declares_congr {disk' : Disk} (h : disk'.bytes? path = disk.bytes? path) :
    plan.Declares disk' path sym ↔ plan.Declares disk path sym := by
  rw [declares_iff, declares_iff, h]

theorem mem_scan : sym ∈ (plan.scan disk path).1 ↔ plan.Declares disk path sym := by
  rw [scan, Declares]
  cases hread : disk.readSource (some (plan.settings.maxFileSizeKb * 1024)) path with
  | error fault => simp
  | ok text =>
      cases hextract : plan.extractor (languageOf path) text with
      | error fault => cases fault <;> simp [hextract]
      | ok declarations => simp [hextract]

theorem mem_scanIfSource :
    sym ∈ (plan.scanIfSource disk path).1 ↔
      plan.isSource path = true ∧ plan.Declares disk path sym := by
  rw [scanIfSource]
  split
  · rename_i hsource
    rw [mem_scan, and_iff_right hsource]
  · rename_i hsource
    simp [hsource]

/-! ### Writes and removals -/

theorem mem_symbolWrites :
    (name, owner) ∈ symbolWrites kind symbols ↔ ⟨name, kind, owner⟩ ∈ symbols := by
  simp only [symbolWrites, List.mem_map, List.mem_filter, Prod.mk.injEq, beq_iff_eq]
  constructor
  · intro hgiven
    obtain ⟨⟨n, k, o⟩, ⟨hmem, rfl⟩, rfl, rfl⟩ := hgiven
    exact hmem
  · intro hmem
    exact ⟨⟨name, kind, owner⟩, ⟨hmem, rfl⟩, rfl, rfl⟩

theorem value_of_mem_fileWrites (h : e ∈ fileWrites path) : e.2 = path := by
  simp only [fileWrites, List.mem_cons, List.not_mem_nil, or_false] at h
  rcases h with rfl | rfl <;> rfl

theorem registerSymbols_symbolsOf :
    (registerSymbols symbols m).symbolsOf kind
      = (m.symbolsOf kind).insertAll (symbolWrites kind symbols) := by
  cases kind <;> rfl

theorem register_symbolsOf :
    (plan.register path symbols m).symbolsOf kind
      = (m.symbolsOf kind).insertAll (symbolWrites kind symbols) := by
  cases kind <;> rfl

theorem dropSymbols_symbolsOf :
    (dropSymbols path m).symbolsOf kind
      = (m.symbolsOf kind).removeWhere fun _ owner => Path.isAtOrBeneath path owner := by
  cases kind <;> rfl

/-- Where there is no file nothing is declared. -/
theorem scan_of_not_isFile (h : disk.isFile path = false) : (plan.scan disk path).1 = [] := by
  rw [scan]
  cases hread : disk.readSource (some (plan.settings.maxFileSizeKb * 1024)) path with
  | error fault => rfl
  | ok text =>
      obtain ⟨content, hbytes, -⟩ := Disk.readSource_eq_ok_iff.mp hread
      rw [Disk.isFile_eq_isSome, hbytes] at h
      simp at h

theorem mem_scan_symbolWrites :
    (name, owner) ∈ symbolWrites kind (plan.scan disk path).1 ↔
      plan.Declares disk path ⟨name, kind, owner⟩ := by
  rw [mem_symbolWrites, mem_scan]

/-- The names that a file writes are those that it declares. -/
theorem mem_scan_names :
    name ∈ (symbolWrites kind (plan.scan disk path).1).map Prod.fst ↔
      plan.Declares disk path ⟨name, kind, path⟩ := by
  rw [List.mem_map]
  constructor
  · intro hgiven
    obtain ⟨⟨n, owner⟩, hwrite, rfl⟩ := hgiven
    have hdeclares := mem_scan_symbolWrites.mp hwrite
    obtain rfl : owner = path := hdeclares.owner_eq
    exact hdeclares
  · intro hdeclares
    exact ⟨(name, path), mem_scan_symbolWrites.mpr hdeclares, rfl⟩

theorem mem_scanIfSource_symbolWrites :
    (name, owner) ∈ symbolWrites kind (plan.scanIfSource disk path).1 ↔
      plan.isSource path = true ∧ plan.Declares disk path ⟨name, kind, owner⟩ := by
  rw [mem_symbolWrites, mem_scanIfSource]

@[simp] theorem handleCall_create :
    plan.handleCall world ⟨.create, path⟩ s = plan.handleCreate world path s := rfl

@[simp] theorem handleCall_change :
    plan.handleCall world ⟨.change, path⟩ s = plan.handleChange world path s := rfl

@[simp] theorem handleCall_delete :
    plan.handleCall world ⟨.delete, path⟩ s = plan.handleDelete world path s := rfl

/-! ### A created file

`p` is the canonical form of the path that a handler is given.  Each mapping is
described twice: what an entry may be in any case, and what the entries are if no
write takes the key of the entry for another value.
-/

section Create

variable {p : String} (hp : Path.canonical world.workDir path = p)
include hp

theorem handleCreate_of_tracked (htracked : plan.isTracked p = true) :
    (plan.handleCreate world path s).1.mappings
      = plan.register p (plan.scanIfSource world.disk p).1 s.mappings := by
  rw [handleCreate, addCreated, hp, if_pos htracked]

theorem handleCreate_of_not_tracked (htracked : ¬ plan.isTracked p = true) :
    (plan.handleCreate world path s).1.mappings = s.mappings := by
  rw [handleCreate, addCreated, hp, if_neg htracked]

theorem of_mem_files_handleCreate
    (h : e ∈ (plan.handleCreate world path s).1.mappings.files.entries) :
    e ∈ fileWrites p ∨ e ∈ s.mappings.files.entries := by
  by_cases htracked : plan.isTracked p = true
  · rw [handleCreate_of_tracked hp htracked] at h
    exact (OrderedMap.mem_of_mem_insertAll h).imp id And.left
  · rw [handleCreate_of_not_tracked hp htracked] at h
    exact Or.inr h

theorem of_mem_folders_handleCreate
    (h : e ∈ (plan.handleCreate world path s).1.mappings.folders.entries) :
    e ∈ plan.folderWrites p ∨ e ∈ s.mappings.folders.entries := by
  by_cases htracked : plan.isTracked p = true
  · rw [handleCreate_of_tracked hp htracked] at h
    exact (OrderedMap.mem_of_mem_insertAll h).imp id And.left
  · rw [handleCreate_of_not_tracked hp htracked] at h
    exact Or.inr h

theorem of_mem_symbolsOf_handleCreate
    (h : (name, owner) ∈ ((plan.handleCreate world path s).1.mappings.symbolsOf kind).entries) :
    (plan.isSource p = true ∧ plan.Declares world.disk p ⟨name, kind, owner⟩) ∨
      (name, owner) ∈ (s.mappings.symbolsOf kind).entries := by
  by_cases htracked : plan.isTracked p = true
  · rw [handleCreate_of_tracked hp htracked, register_symbolsOf] at h
    exact (OrderedMap.mem_of_mem_insertAll h).imp mem_scanIfSource_symbolWrites.mp And.left
  · rw [handleCreate_of_not_tracked hp htracked] at h
    exact Or.inr h

theorem mem_files_handleCreate (htracked : plan.isTracked p = true)
    (hfree : ∀ w ∈ fileWrites p, w.1 = e.1 → w.2 = e.2) :
    e ∈ (plan.handleCreate world path s).1.mappings.files.entries ↔
      e ∈ fileWrites p ∨ e ∈ s.mappings.files.entries := by
  rw [handleCreate_of_tracked hp htracked]
  exact OrderedMap.mem_insertAll_iff hfree

theorem mem_folders_handleCreate (htracked : plan.isTracked p = true)
    (hfree : ∀ w ∈ plan.folderWrites p, w.1 = e.1 → w.2 = e.2) :
    e ∈ (plan.handleCreate world path s).1.mappings.folders.entries ↔
      e ∈ plan.folderWrites p ∨ e ∈ s.mappings.folders.entries := by
  rw [handleCreate_of_tracked hp htracked]
  exact OrderedMap.mem_insertAll_iff hfree

theorem mem_symbolsOf_handleCreate (htracked : plan.isTracked p = true)
    (hfree : ∀ other, plan.isSource p = true → plan.Declares world.disk p ⟨name, kind, other⟩ →
      other = owner) :
    (name, owner) ∈ ((plan.handleCreate world path s).1.mappings.symbolsOf kind).entries ↔
      (plan.isSource p = true ∧ plan.Declares world.disk p ⟨name, kind, owner⟩) ∨
        (name, owner) ∈ (s.mappings.symbolsOf kind).entries := by
  rw [handleCreate_of_tracked hp htracked, register_symbolsOf, OrderedMap.mem_insertAll_iff,
    mem_scanIfSource_symbolWrites]
  intro w hwrite heq
  obtain ⟨n, other⟩ := w
  obtain rfl := heq
  obtain ⟨hsource, hdeclares⟩ := mem_scanIfSource_symbolWrites.mp hwrite
  exact hfree other hsource hdeclares

end Create

/-! ### A changed file -/

section Change

variable {p : String} (hp : Path.canonical world.workDir path = p)
include hp

theorem handleChange_of_source (hsource : plan.isSource p = true) :
    (plan.handleChange world path s).1.mappings
      = registerSymbols (plan.scan world.disk p).1 (dropSymbols p s.mappings) := by
  rw [handleChange, hp]
  simp only [hsource, ↓reduceIte]

theorem handleChange_of_not_source (hsource : ¬ plan.isSource p = true) :
    (plan.handleChange world path s).1 = s := by
  rw [handleChange, hp]
  simp only [hsource, ↓reduceIte, Bool.false_eq_true]

theorem handleChange_files :
    (plan.handleChange world path s).1.mappings.files = s.mappings.files := by
  by_cases hsource : plan.isSource p = true
  · rw [handleChange_of_source hp hsource]
    rfl
  · rw [handleChange_of_not_source hp hsource]

theorem handleChange_folders :
    (plan.handleChange world path s).1.mappings.folders = s.mappings.folders := by
  by_cases hsource : plan.isSource p = true
  · rw [handleChange_of_source hp hsource]
    rfl
  · rw [handleChange_of_not_source hp hsource]

theorem handleChange_symbolsOf (hsource : plan.isSource p = true) :
    (plan.handleChange world path s).1.mappings.symbolsOf kind
      = ((s.mappings.symbolsOf kind).removeWhere fun _ owner =>
          Path.isAtOrBeneath p owner).insertAll
            (symbolWrites kind (plan.scan world.disk p).1) := by
  rw [handleChange_of_source hp hsource, registerSymbols_symbolsOf, dropSymbols_symbolsOf]

theorem of_mem_symbolsOf_handleChange (hsource : plan.isSource p = true)
    (h : (name, owner) ∈ ((plan.handleChange world path s).1.mappings.symbolsOf kind).entries) :
    plan.Declares world.disk p ⟨name, kind, owner⟩ ∨
      (name, owner) ∈ (s.mappings.symbolsOf kind).entries ∧
        Path.isAtOrBeneath p owner = false := by
  rw [handleChange_symbolsOf hp hsource] at h
  refine (OrderedMap.mem_of_mem_insertAll h).imp mem_scan_symbolWrites.mp ?_
  intro hgiven
  obtain ⟨hold, -⟩ := hgiven
  exact OrderedMap.mem_entries_removeWhere.mp hold

theorem mem_symbolsOf_handleChange (hsource : plan.isSource p = true)
    (hfree : ∀ other, plan.Declares world.disk p ⟨name, kind, other⟩ → other = owner) :
    (name, owner) ∈ ((plan.handleChange world path s).1.mappings.symbolsOf kind).entries ↔
      plan.Declares world.disk p ⟨name, kind, owner⟩ ∨
        (name, owner) ∈ (s.mappings.symbolsOf kind).entries ∧
          Path.isAtOrBeneath p owner = false := by
  rw [handleChange_symbolsOf hp hsource, OrderedMap.mem_insertAll_iff, mem_scan_symbolWrites,
    OrderedMap.mem_entries_removeWhere]
  intro w hwrite heq
  obtain ⟨n, other⟩ := w
  obtain rfl := heq
  exact hfree other (mem_scan_symbolWrites.mp hwrite)

end Change

/-! ### A deleted path -/

section Delete

variable {p : String} (hp : Path.canonical world.workDir path = p)
include hp

theorem handleDelete_files :
    (plan.handleDelete world path s).1.mappings.files
      = s.mappings.files.removeWhere fun _ owner => Path.isAtOrBeneath p owner := by
  rw [handleDelete, rebuildFolders, hp]
  cases plan.listTree world <;> rfl

theorem handleDelete_symbolsOf :
    (plan.handleDelete world path s).1.mappings.symbolsOf kind
      = (s.mappings.symbolsOf kind).removeWhere fun _ owner => Path.isAtOrBeneath p owner := by
  rw [handleDelete, rebuildFolders, hp]
  cases plan.listTree world <;> cases kind <;> rfl

theorem mem_files_handleDelete :
    e ∈ (plan.handleDelete world path s).1.mappings.files.entries ↔
      e ∈ s.mappings.files.entries ∧ Path.isAtOrBeneath p e.2 = false := by
  rw [handleDelete_files hp, OrderedMap.mem_entries_removeWhere]

theorem mem_symbolsOf_handleDelete :
    e ∈ ((plan.handleDelete world path s).1.mappings.symbolsOf kind).entries ↔
      e ∈ (s.mappings.symbolsOf kind).entries ∧ Path.isAtOrBeneath p e.2 = false := by
  rw [handleDelete_symbolsOf hp, OrderedMap.mem_entries_removeWhere]

end Delete

theorem handleDelete_folders {paths : List String} (hlist : plan.listTree world = .ok paths) :
    (plan.handleDelete world path s).1.mappings.folders = plan.foldersOf world.workDir paths := by
  rw [handleDelete, rebuildFolders, hlist]

/-! ### Paths without a canonical form -/

/-- All that taking a call can come to: it is handled, or its path has no canonical form and nothing
is changed, and then a creation is reported and any other call fails. -/
theorem answerCall_cases (plan : IndexPlan) (world : Surroundings) (c : Call) (s : IndexState) :
    (world.pathRefusal c.path = none ∧
      plan.answerCall world c s = (.ok (), plan.handleCall world c s)) ∨
    ∃ reason, world.pathRefusal c.path = some reason ∧
      ((c.kind = .create ∧ plan.answerCall world c s
          = (.ok (), s, [.notice (.creationFailed c.path reason)])) ∨
        (c.kind ≠ .create ∧ plan.answerCall world c s = (.error reason, s, []))) := by
  obtain ⟨callKind, path⟩ := c
  rw [answerCall]
  cases hrefusal : world.pathRefusal path with
  | none => exact Or.inl ⟨rfl, rfl⟩
  | some reason =>
      refine Or.inr ⟨reason, rfl, ?_⟩
      cases callKind with
      | create => exact Or.inl ⟨rfl, rfl⟩
      | delete => exact Or.inr ⟨by simp, rfl⟩
      | change => exact Or.inr ⟨by simp, rfl⟩

/-- A change of the tree has a call handled, if its path has a canonical form. -/
theorem handleDelivery_call {callKind : CallKind} (h : world.pathRefusal path = none) :
    plan.handleDelivery world s (.call ⟨callKind, path⟩)
      = plan.handleCall world ⟨callKind, path⟩ s := by
  simp only [handleDelivery, answerCall, h]

/-- A call leaves the index as it was, or as its handler leaves it. -/
theorem answerCall_state (plan : IndexPlan) (world : Surroundings) (c : Call) (s : IndexState) :
    (plan.answerCall world c s).2.1 = s ∨
      (plan.answerCall world c s).2.1 = (plan.handleCall world c s).1 := by
  rcases answerCall_cases plan world c s with
    ⟨-, heq⟩ | ⟨reason, -, ⟨-, heq⟩ | ⟨-, heq⟩⟩ <;> rw [heq]
  · exact Or.inr rfl
  · exact Or.inl rfl
  · exact Or.inl rfl

end IndexPlan

end SpokenIndex
