/-
An index that handled all calls is the index that would be made now.

Two facts meet here.  Nothing in the index is stale (`Sound`, and `FoldersStand` for
folders), and nothing is missing (`Complete`).  Where names do not collide, the two
together determine the entries of all four mappings from the tree alone, once no call
waits.  A fresh index is one for which
no call waits, so it has the same entries.  Their order may differ: it is that of first
registration.
-/
import SpokenIndex.Proofs.Completeness

namespace SpokenIndex

open Disk IndexPlan

/-- Every folder was entered for a file that stands. -/
def FoldersStand (plan : IndexPlan) (base : List String) (w : Watched) : Prop :=
  ∀ e ∈ w.index.mappings.folders.entries,
    ∃ path, IsBelow base path ∧ e ∈ plan.folderWrites path ∧ Stands w.disk w.queue path

namespace FoldersStand

variable {plan : IndexPlan} {base : List String} {conduct : Conduct} {w w' : Watched}
  {bulk : Option (List String)} {kind : CallKind} {path : String} {rest : List Call} {c : Call}
  {world : Surroundings}

theorem of_starts (h : w.Starts plan base bulk) : FoldersStand plan base w := by
  intro e he
  obtain ⟨paths, hfilled, hpaths, -⟩ := h.filledWith
  rw [hfilled.folders] at he
  obtain ⟨p, hp, hwrite⟩ := List.mem_flatMap.mp (OrderedMap.mem_of_mem_ofList he)
  obtain ⟨hbelow, -, hfile⟩ := hpaths p hp
  exact ⟨p, hbelow, hwrite, Or.inl hfile⟩

theorem edited (h : FoldersStand plan base w)
    (he : Watched.Edited base conduct w w' kind path) : FoldersStand plan base w' := by
  intro e hentry
  obtain ⟨p, hbelow, hwrite, hstands⟩ := h e (he.index ▸ hentry)
  rw [he.queue]
  exact ⟨p, hbelow, hwrite, he.stands hbelow hstands⟩

theorem handled (h : FoldersStand plan base w) (hsound : Sound plan base w)
    (hroot : plan.watchRoot = placePath base) (hqueue : w.queue = c :: rest)
    (hlists : world.listRefusal = none) (hdisk : world.disk = w.disk) :
    FoldersStand plan base ⟨w.disk, rest, (plan.handleCall world c w.index).1⟩ := by
  intro e hentry
  have hhead : Waits w.queue c rest := hqueue ▸ waits_head
  have hbelow := hsound.calls c hhead.mem
  have hp := hbelow.canonical world.workDir
  have hkept : (∀ path, c ≠ ⟨.delete, path⟩) → e ∈ w.index.mappings.folders.entries →
      ∃ path, IsBelow base path ∧ e ∈ plan.folderWrites path ∧ Stands w.disk rest path := by
    intro hc hold
    obtain ⟨path, hin, hwrite, hstands⟩ := h e hold
    rw [hqueue] at hstands
    exact ⟨path, hin, hwrite, hstands.of_cons (hc path)⟩
  obtain ⟨kind, p⟩ := c
  cases kind with
  | create =>
      rcases of_mem_folders_handleCreate hp hentry with hwrite | hold
      · exact ⟨p, hbelow, hwrite, hsound.created hhead⟩
      · exact hkept (by simp) hold
  | change =>
      rw [handleCall_change, handleChange_folders hp] at hentry
      exact hkept (by simp) hentry
  | delete =>
      obtain ⟨writes, hwrites, hmem⟩ := handleDelete_folders_tree p w.index hroot
        (hdisk ▸ hsound.regular) hlists
      rw [handleCall_delete, hwrites] at hentry
      obtain ⟨path, hlisted, -, hfile, hwrite⟩ :=
        (hmem e).mp (OrderedMap.mem_of_mem_ofList hentry)
      exact ⟨path, hlisted.isBelow, hwrite, Or.inl (hdisk ▸ hfile)⟩

end FoldersStand

/-! ### All of it together -/

/-- What holds of an index and its tree at every moment of a run without collisions. -/
structure Consistent (plan : IndexPlan) (base : List String) (conduct : Conduct) (w : Watched) :
    Prop where
  sound : Sound plan base w
  orderly : Orderly base conduct w
  complete : Complete plan base w
  folders : FoldersStand plan base w

namespace Consistent

variable {plan : IndexPlan} {base : List String} {conduct : Conduct} {w w' : Watched}

theorem of_starts (hstart : w.Starts plan base none) (hfree : CollisionFree plan base conduct)
    (hwrites : ∀ {path content}, IsBelow base path → w.disk.bytes? path = some content →
      conduct.writes path content) : Consistent plan base conduct w := by
  have horderly : Orderly base conduct w := by
    refine ⟨hwrites, ?_, ?_, ?_⟩ <;> rw [hstart.idle]
    · exact fun c hc => absurd hc List.not_mem_nil
    · exact fun hwaits => absurd hwaits not_waits_nil
    · exact fun hwaits => absurd hwaits not_waits_nil
  exact ⟨.of_starts hstart, horderly, .of_starts hstart horderly hfree, .of_starts hstart⟩

theorem step (h : Consistent plan base conduct w) (hfree : CollisionFree plan base conduct)
    (hroot : plan.watchRoot = placePath base) (hstep : Watched.Step plan base conduct w w') :
    Consistent plan base conduct w' := by
  have hsound := h.sound.step hstep
  rcases hstep.cases h.sound.regular with
    ⟨kind, path, hedited⟩ | ⟨c, rest, world, hqueue, hsurrounds, hdisk, rfl⟩
  · exact ⟨hsound, h.orderly.edited h.sound hedited, h.complete.edited hedited,
      h.folders.edited hedited⟩
  · exact ⟨hsound, h.orderly.handled hqueue,
      h.complete.handled h.sound h.orderly hfree hroot hqueue hsurrounds hdisk,
      h.folders.handled h.sound hroot hqueue (hfree.lists hsurrounds) hdisk⟩

theorem run (h : Consistent plan base conduct w) (hfree : CollisionFree plan base conduct)
    (hroot : plan.watchRoot = placePath base) (hrun : Watched.Run plan base conduct w w') :
    Consistent plan base conduct w' := by
  induction hrun with
  | refl => exact h
  | tail _ hstep ih => exact ih.step hfree hroot hstep

/-! ### Once no call waits -/

section Idle

variable {e : String × String} {name owner : String} {kind : SymbolKind}

theorem mem_files (h : Consistent plan base conduct w) (hidle : w.queue = []) :
    e ∈ w.index.mappings.files.entries ↔
      IsBelow base e.2 ∧ w.disk.isFile e.2 = true ∧ e ∈ fileWrites e.2 := by
  constructor
  · intro he
    obtain ⟨hbelow, hwrite, hstands⟩ := h.sound.files e he
    exact ⟨hbelow, by simpa [Stands, hidle] using hstands, hwrite⟩
  · intro hgiven
    obtain ⟨hbelow, hfile, hwrite⟩ := hgiven
    rcases h.complete.files hbelow hfile with hwaits | hall
    · simp [hidle] at hwaits
    · exact hall e hwrite

theorem mem_folders (h : Consistent plan base conduct w) (hidle : w.queue = []) :
    e ∈ w.index.mappings.folders.entries ↔
      ∃ path, IsBelow base path ∧ w.disk.isFile path = true ∧ e ∈ plan.folderWrites path := by
  constructor
  · intro he
    obtain ⟨path, hbelow, hwrite, hstands⟩ := h.folders e he
    exact ⟨path, hbelow, by simpa [Stands, hidle] using hstands, hwrite⟩
  · intro hgiven
    obtain ⟨path, hbelow, hfile, hwrite⟩ := hgiven
    rcases h.complete.folders hbelow hfile with hwaits | hall
    · simp [hidle] at hwaits
    · exact hall e hwrite

theorem mem_symbolsOf (h : Consistent plan base conduct w) (hidle : w.queue = []) :
    (name, owner) ∈ (w.index.mappings.symbolsOf kind).entries ↔
      IsBelow base owner ∧ plan.isSource owner = true ∧
        plan.Declares w.disk owner ⟨name, kind, owner⟩ := by
  constructor
  · intro he
    obtain ⟨hbelow, hsource, hcurrent⟩ := h.sound.symbols he
    exact ⟨hbelow, hsource, by simpa [Current, hidle] using hcurrent⟩
  · intro hgiven
    obtain ⟨hbelow, hsource, hdeclares⟩ := hgiven
    have hall := h.complete.symbols hbelow hsource hdeclares
    simpa [hidle] using hall

/-- The mappings of an index for which no call waits are determined by the tree. -/
theorem mappings_agree (h : Consistent plan base conduct w) (hidle : w.queue = [])
    (h' : Consistent plan base conduct w') (hidle' : w'.queue = []) (hdisk : w'.disk = w.disk)
    (key : String) :
    w.index.mappings.files.get? key = w'.index.mappings.files.get? key ∧
      w.index.mappings.folders.get? key = w'.index.mappings.folders.get? key ∧
      ∀ kind, (w.index.mappings.symbolsOf kind).get? key
        = (w'.index.mappings.symbolsOf kind).get? key := by
  refine ⟨OrderedMap.get?_eq_of_mem_iff (fun e => ?_) key,
    OrderedMap.get?_eq_of_mem_iff (fun e => ?_) key,
    fun kind => OrderedMap.get?_eq_of_mem_iff (fun e => ?_) key⟩
  · rw [h.mem_files hidle, h'.mem_files hidle', hdisk]
  · rw [h.mem_folders hidle, h'.mem_folders hidle', hdisk]
  · rw [h.mem_symbolsOf hidle, h'.mem_symbolsOf hidle', hdisk]

end Idle

end Consistent

/-- **An index converges to a rebuild.**  From an index that was initialized on a regular tree,
after any changes of its files without collisions and any handling of the calls that these made,
and once no call waits: a fresh index can be initialized on the tree as it is, and all four mappings
hold the same under every key. -/
theorem converges {plan : IndexPlan} {base : List String} {conduct : Conduct} {start w : Watched}
    {world : Surroundings} (hstart : start.Starts plan base none)
    (hfree : CollisionFree plan base conduct)
    (hwrites : ∀ path content, IsBelow base path → start.disk.bytes? path = some content →
      conduct.writes path content)
    (hrun : Watched.Run plan base conduct start w) (hidle : w.queue = [])
    (hdisk : world.disk = w.disk) (hwatch : world.CanWatch)
    (hlists : world.listRefusal = none) :
    ∃ fresh journal, plan.populate world none .fresh = (.ok (), fresh, journal) ∧ ∀ key,
      w.index.mappings.files.get? key = fresh.mappings.files.get? key ∧
      w.index.mappings.folders.get? key = fresh.mappings.folders.get? key ∧
      w.index.mappings.components.get? key = fresh.mappings.components.get? key ∧
      w.index.mappings.functions.get? key = fresh.mappings.functions.get? key := by
  have hroot := hstart.root
  have hconsistent : Consistent plan base conduct w :=
    (Consistent.of_starts hstart hfree (hwrites _ _)).run hfree hroot hrun
  have hregular : world.disk.RegularTree base := hdisk ▸ hconsistent.sound.regular
  obtain ⟨paths, hpaths, -⟩ := mem_listTree hroot hregular hlists
  obtain ⟨fresh, journal, hpopulate⟩ := populate_ok (s := .fresh) plan none rfl hwatch hpaths
  have hfresh : Watched.Starts plan base none ⟨world.disk, [], fresh⟩ :=
    ⟨hroot, hregular, rfl, .fresh, world, journal, rfl, rfl, rfl, by simp, hpopulate⟩
  have hrebuilt : Consistent plan base conduct ⟨world.disk, [], fresh⟩ :=
    .of_starts hfresh hfree fun hbelow hbytes =>
      hconsistent.orderly.versions hbelow (hdisk ▸ hbytes)
  refine ⟨fresh, journal, hpopulate, fun key => ?_⟩
  obtain ⟨hfiles, hfolders, hsymbols⟩ := hconsistent.mappings_agree hidle hrebuilt rfl hdisk key
  exact ⟨hfiles, hfolders, hsymbols .component, hsymbols .function⟩

/-- What is in the two files at some time, before they are written over and after. -/
def twoFilesVersions : List (String × String) :=
  [("/r/a.ts", "f"), ("/r/a.ts", "e"), ("/r/lib/b.ts", "g"), ("/r/lib/b.ts", "h")]

/-- Only this is written, and listing is not refused. -/
def twoFilesConduct : Conduct where
  writes path content := ∃ text, (path, text) ∈ twoFilesVersions ∧ content = text.toUTF8
  surrounds world := world.listRefusal = none

/-- A file declares its whole text. -/
theorem name_of_declaredIn {path text : String} {content : ByteArray} {sym : Symbol}
    (hmem : (path, text) ∈ twoFilesVersions) (hcontent : content = text.toUTF8)
    (h : wholeTextPlan.DeclaredIn path content sym) : sym.name = text := by
  have hreads : ∀ version ∈ twoFilesVersions,
      textOfBytes version.2.toUTF8 = .ok version.2 := by decide +kernel
  obtain ⟨-, read, declarations, hread, hextract, d, hd, rfl⟩ := h
  rw [hcontent] at hread
  obtain rfl := Except.ok.inj ((hreads _ hmem).symm.trans hread)
  obtain rfl := Except.ok.inj hextract
  obtain rfl := List.mem_singleton.mp hd
  rfl

/-- The two files have no name in common, and neither declares what the other one does. -/
theorem twoFilesConduct_collisionFree : CollisionFree wholeTextPlan ["r"] twoFilesConduct where
  listed := by
    rintro path - ⟨text, hmem, -⟩
    have hbelow : IsBelow ["r"] path := by
      simp only [twoFilesVersions, List.mem_cons, List.not_mem_nil, or_false, Prod.mk.injEq] at hmem
      rcases hmem with ⟨rfl, -⟩ | ⟨rfl, -⟩ | ⟨rfl, -⟩ | ⟨rfl, -⟩
      · exact isBelow_first
      · exact isBelow_first
      · exact isBelow_second
      · exact isBelow_second
    have htracks : ∀ version ∈ twoFilesVersions,
        wholeTextPlan.tracking.tracks version.1 = true := by decide +kernel
    have hpath := htracks _ hmem
    dsimp only at hpath
    obtain ⟨place, hplace, heq⟩ := hbelow
    refine ⟨place, hplace, heq, hpath, fun folder _ _ => ?_⟩
    -- nothing is excluded
    rw [Tracking.passesOverStart]
    cases Path.relative? (placePath folder) wholeTextPlan.tracking.root <;> rfl
  tracked := by
    rintro path - ⟨text, hmem, -⟩
    have htracked : ∀ version ∈ twoFilesVersions,
        wholeTextPlan.isTracked version.1 = true := by decide
    have hpath := htracked _ hmem
    dsimp only at hpath
    exact hpath
  lists h := h
  files := by
    rintro a b - - ⟨textA, ha, -⟩ ⟨textB, hb, -⟩ v hv v' hv' hkey
    have hnames : ∀ x ∈ twoFilesVersions, ∀ y ∈ twoFilesVersions, ∀ v ∈ fileWrites x.1,
        ∀ v' ∈ fileWrites y.1, v.1 = v'.1 → x.1 = y.1 := by decide
    exact hnames _ ha _ hb v hv v' hv' hkey
  folders := by
    rintro a b - - ⟨textA, ha, -⟩ ⟨textB, hb, -⟩ v hv v' hv' hkey
    have hnames : ∀ x ∈ twoFilesVersions, ∀ y ∈ twoFilesVersions,
        ∀ v ∈ wholeTextPlan.folderWrites x.1, ∀ v' ∈ wholeTextPlan.folderWrites y.1,
          v.1 = v'.1 → v.2 = v'.2 := by decide +kernel
    exact hnames _ ha _ hb v hv v' hv' hkey
  symbols := by
    rintro a b contentA contentB symA symB ⟨textA, ha, hcontentA⟩ - hdeclA
      ⟨textB, hb, hcontentB⟩ - hdeclB hname
    rw [name_of_declaredIn ha hcontentA hdeclA, name_of_declaredIn hb hcontentB hdeclB] at hname
    have htexts : ∀ x ∈ twoFilesVersions, ∀ y ∈ twoFilesVersions, x.2 = y.2 → x.1 = y.1 := by
      decide
    exact htexts _ ha _ hb hname

/-- Of two files both are written over and one is deleted, and only then are the calls handled.  A
rebuild agrees with the index, which has entries of the other file. -/
theorem converges_late_run :
    let start : Watched := ⟨twoFiles, [], twoFilesIndex⟩
    let w : Watched := ⟨lateTree, [], lateIndex twoFilesIndex⟩
    (start.Starts wholeTextPlan ["r"] none ∧ CollisionFree wholeTextPlan ["r"] twoFilesConduct ∧
      Watched.Run wholeTextPlan ["r"] twoFilesConduct start w) ∧
    (w.index.mappings.files.entries = [("b.ts", "/r/lib/b.ts"), ("b", "/r/lib/b.ts")] ∧
      w.index.mappings.folders.entries = [("lib", "/r/lib")] ∧
      w.index.mappings.functions.entries = [("h", "/r/lib/b.ts")]) ∧
    ∃ fresh journal,
      wholeTextPlan.populate (.calm w.disk) none .fresh = (.ok (), fresh, journal) ∧
      ∀ key,
        w.index.mappings.files.get? key = fresh.mappings.files.get? key ∧
        w.index.mappings.folders.get? key = fresh.mappings.folders.get? key ∧
        w.index.mappings.components.get? key = fresh.mappings.components.get? key ∧
        w.index.mappings.functions.get? key = fresh.mappings.functions.get? key := by
  intro start w
  have hrun : Watched.Run wholeTextPlan ["r"] twoFilesConduct start w :=
    Watched.late_run twoFilesIndex ⟨"e", by decide, rfl⟩ ⟨"h", by decide, rfl⟩ rfl
  have hwrites : ∀ path content, IsBelow ["r"] path → twoFiles.bytes? path = some content →
      twoFilesConduct.writes path content := by
    intro path content hbelow hbytes
    rcases of_bytes?_twoFiles hbelow hbytes with ⟨rfl, rfl⟩ | ⟨rfl, rfl⟩
    · exact ⟨"f", by decide, rfl⟩
    · exact ⟨"g", by decide, rfl⟩
  have hdisk : (Surroundings.calm w.disk).disk = w.disk := rfl
  exact ⟨⟨twoFiles_starts, twoFilesConduct_collisionFree, hrun⟩, entries_lateIndex,
    converges twoFiles_starts twoFilesConduct_collisionFree hwrites hrun rfl hdisk (.calm _) rfl⟩

end SpokenIndex
