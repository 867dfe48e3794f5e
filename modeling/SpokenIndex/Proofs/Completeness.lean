/-
Nothing is missing but what still waits.

A file of the tree may not be registered yet, or no longer as it should be.  What holds at
every moment is that then a call waits that will register it: its creation, or for its
symbols also a change.  The deletion of a path takes more with it than the file that was
deleted, since the path may be that of a file again, or of a folder with files beneath.
That is no loss, because the creation of each of these waits behind the deletion.

This needs that names do not collide.  A file whose name another file takes is hidden, and
stays so when the other is deleted.
-/
import SpokenIndex.Proofs.Freshness

namespace SpokenIndex

open Disk IndexPlan

/-- No two files take the same name, no two folders, and no two source files declare it; all that
is written is listed and indexed, and listing is never refused.  What a run writes is among
`writes`, so this speaks of all versions of all files that occur in the run. -/
structure CollisionFree (plan : IndexPlan) (base : List String) (conduct : Conduct) : Prop where
  listed : ∀ {path content}, conduct.writes path content → plan.IsListed base path
  tracked : ∀ {path content}, conduct.writes path content → plan.isTracked path = true
  lists : ∀ {world}, conduct.surrounds world → world.listRefusal = none
  files : ∀ {a b contentA contentB}, conduct.writes a contentA → conduct.writes b contentB →
    ∀ v ∈ fileWrites a, ∀ v' ∈ fileWrites b, v.1 = v'.1 → a = b
  folders : ∀ {a b contentA contentB}, conduct.writes a contentA → conduct.writes b contentB →
    ∀ v ∈ plan.folderWrites a, ∀ v' ∈ plan.folderWrites b, v.1 = v'.1 → v.2 = v'.2
  symbols : ∀ {a b contentA contentB symA symB},
    conduct.writes a contentA → plan.isSource a = true → plan.DeclaredIn a contentA symA →
    conduct.writes b contentB → plan.isSource b = true → plan.DeclaredIn b contentB symB →
      symA.name = symB.name → a = b

theorem CollisionFree.fileWrites_agree {plan : IndexPlan} {base : List String} {conduct : Conduct}
    {a b : String} {contentA contentB : ByteArray} {e : String × String}
    (h : CollisionFree plan base conduct) (ha : conduct.writes a contentA)
    (hb : conduct.writes b contentB) (he : e ∈ fileWrites b) :
    ∀ v ∈ fileWrites a, v.1 = e.1 → v.2 = e.2 := by
  intro v hv hkey
  rw [value_of_mem_fileWrites hv, value_of_mem_fileWrites he]
  exact h.files ha hb v hv e he hkey

/-- What the queue tells of the tree. -/
structure Orderly (base : List String) (conduct : Conduct) (w : Watched) : Prop where
  versions : ∀ {path content}, IsBelow base path → w.disk.bytes? path = some content →
    conduct.writes path content
  known : ∀ c ∈ w.queue, ∃ content, conduct.writes c.path content
  recreated : ∀ {path later}, Waits w.queue ⟨.delete, path⟩ later →
    w.disk.isFile path = true → ⟨.create, path⟩ ∈ later
  beneath : ∀ {c later other}, Waits w.queue c later → IsBelow base other →
    Path.isAtOrBeneath c.path other = true → other ≠ c.path → w.disk.isFile other = true →
      ⟨.create, other⟩ ∈ later

namespace Orderly

variable {plan : IndexPlan} {base : List String} {conduct : Conduct} {w w' : Watched}
  {kind : CallKind} {path other : String} {rest : List Call} {c : Call} {index : IndexState}

theorem edited (h : Orderly base conduct w) (hsound : Sound plan base w)
    (he : Watched.Edited base conduct w w' kind path) : Orderly base conduct w' := by
  refine ⟨fun {p content} hbelow hbytes => ?_, fun c hc => ?_, fun {p later} hwaits hfile => ?_,
    fun {c later p} hwaits hbelow hbeneath hne hfile => ?_⟩
  · by_cases hsame : p = path
    · subst hsame
      exact he.here.allowed_of_some hbytes
    · rw [he.elsewhere p hbelow hsame] at hbytes
      exact h.versions hbelow hbytes
  · rw [he.queue] at hc
    rcases List.mem_append.mp hc with hc | hc
    · exact h.known c hc
    · rw [List.mem_singleton.mp hc]
      rcases he.here.exists_allowed_or with hallowed | ⟨content, hold⟩
      · exact hallowed
      · exact ⟨content, h.versions he.below hold⟩
  · rw [he.queue] at hwaits
    rcases waits_concat.mp hwaits with ⟨hlast, -⟩ | ⟨l, rfl, hbefore⟩
    · obtain ⟨rfl, rfl⟩ := Call.mk.inj hlast
      rw [isFile_eq_isSome, he.here.new_eq_none] at hfile
      simp at hfile
    · rcases he.isFile_back (hsound.calls _ hbefore.mem) hfile with hold | ⟨rfl, rfl⟩
      · exact List.mem_append_left _ (h.recreated hbefore hold)
      · exact List.mem_append_right _ List.mem_cons_self
  · rw [he.queue] at hwaits
    rcases waits_concat.mp hwaits with ⟨rfl, -⟩ | ⟨l, rfl, hbefore⟩
    · exact absurd hfile (he.not_isFile_beneath hsound.regular hbelow hbeneath hne)
    · rcases he.isFile_back hbelow hfile with hold | ⟨rfl, rfl⟩
      · exact List.mem_append_left _ (h.beneath hbefore hbelow hbeneath hne hold)
      · exact List.mem_append_right _ List.mem_cons_self

theorem handled (h : Orderly base conduct w) (hqueue : w.queue = c :: rest) :
    Orderly base conduct ⟨w.disk, rest, index⟩ := by
  refine ⟨h.versions, fun d hd => h.known d ?_, fun hwaits => h.recreated (hqueue ▸ hwaits.cons),
    fun hwaits => h.beneath (hqueue ▸ hwaits.cons)⟩
  rw [hqueue]
  exact List.mem_cons_of_mem _ hd

theorem exists_writes (h : Orderly base conduct w) (hbelow : IsBelow base path)
    (hfile : w.disk.isFile path = true) : ∃ content, conduct.writes path content := by
  obtain ⟨content, hcontent⟩ := isFile_iff.mp hfile
  exact ⟨content, h.versions hbelow hcontent⟩

/-- Only one source file declares a name. -/
theorem eq_of_declares (h : Orderly base conduct w) (hfree : CollisionFree plan base conduct)
    {a b : String} {symA symB : Symbol} (ha : IsBelow base a) (hsourceA : plan.isSource a = true)
    (hdeclaresA : plan.Declares w.disk a symA) (hb : IsBelow base b)
    (hsourceB : plan.isSource b = true) (hdeclaresB : plan.Declares w.disk b symB)
    (hname : symA.name = symB.name) : a = b := by
  obtain ⟨_, hbytesA, hinA⟩ := declares_iff.mp hdeclaresA
  obtain ⟨_, hbytesB, hinB⟩ := declares_iff.mp hdeclaresB
  exact hfree.symbols (h.versions ha hbytesA) hsourceA hinA (h.versions hb hbytesB) hsourceB hinB
    hname

/-- What another source file declares under the name of a declared symbol belongs to its file. -/
theorem owner_eq_of_declares (h : Orderly base conduct w)
    (hfree : CollisionFree plan base conduct) {p name owner : String} {kind kind' : SymbolKind}
    (hp : IsBelow base p) (hsourceP : plan.isSource p = true)
    (hdeclaresP : plan.Declares w.disk p ⟨name, kind', owner⟩) (hbelow : IsBelow base path)
    (hsource : plan.isSource path = true)
    (hdeclares : plan.Declares w.disk path ⟨name, kind, path⟩) : owner = path := by
  have howner : owner = p := hdeclaresP.owner_eq
  exact howner.trans
    (h.eq_of_declares hfree hp hsourceP hdeclaresP hbelow hsource hdeclares rfl)

/-- A file that the first call takes with it is created again by a call behind it. -/
theorem create_waits (h : Orderly base conduct w) (hqueue : w.queue = c :: rest)
    (hother : IsBelow base other) (hfile : w.disk.isFile other = true)
    (hbeneath : Path.isAtOrBeneath c.path other = true)
    (hc : c.kind = .delete ∨ other ≠ c.path) : ⟨.create, other⟩ ∈ rest := by
  have hhead : Waits w.queue c rest := hqueue ▸ waits_head
  by_cases hsame : other = c.path
  · obtain ⟨callKind, p⟩ := c
    obtain rfl : callKind = .delete := hc.resolve_right fun hne => hne hsame
    obtain rfl : other = p := hsame
    exact h.recreated hhead hfile
  · exact h.beneath hhead hother hbeneath hsame hfile

end Orderly

/-- Each file of the tree is registered with all its names, or a call waits that registers it. -/
structure Complete (plan : IndexPlan) (base : List String) (w : Watched) : Prop where
  files : ∀ {path}, IsBelow base path → w.disk.isFile path = true →
    ⟨.create, path⟩ ∈ w.queue ∨ ∀ e ∈ fileWrites path, e ∈ w.index.mappings.files.entries
  folders : ∀ {path}, IsBelow base path → w.disk.isFile path = true →
    ⟨.create, path⟩ ∈ w.queue ∨
      ∀ e ∈ plan.folderWrites path, e ∈ w.index.mappings.folders.entries
  symbols : ∀ {path name kind}, IsBelow base path → plan.isSource path = true →
    plan.Declares w.disk path ⟨name, kind, path⟩ →
      ⟨.create, path⟩ ∈ w.queue ∨ ⟨.change, path⟩ ∈ w.queue ∨
        (name, path) ∈ (w.index.mappings.symbolsOf kind).entries

namespace Complete

variable {plan : IndexPlan} {base : List String} {conduct : Conduct} {w w' : Watched}
  {callKind : CallKind} {path : String} {rest : List Call} {c : Call} {world : Surroundings}

/-! ### At the beginning -/

theorem of_starts (h : w.Starts plan base none) (horderly : Orderly base conduct w)
    (hfree : CollisionFree plan base conduct) : Complete plan base w := by
  obtain ⟨paths, hfilled, hpaths, hall⟩ := h.filledWith
  have hwrites : ∀ p ∈ paths, ∃ content, conduct.writes p content := fun p hp =>
    horderly.exists_writes (hpaths p hp).1 (hpaths p hp).2.2
  have hmem : ∀ p, IsBelow base p → w.disk.isFile p = true → p ∈ paths := by
    intro p hbelow hfile
    obtain ⟨content, hcontent⟩ := horderly.exists_writes hbelow hfile
    exact hall rfl p (hfree.listed hcontent) (hfree.tracked hcontent) hfile
  refine ⟨fun {p} hbelow hfile => Or.inr fun e he => ?_,
    fun {p} hbelow hfile => Or.inr fun e he => ?_,
    fun {p name kind} hbelow hsource hdeclares => Or.inr (Or.inr ?_)⟩
  · obtain ⟨content, hcontent⟩ := hwrites p (hmem p hbelow hfile)
    rw [hfilled.files]
    refine OrderedMap.mem_ofList_flatMap (hmem p hbelow hfile) he fun a ha => ?_
    obtain ⟨other, hother⟩ := hwrites a ha
    exact hfree.fileWrites_agree hother hcontent he
  · obtain ⟨content, hcontent⟩ := hwrites p (hmem p hbelow hfile)
    rw [hfilled.folders]
    refine OrderedMap.mem_ofList_flatMap (hmem p hbelow hfile) he fun a ha v hv => ?_
    obtain ⟨other, hother⟩ := hwrites a ha
    exact hfree.folders hother hcontent v hv e he
  · rw [hfilled.symbolsOf]
    refine OrderedMap.mem_ofList_flatMap (hmem p hbelow hdeclares.isFile)
      (mem_scanIfSource_symbolWrites.mpr ⟨hsource, hdeclares⟩) fun a ha v hv hkey => ?_
    obtain ⟨hsourceA, hdeclaresA⟩ := mem_scanIfSource_symbolWrites.mp hv
    have howner : v.2 = a := hdeclaresA.owner_eq
    exact howner.trans (horderly.eq_of_declares hfree (hpaths a ha).1 hsourceA hdeclaresA hbelow
      hsource hdeclares hkey)

/-! ### A file changes -/

theorem edited (h : Complete plan base w) (he : Watched.Edited base conduct w w' callKind path) :
    Complete plan base w' := by
  refine ⟨fun {p} hbelow hfile => ?_, fun {p} hbelow hfile => ?_,
    fun {p name kind} hbelow hsource hdeclares => ?_⟩
  · rcases he.isFile_back hbelow hfile with hold | ⟨rfl, rfl⟩
    · rw [he.index]
      exact (h.files hbelow hold).imp he.mem_queue id
    · exact Or.inl he.call_mem
  · rcases he.isFile_back hbelow hfile with hold | ⟨rfl, rfl⟩
    · rw [he.index]
      exact (h.folders hbelow hold).imp he.mem_queue id
    · exact Or.inl he.call_mem
  · by_cases hsame : p = path
    · subst hsame
      cases callKind with
      | create => exact Or.inl he.call_mem
      | change => exact Or.inr (Or.inl he.call_mem)
      | delete =>
          obtain ⟨content, hcontent, -⟩ := declares_iff.mp hdeclares
          rw [he.here.new_eq_none] at hcontent
          simp at hcontent
    · rw [declares_congr (he.elsewhere p hbelow hsame)] at hdeclares
      rw [he.index]
      exact (h.symbols hbelow hsource hdeclares).imp he.mem_queue (Or.imp he.mem_queue id)

/-! ### A call is handled -/

theorem handled_files (h : Complete plan base w) (hsound : Sound plan base w)
    (horderly : Orderly base conduct w) (hfree : CollisionFree plan base conduct)
    (hqueue : w.queue = c :: rest) (hbelow : IsBelow base path)
    (hfile : w.disk.isFile path = true) :
    ⟨.create, path⟩ ∈ rest ∨ ∀ e ∈ fileWrites path,
      e ∈ (plan.handleCall world c w.index).1.mappings.files.entries := by
  have hhead : Waits w.queue c rest := hqueue ▸ waits_head
  have hp := (hsound.calls c hhead.mem).canonical world.workDir
  obtain ⟨content, hcontent⟩ := horderly.exists_writes hbelow hfile
  obtain ⟨known, hknown⟩ := horderly.known c hhead.mem
  have hbefore := h.files hbelow hfile
  rw [hqueue, List.mem_cons] at hbefore
  obtain ⟨kind, p⟩ := c
  cases kind with
  | create =>
      have hafter : ∀ e ∈ fileWrites path, e ∈ fileWrites p ∨
          e ∈ w.index.mappings.files.entries →
            e ∈ (plan.handleCreate world p w.index).1.mappings.files.entries := fun e he =>
        (mem_files_handleCreate hp (hfree.tracked hknown)
          (hfree.fileWrites_agree hknown hcontent he)).mpr
      rcases hbefore with (hnow | hwaits) | hall
      · obtain ⟨-, rfl⟩ := Call.mk.inj hnow
        exact Or.inr fun e he => hafter e he (Or.inl he)
      · exact Or.inl hwaits
      · exact Or.inr fun e he => hafter e he (Or.inr (hall e he))
  | change =>
      rw [handleCall_change, handleChange_files hp]
      exact hbefore.imp (fun hwaits => hwaits.resolve_left (by simp)) id
  | delete =>
      by_cases hbeneath : Path.isAtOrBeneath p path = true
      · exact Or.inl (horderly.create_waits hqueue hbelow hfile hbeneath (Or.inl rfl))
      · refine hbefore.imp (fun hwaits => hwaits.resolve_left (by simp)) fun hall e he => ?_
        refine (mem_files_handleDelete hp).mpr ⟨hall e he, ?_⟩
        rw [value_of_mem_fileWrites he]
        exact Bool.eq_false_iff.mpr hbeneath

theorem handled_folders (h : Complete plan base w) (hsound : Sound plan base w)
    (horderly : Orderly base conduct w) (hfree : CollisionFree plan base conduct)
    (hroot : plan.watchRoot = placePath base) (hqueue : w.queue = c :: rest)
    (hsurrounds : conduct.surrounds world) (hdisk : world.disk = w.disk)
    (hbelow : IsBelow base path) (hfile : w.disk.isFile path = true) :
    ⟨.create, path⟩ ∈ rest ∨ ∀ e ∈ plan.folderWrites path,
      e ∈ (plan.handleCall world c w.index).1.mappings.folders.entries := by
  have hhead : Waits w.queue c rest := hqueue ▸ waits_head
  have hp := (hsound.calls c hhead.mem).canonical world.workDir
  obtain ⟨content, hcontent⟩ := horderly.exists_writes hbelow hfile
  obtain ⟨known, hknown⟩ := horderly.known c hhead.mem
  have hbefore := h.folders hbelow hfile
  rw [hqueue, List.mem_cons] at hbefore
  obtain ⟨kind, p⟩ := c
  cases kind with
  | create =>
      have hafter : ∀ e ∈ plan.folderWrites path, e ∈ plan.folderWrites p ∨
          e ∈ w.index.mappings.folders.entries →
            e ∈ (plan.handleCreate world p w.index).1.mappings.folders.entries := fun e he =>
        (mem_folders_handleCreate hp (hfree.tracked hknown)
          fun v hv => hfree.folders hknown hcontent v hv e he).mpr
      rcases hbefore with (hnow | hwaits) | hall
      · obtain ⟨-, rfl⟩ := Call.mk.inj hnow
        exact Or.inr fun e he => hafter e he (Or.inl he)
      · exact Or.inl hwaits
      · exact Or.inr fun e he => hafter e he (Or.inr (hall e he))
  | change =>
      rw [handleCall_change, handleChange_folders hp]
      exact hbefore.imp (fun hwaits => hwaits.resolve_left (by simp)) id
  | delete =>
      -- the folders are computed afresh, so what was registered before does not matter
      obtain ⟨writes, hwrites, hmem⟩ := handleDelete_folders_tree p w.index hroot
        (hdisk ▸ hsound.regular) (hfree.lists hsurrounds)
      rw [handleCall_delete, hwrites]
      refine Or.inr fun e he => (OrderedMap.mem_ofList_iff fun v hv hkey => ?_).mpr
        ((hmem e).mpr ⟨path, hfree.listed hcontent, hfree.tracked hcontent, hdisk ▸ hfile, he⟩)
      obtain ⟨a, hlisted, -, hfileA, hva⟩ := (hmem v).mp hv
      obtain ⟨other, hother⟩ := horderly.exists_writes hlisted.isBelow (hdisk ▸ hfileA)
      exact hfree.folders hother hcontent v hva e he hkey

/-- The change of a source file registers what it declares and drops what is beneath it. -/
theorem changed_symbols (h : Complete plan base w) (hsound : Sound plan base w)
    (horderly : Orderly base conduct w) (hfree : CollisionFree plan base conduct) {p : String}
    (hqueue : w.queue = ⟨.change, p⟩ :: rest) (hdisk : world.disk = w.disk)
    (hsourceP : plan.isSource p = true) (hbelow : IsBelow base path)
    (hsource : plan.isSource path = true) {name : String} {kind : SymbolKind}
    (hdeclares : plan.Declares w.disk path ⟨name, kind, path⟩) :
    ⟨.create, path⟩ ∈ rest ∨ ⟨.change, path⟩ ∈ rest ∨
      (name, path) ∈ ((plan.handleChange world p w.index).1.mappings.symbolsOf kind).entries := by
  have hhead : Waits w.queue ⟨.change, p⟩ rest := hqueue ▸ waits_head
  have hbelowP : IsBelow base p := hsound.calls _ hhead.mem
  have hafter : plan.Declares w.disk p ⟨name, kind, path⟩ ∨
      (name, path) ∈ (w.index.mappings.symbolsOf kind).entries ∧
        Path.isAtOrBeneath p path = false →
        (name, path) ∈
          ((plan.handleChange world p w.index).1.mappings.symbolsOf kind).entries := by
    rw [← hdisk]
    refine (mem_symbolsOf_handleChange (hbelowP.canonical _) hsourceP fun other hother => ?_).mpr
    exact horderly.owner_eq_of_declares hfree hbelowP hsourceP (hdisk ▸ hother) hbelow hsource
      hdeclares
  by_cases hsame : path = p
  · subst hsame
    exact Or.inr (Or.inr (hafter (Or.inl hdeclares)))
  · by_cases hbeneath : Path.isAtOrBeneath p path = true
    · exact Or.inl (horderly.create_waits hqueue hbelow hdeclares.isFile hbeneath (Or.inr hsame))
    · have hbefore := h.symbols hbelow hsource hdeclares
      rw [hqueue, List.mem_cons, List.mem_cons] at hbefore
      rcases hbefore with (hnow | hwaits) | (hnow | hwaits) | hentry
      · simp at hnow
      · exact Or.inl hwaits
      · exact absurd (Call.mk.inj hnow).2 hsame
      · exact Or.inr (Or.inl hwaits)
      · exact Or.inr (Or.inr (hafter (Or.inr ⟨hentry, Bool.eq_false_iff.mpr hbeneath⟩)))

theorem handled_symbols (h : Complete plan base w) (hsound : Sound plan base w)
    (horderly : Orderly base conduct w) (hfree : CollisionFree plan base conduct)
    (hqueue : w.queue = c :: rest) (hdisk : world.disk = w.disk) (hbelow : IsBelow base path)
    (hsource : plan.isSource path = true) {name : String} {kind : SymbolKind}
    (hdeclares : plan.Declares w.disk path ⟨name, kind, path⟩) :
    ⟨.create, path⟩ ∈ rest ∨ ⟨.change, path⟩ ∈ rest ∨
      (name, path) ∈ ((plan.handleCall world c w.index).1.mappings.symbolsOf kind).entries := by
  have hhead : Waits w.queue c rest := hqueue ▸ waits_head
  have hbelowC := hsound.calls c hhead.mem
  have hp := hbelowC.canonical world.workDir
  have hbefore := h.symbols hbelow hsource hdeclares
  rw [hqueue, List.mem_cons, List.mem_cons] at hbefore
  obtain ⟨callKind, p⟩ := c
  cases callKind with
  | create =>
      obtain ⟨known, hknown⟩ := horderly.known _ hhead.mem
      have hafter : plan.isSource p = true ∧ plan.Declares w.disk p ⟨name, kind, path⟩ ∨
          (name, path) ∈ (w.index.mappings.symbolsOf kind).entries →
            (name, path) ∈
              ((plan.handleCreate world p w.index).1.mappings.symbolsOf kind).entries := by
        rw [← hdisk]
        refine (mem_symbolsOf_handleCreate hp (hfree.tracked hknown) ?_).mpr
        intro other hsourceP hother
        exact horderly.owner_eq_of_declares hfree hbelowC hsourceP (hdisk ▸ hother) hbelow hsource
          hdeclares
      rcases hbefore with (hnow | hwaits) | (hnow | hwaits) | hentry
      · obtain ⟨-, rfl⟩ := Call.mk.inj hnow
        exact Or.inr (Or.inr (hafter (Or.inl ⟨hsource, hdeclares⟩)))
      · exact Or.inl hwaits
      · simp at hnow
      · exact Or.inr (Or.inl hwaits)
      · exact Or.inr (Or.inr (hafter (Or.inr hentry)))
  | change =>
      rw [handleCall_change]
      by_cases hsourceP : plan.isSource p = true
      · exact h.changed_symbols hsound horderly hfree hqueue hdisk hsourceP hbelow hsource hdeclares
      · have hother : path ≠ p := fun hsame => hsourceP (hsame ▸ hsource)
        rw [handleChange_of_not_source hp hsourceP]
        exact hbefore.imp (fun hwaits => hwaits.resolve_left (by simp))
          (Or.imp (fun hwaits => hwaits.resolve_left fun hnow => hother (Call.mk.inj hnow).2) id)
  | delete =>
      by_cases hbeneath : Path.isAtOrBeneath p path = true
      · exact Or.inl
          (horderly.create_waits hqueue hbelow hdeclares.isFile hbeneath (Or.inl rfl))
      · refine hbefore.imp (fun hwaits => hwaits.resolve_left (by simp))
          (Or.imp (fun hwaits => hwaits.resolve_left (by simp)) fun hentry => ?_)
        exact (mem_symbolsOf_handleDelete hp).mpr ⟨hentry, Bool.eq_false_iff.mpr hbeneath⟩

theorem handled (h : Complete plan base w) (hsound : Sound plan base w)
    (horderly : Orderly base conduct w) (hfree : CollisionFree plan base conduct)
    (hroot : plan.watchRoot = placePath base) (hqueue : w.queue = c :: rest)
    (hsurrounds : conduct.surrounds world) (hdisk : world.disk = w.disk) :
    Complete plan base ⟨w.disk, rest, (plan.handleCall world c w.index).1⟩ where
  files hbelow hfile := h.handled_files hsound horderly hfree hqueue hbelow hfile
  folders hbelow hfile :=
    h.handled_folders hsound horderly hfree hroot hqueue hsurrounds hdisk hbelow hfile
  symbols hbelow hsource hdeclares :=
    h.handled_symbols hsound horderly hfree hqueue hdisk hbelow hsource hdeclares

end Complete

end SpokenIndex
