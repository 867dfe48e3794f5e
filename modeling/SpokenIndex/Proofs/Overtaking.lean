/-
A change that overtakes the bulk.

A file of the bulk is scanned first and registered later.  If it is written over in between,
a call for the change waits, and when that is handled after the registration the index is
put right.  But the call may be handled before the registration too.  Then the handler drops
nothing, registers what the file declares now, and the scan of the old text is registered
on top of it, with no call left that would drop it.

So the symbols of a file are right in the end if no change of the file was handled while its
scan was held; the other files of the bulk, and all other calls, do not matter.  That the
file still exists is looked at when a scan is registered, and this is why a deletion cannot
be undone in the same way (`Proofs/Filling`); that its text is still the scanned one is not.
-/
import SpokenIndex.Proofs.Filling
import SpokenIndex.Proofs.Freshness
import SpokenIndex.Proofs.Ownership

namespace SpokenIndex

open Disk IndexPlan

/-- A file below a root is written over, and its change is called for. -/
structure IsRewriting (base : List String) (disk : Disk) (c : Call) (written : Disk) : Prop where
  kind : c.kind = .change
  below : IsBelow base c.path
  isFile : disk.isFile c.path = true
  written : ∃ content, written = disk.write c.path content

namespace Filling

/-- Files are written over, and calls are handled where that is allowed. -/
def Rules.rewriting (base : List String) (handles : Option Scan → Call → Prop) : Rules :=
  ⟨IsRewriting base, handles⟩

/-- A call does not overtake the scan of a path: it is not about the path while the scan is held. -/
def NotOvertaking (path : String) (scanned : Option Scan) (c : Call) : Prop :=
  c.path = path → ∀ scan, scanned = some scan → scan.path ≠ path

variable {plan : IndexPlan} {base : List String} {path name : String} {kind : SymbolKind}
  {handles : Option Scan → Call → Prop} {f f' start done : Filling} {disk : Disk} {c : Call}
  {scan : Scan} {before after : List Call} {world : Surroundings} {sym : Symbol}

/-- The symbols of a path, registered or scanned, are declared by its file or have a change
waiting. -/
structure Abreast (plan : IndexPlan) (base : List String) (path : String) (f : Filling) : Prop where
  regular : f.disk.RegularTree base
  calls : ∀ c ∈ f.queue, c.kind = .change ∧ IsBelow base c.path
  held : ∀ scan, f.scanned = some scan → scan.path = path → ∀ sym ∈ scan.symbols,
    plan.isSource path = true ∧ Current plan f.disk f.queue sym
  symbols : ∀ {kind name}, (name, path) ∈ (f.index.mappings.symbolsOf kind).entries →
    plan.isSource path = true ∧ Current plan f.disk f.queue ⟨name, kind, path⟩

/-- Handling another call leaves a symbol current. -/
theorem current_of_ne_handled (hqueue : f.queue = before ++ c :: after)
    (h : Current plan disk f.queue sym) (hkind : c.kind = .change) (hpath : c.path ≠ sym.owner) :
    Current plan disk (before ++ after) sym := by
  rcases h with hdeclares | hwaits | hwaits
  · exact Or.inl hdeclares
  · refine Or.inr (Or.inl (waits_of_ne_handled hqueue hwaits fun hc => hpath ?_))
    rw [← hc]
  · refine Or.inr (Or.inr (waits_of_ne_handled hqueue hwaits fun hc => ?_))
    rw [← hc] at hkind
    simp at hkind

namespace Abreast

/-! ### A step of the bulk -/

theorem scanned (h : Abreast plan base path f) (given : String) (rest : List String) :
    Abreast plan base path (f.scan plan given rest) := by
  refine ⟨h.regular, h.calls, fun scan hscan hpath sym hsym => ?_, h.symbols⟩
  obtain rfl := Option.some.inj hscan
  obtain rfl : given = path := hpath
  obtain ⟨hsource, hdeclares⟩ := mem_scanIfSource.mp hsym
  refine ⟨hsource, Or.inl ?_⟩
  rwa [hdeclares.owner_eq]

theorem registered (h : Abreast plan base path f) (hscanned : f.scanned = some scan) :
    Abreast plan base path (f.register plan scan) := by
  refine ⟨h.regular, h.calls, fun other hother => absurd hother (by simp [register]),
    fun {kind name} he => ?_⟩
  change (name, path) ∈ ((plan.registerExisting f.disk scan.path scan.symbols
    f.index.mappings).symbolsOf kind).entries at he
  rw [registerExisting] at he
  by_cases hfile : f.disk.isFile scan.path = true
  · rw [if_pos hfile, register_symbolsOf] at he
    rcases OrderedMap.mem_of_mem_insertAll he with hwrite | ⟨hold, -⟩
    · have hsym := mem_symbolWrites.mp hwrite
      exact h.held scan hscanned (scan.owned _ hsym).symm _ hsym
    · exact h.symbols hold
  · rw [if_neg hfile] at he
    exact h.symbols he

/-! ### A file is written over -/

theorem rewritten (hbelow : IsBelow base path) (h : Abreast plan base path f)
    (hrewriting : IsRewriting base f.disk c disk) :
    Abreast plan base path (f.change c disk) := by
  obtain ⟨callKind, given⟩ := c
  obtain rfl : callKind = .change := hrewriting.kind
  obtain ⟨content, rfl⟩ := hrewriting.written
  have hedited : Watched.Edited base .free f.toWatched
      ⟨f.disk.write given content, f.queue ++ [⟨.change, given⟩], f.index⟩ .change given :=
    .of_overwrite h.regular hrewriting.below trivial hrewriting.isFile
  refine ⟨hedited.regular, fun c hc => ?_, fun scan hscan hpath sym hsym => ?_,
    fun {kind name} he => ?_⟩
  · rcases List.mem_append.mp hc with hc | hc
    · exact h.calls c hc
    · rw [List.mem_singleton.mp hc]
      exact ⟨rfl, hrewriting.below⟩
  · obtain ⟨hsource, hcurrent⟩ := h.held scan hscan hpath sym hsym
    have howner : IsBelow base sym.owner := by
      rw [scan.owned sym hsym, hpath]
      exact hbelow
    exact ⟨hsource, hedited.current howner hcurrent⟩
  · obtain ⟨hsource, hcurrent⟩ := h.symbols he
    exact ⟨hsource, hedited.current hbelow hcurrent⟩

/-! ### A change is handled -/

theorem handled_symbols (h : Abreast plan base path f) (hqueue : f.queue = before ++ c :: after)
    (hdisk : world.disk = f.disk)
    (he : (name, path) ∈
      ((plan.handleCall world c f.index).1.mappings.symbolsOf kind).entries) :
    plan.isSource path = true ∧ Current plan f.disk (before ++ after) ⟨name, kind, path⟩ := by
  obtain ⟨hkind, hbelow⟩ := h.calls c (handled_mem_queue hqueue)
  have hp := hbelow.canonical world.workDir
  have hkept : (name, path) ∈ (f.index.mappings.symbolsOf kind).entries → c.path ≠ path →
      plan.isSource path = true ∧ Current plan f.disk (before ++ after) ⟨name, kind, path⟩ := by
    intro hold hne
    obtain ⟨hsource, hcurrent⟩ := h.symbols hold
    exact ⟨hsource, current_of_ne_handled hqueue hcurrent hkind hne⟩
  obtain ⟨callKind, given⟩ := c
  obtain rfl : callKind = .change := hkind
  rw [handleCall_change] at he
  by_cases hsource : plan.isSource given = true
  · rcases of_mem_symbolsOf_handleChange hp hsource he with hdeclares | ⟨hold, hout⟩
    · obtain rfl : path = given := hdeclares.owner_eq
      rw [hdisk] at hdeclares
      exact ⟨hsource, Or.inl hdeclares⟩
    · exact hkept hold (ne_of_not_isAtOrBeneath hout)
  · rw [handleChange_of_not_source hp hsource] at he
    refine hkept he fun hsame => hsource ?_
    rw [show given = path from hsame]
    exact (h.symbols he).1

theorem handled (h : Abreast plan base path f) (hqueue : f.queue = before ++ c :: after)
    (hdisk : world.disk = f.disk) (hbehind : NotOvertaking path f.scanned c) :
    Abreast plan base path (f.handle plan world c (before ++ after)) := by
  refine ⟨h.regular, fun d hd => h.calls d (mem_queue_of_waits hqueue hd),
    fun scan hscan hpath sym hsym => ?_, fun he => h.handled_symbols hqueue hdisk he⟩
  obtain ⟨hkind, -⟩ := h.calls c (handled_mem_queue hqueue)
  obtain ⟨hsource, hcurrent⟩ := h.held scan hscan hpath sym hsym
  refine ⟨hsource, current_of_ne_handled hqueue hcurrent hkind fun hsame => ?_⟩
  -- The scan of the path is held, so the call that is handled is not about the path.
  rw [scan.owned sym hsym, hpath] at hsame
  exact hbehind hsame scan hscan hpath

/-! ### Any number of steps -/

theorem step (hbelow : IsBelow base path) (h : Abreast plan base path f)
    (hstep : Step plan (.rewriting base (NotOvertaking path)) f f') :
    Abreast plan base path f' := by
  cases hstep with
  | skip _ _ _ => exact ⟨h.regular, h.calls, h.held, h.symbols⟩
  | scan _ _ _ => exact h.scanned _ _
  | register hscanned => exact h.registered hscanned
  | change hrewriting => exact h.rewritten hbelow hrewriting
  | handle hqueue hdisk hbehind => exact h.handled hqueue hdisk hbehind

theorem run (hbelow : IsBelow base path) (h : Abreast plan base path start)
    (hrun : Run plan (.rewriting base (NotOvertaking path)) start f) :
    Abreast plan base path f := by
  induction hrun with
  | refl => exact h
  | tail _ hstep ih => exact ih.step hbelow hstep

end Abreast

/-- **When a change is not undone.**  An empty index is filled with any bulk while files of a
regular tree are written over and their changes are handled, in any order.  Once all changes have
been handled, a file declares every symbol that is registered for it, provided that no change of
this file was handled between its scan and its registration. -/
theorem symbols_stand_unless_overtaken (hbelow : IsBelow base path)
    (hregular : start.disk.RegularTree base) (hempty : start.index.mappings = .empty)
    (hidle : start.queue = []) (hfree : start.scanned = none)
    (hrun : Run plan (.rewriting base (NotOvertaking path)) start done)
    (hhandled : done.queue = []) :
    (∀ name, (name, path) ∈ done.index.mappings.components.entries →
        plan.Declares done.disk path ⟨name, .component, path⟩) ∧
      ∀ name, (name, path) ∈ done.index.mappings.functions.entries →
        plan.Declares done.disk path ⟨name, .function, path⟩ := by
  have hstart : Abreast plan base path start := by
    refine ⟨hregular, ?_, ?_, fun {kind name} he => ?_⟩
    · rw [hidle]
      exact fun c hc => absurd hc List.not_mem_nil
    · rw [hfree]
      exact fun scan hscan => by simp at hscan
    · rw [hempty] at he
      cases kind <;> exact absurd he List.not_mem_nil
  have hdone : Abreast plan base path done := hstart.run hbelow hrun
  have hsymbols : ∀ kind name, (name, path) ∈ (done.index.mappings.symbolsOf kind).entries →
      plan.Declares done.disk path ⟨name, kind, path⟩ := by
    intro kind name he
    obtain ⟨-, hcurrent⟩ := hdone.symbols he
    simpa [Current, hhandled] using hcurrent
  exact ⟨hsymbols .component, hsymbols .function⟩

/-! ### Two runs with one file -/

/-- The one file of a tree is still to come. -/
def beginning : Filling := ⟨⟨oneFile "old".toUTF8, [], .fresh⟩, [placePath ["a.ts", "r"]], none⟩

/-- It was scanned, and then written over. -/
def halfway : Filling :=
  (beginning.scan wholeTextPlan (placePath ["a.ts", "r"]) []).change
    ⟨.change, placePath ["a.ts", "r"]⟩
    (beginning.disk.write (placePath ["a.ts", "r"]) "new".toUTF8)

/-- The scan that is held then. -/
def oldScan : Scan := wholeTextPlan.scanOf beginning.disk (placePath ["a.ts", "r"])

theorem run_halfway (handles : Option Scan → Call → Prop) :
    Run wholeTextPlan (.rewriting ["r"] handles) beginning halfway := by
  have hrewriting : IsRewriting ["r"] beginning.disk
      ⟨.change, placePath ["a.ts", "r"]⟩ halfway.disk :=
    ⟨rfl, isBelow_oneFile, isFile_oneFile _, _, rfl⟩
  exact (Relation.ReflTransGen.single (.scan rfl rfl (by decide))).tail (.change hrewriting)

theorem bytes?_halfway :
    halfway.disk.bytes? (placePath ["a.ts", "r"]) = some "new".toUTF8 :=
  (oneFile_regular _).bytes?_write_self _ isBelow_oneFile (isFile_oneFile _)

theorem declares_halfway :
    wholeTextPlan.Declares halfway.disk (placePath ["a.ts", "r"]) sym ↔
      sym = ⟨"new", .function, placePath ["a.ts", "r"]⟩ := by
  rw [declares_congr (bytes?_halfway.trans (bytes?_oneFile _).symm)]
  exact declares_oneFile (by decide) (by decide +kernel)

/-- The change is handled after the scan is registered. -/
theorem symbols_stand_unless_overtaken_late :
    ∃ (start done : Filling) (path : String), IsBelow ["r"] path ∧
      start.disk.RegularTree ["r"] ∧ start.index.mappings = .empty ∧ start.queue = [] ∧
      start.scanned = none ∧
      Run wholeTextPlan (.rewriting ["r"] (NotOvertaking path)) start done ∧ done.queue = [] ∧
      (∀ name, (name, path) ∈ done.index.mappings.components.entries →
          wholeTextPlan.Declares done.disk path ⟨name, .component, path⟩) ∧
        ∀ name, (name, path) ∈ done.index.mappings.functions.entries →
          wholeTextPlan.Declares done.disk path ⟨name, .function, path⟩ := by
  let path := placePath ["a.ts", "r"]
  let registered := halfway.register wholeTextPlan oldScan
  have hregister : Step wholeTextPlan (.rewriting ["r"] (NotOvertaking path)) halfway registered :=
    .register rfl
  have hqueue : registered.queue = [] ++ ⟨.change, path⟩ :: [] := rfl
  have hbehind : NotOvertaking path registered.scanned ⟨.change, path⟩ :=
    fun _ scan hscan => absurd hscan (by simp [registered, register])
  have hhandle : Step wholeTextPlan (.rewriting ["r"] (NotOvertaking path)) registered
      (registered.handle wholeTextPlan (.calm registered.disk) ⟨.change, path⟩ []) :=
    .handle hqueue rfl hbehind
  have hdone := ((run_halfway (NotOvertaking path)).tail hregister).tail hhandle
  have hstands := symbols_stand_unless_overtaken isBelow_oneFile (oneFile_regular _) rfl rfl rfl
    hdone rfl
  exact ⟨_, _, path, isBelow_oneFile, oneFile_regular _, rfl, rfl, rfl, hdone, rfl, hstands⟩

/-- What a scan found is registered, whatever the file declares by then. -/
theorem mem_symbolsOf_register (hfile : f.disk.isFile scan.path = true)
    (hsym : ⟨name, kind, scan.path⟩ ∈ scan.symbols) :
    (name, scan.path) ∈ ((f.register plan scan).index.mappings.symbolsOf kind).entries := by
  have hagree : ∀ w ∈ symbolWrites kind scan.symbols, w.1 = name → w.2 = scan.path :=
    fun w hw _ => scan.owned _ (mem_symbolWrites.mp hw)
  show (name, scan.path) ∈ ((plan.registerExisting f.disk scan.path scan.symbols
    f.index.mappings).symbolsOf kind).entries
  rw [registerExisting, if_pos hfile, register_symbolsOf, OrderedMap.mem_insertAll_iff hagree]
  exact Or.inl (mem_symbolWrites.mpr hsym)

/-- A bulk may end with a symbol registered that its file does not declare, though every change was
handled. -/
def MayEndStale (plan : IndexPlan) (base : List String) (start : Filling) : Prop :=
  ∃ done, Run plan (.rewriting base fun _ _ => True) start done ∧
    done.todo = [] ∧ done.scanned = none ∧ done.queue = [] ∧
    ∃ sym : Symbol, (sym.name, sym.owner) ∈ (done.index.mappings.symbolsOf sym.kind).entries ∧
      ¬ plan.Declares done.disk sym.owner sym

/-- The change is handled first, and the old scan is registered on top of it. -/
theorem mayEndStale_beginning : MayEndStale wholeTextPlan ["r"] beginning := by
  let path := placePath ["a.ts", "r"]
  let handled := halfway.handle wholeTextPlan (.calm halfway.disk) ⟨.change, path⟩ []
  have hqueue : halfway.queue = [] ++ ⟨.change, path⟩ :: [] := rfl
  have hhandle : Step wholeTextPlan (.rewriting ["r"] fun _ _ => True) halfway handled :=
    .handle hqueue rfl trivial
  have hregister : Step wholeTextPlan (.rewriting ["r"] fun _ _ => True) handled
      (handled.register wholeTextPlan oldScan) := .register rfl
  have hfile : handled.disk.isFile path = true := by
    show halfway.disk.isFile path = true
    rw [isFile_eq_isSome, bytes?_halfway]
    rfl
  have hold : ⟨"old", .function, path⟩ ∈ oldScan.symbols :=
    mem_scanIfSource.mpr ⟨by decide,
      (declares_oneFile (by decide) (by decide +kernel)).mpr rfl⟩
  have hdone := ((run_halfway fun _ _ => True).tail hhandle).tail hregister
  refine ⟨_, hdone, rfl, rfl, rfl, ⟨"old", .function, path⟩, ?_, fun hdeclares => ?_⟩
  · exact mem_symbolsOf_register hfile hold
  · exact absurd (declares_halfway.mp hdeclares) (by simp)

/-- A file and a link to it. -/
def linkedFile : Disk where
  top := .folder [("r", .folder [("a.ts", .file "old".toUTF8), ("b.ts", .link "a.ts")])]

theorem functions_addBulk_linkedFile :
    (wholeTextPlan.addBulk linkedFile ["/r/a.ts", "/r/b.ts"] .empty).1.functions.entries
      = [("old", "/r/b.ts")] := by
  have hadmitted : wholeTextPlan.admitted linkedFile ["/r/a.ts", "/r/b.ts"]
      = ["/r/a.ts", "/r/b.ts"] := by cbv
  have hfile : (wholeTextPlan.scanIfSource linkedFile "/r/a.ts").1
      = [⟨"old", .function, "/r/a.ts"⟩] := by cbv
  have hlink : (wholeTextPlan.scanIfSource linkedFile "/r/b.ts").1
      = [⟨"old", .function, "/r/b.ts"⟩] := by cbv
  rw [addBulk_fst, hadmitted, List.foldl_cons, List.foldl_cons, List.foldl_nil, hfile, hlink]
  decide

theorem name_of_declares_linkedFile {path : String}
    (hpath : path = "/r/a.ts" ∨ path = "/r/b.ts")
    (h : wholeTextPlan.Declares (linkedFile.write "/r/a.ts" "new".toUTF8) path sym) :
    sym.name = "new" := by
  have hfile : (wholeTextPlan.scan (linkedFile.write "/r/a.ts" "new".toUTF8) "/r/a.ts").1
      = [⟨"new", .function, "/r/a.ts"⟩] := by cbv
  have hlink : (wholeTextPlan.scan (linkedFile.write "/r/a.ts" "new".toUTF8) "/r/b.ts").1
      = [⟨"new", .function, "/r/b.ts"⟩] := by cbv
  rw [← mem_scan] at h
  rcases hpath with rfl | rfl
  · rw [hfile, List.mem_singleton] at h
    rw [h]
  · rw [hlink, List.mem_singleton] at h
    rw [h]

/-- Nothing overtakes anything, but the file that is written over has a second path, for which no
change is called. -/
theorem mayEndStale_linkedFile :
    MayEndStale wholeTextPlan ["r"]
      ⟨⟨linkedFile, [], .fresh⟩, ["/r/a.ts", "/r/b.ts"], none⟩ := by
  let filled : Filling := ⟨⟨linkedFile, [], { IndexState.fresh with
    mappings := (wholeTextPlan.addBulk linkedFile ["/r/a.ts", "/r/b.ts"] .empty).1 }⟩, [], none⟩
  let rewritten := filled.change ⟨.change, "/r/a.ts"⟩ (linkedFile.write "/r/a.ts" "new".toUTF8)
  let world := Surroundings.calm (linkedFile.write "/r/a.ts" "new".toUTF8)
  have hcanonical : Path.canonical world.workDir "/r/a.ts" = "/r/a.ts" := by decide
  have hexists : linkedFile.isFile "/r/a.ts" = true := by cbv
  have hfill : Run wholeTextPlan (.rewriting ["r"] fun _ _ => True) _ filled :=
    run_addBulk wholeTextPlan _ linkedFile [] .fresh ["/r/a.ts", "/r/b.ts"]
  have hrewriting : IsRewriting ["r"] filled.disk ⟨.change, "/r/a.ts"⟩ rewritten.disk :=
    ⟨rfl, ⟨_, below_oneFile, by decide⟩, hexists, _, rfl⟩
  have hqueue : rewritten.queue = [] ++ ⟨.change, "/r/a.ts"⟩ :: [] := rfl
  have hhandle : Step wholeTextPlan (.rewriting ["r"] fun _ _ => True) rewritten
      (rewritten.handle wholeTextPlan world ⟨.change, "/r/a.ts"⟩ []) := .handle hqueue rfl trivial
  have hdone := (hfill.tail (.change hrewriting)).tail hhandle
  have hold : ("old", "/r/b.ts") ∈ (filled.index.mappings.symbolsOf .function).entries := by
    show ("old", "/r/b.ts") ∈
      (wholeTextPlan.addBulk linkedFile ["/r/a.ts", "/r/b.ts"] .empty).1.functions.entries
    rw [functions_addBulk_linkedFile]
    exact List.mem_cons_self
  have hsource : wholeTextPlan.isSource "/r/a.ts" = true := by decide
  have hfree : ∀ other,
      wholeTextPlan.Declares world.disk "/r/a.ts" ⟨"old", .function, other⟩ → other = "/r/b.ts" :=
    fun other hother => absurd (name_of_declares_linkedFile (Or.inl rfl) hother) (by simp)
  refine ⟨_, hdone, rfl, rfl, rfl, ⟨"old", .function, "/r/b.ts"⟩, ?_, fun hdeclares => ?_⟩
  · rw [index_handle, handleCall_change]
    exact (mem_symbolsOf_handleChange hcanonical hsource hfree).mpr
      (Or.inr ⟨hold, by decide⟩)
  · exact absurd (name_of_declares_linkedFile (Or.inr rfl) hdeclares) (by simp)

/-- A scan that is registered after the change was handled undoes it, and a change that is handled
for one path of a file does not reach its other one. -/
theorem bulk_may_end_stale :
    MayEndStale wholeTextPlan ["r"] beginning ∧
      MayEndStale wholeTextPlan ["r"]
        ⟨⟨linkedFile, [], .fresh⟩, ["/r/a.ts", "/r/b.ts"], none⟩ :=
  ⟨mayEndStale_beginning, mayEndStale_linkedFile⟩

end Filling

end SpokenIndex
