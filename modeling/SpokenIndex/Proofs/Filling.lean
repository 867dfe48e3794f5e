/-
An index that is being filled while its tree changes.

The subscription is live before the first file of the bulk is taken, so the tree changes
and calls are handled while the bulk is gone through.  A file of the bulk is taken in two
steps.  It is scanned, against the tree as it is then; and its scan is registered, if the
file still exists at that moment.  Anything may happen in between: other changes of the
tree, and the handling of any call that waits, in any order.

What is proved here is that a deletion is not undone.  Once a file is removed it is not
registered any more, because the look at the tree and the registration are one step.  So
from then on its path is among the entries only as long as its deletion waits.
-/
import SpokenIndex.Proofs.Removal
import SpokenIndex.Proofs.Watched

namespace SpokenIndex

open Disk IndexPlan

/-- A file that was scanned, with the symbols that were found in it. -/
structure Scan where
  path : String
  symbols : List Symbol
  owned : ∀ sym ∈ symbols, sym.owner = path

/-- The scan of a file as it is. -/
def IndexPlan.scanOf (plan : IndexPlan) (disk : Disk) (path : String) : Scan where
  path := path
  symbols := (plan.scanIfSource disk path).1
  owned _ hsym := (mem_scanIfSource.mp hsym).2.owner_eq

/-- A tree and its index while the index is filled: the files of the bulk that are still to come,
and the one that was scanned and is not registered yet. -/
structure Filling extends Watched where
  todo : List String
  scanned : Option Scan

namespace Filling

/-- What may happen meanwhile: which changes of the tree, with the calls that they make, and which
calls are handled between a scan and its registration. -/
structure Rules where
  changes : Disk → Call → Disk → Prop
  handles : Option Scan → Call → Prop

/-- After the next file was scanned: `rest` is still to come. -/
def scan (plan : IndexPlan) (path : String) (rest : List String) (f : Filling) : Filling :=
  { f with todo := rest, scanned := some (plan.scanOf f.disk path) }

/-- After a scan was registered, or passed over because its file does not exist any more. -/
def register (plan : IndexPlan) (scan : Scan) (f : Filling) : Filling :=
  { f with
    scanned := none
    index := { f.index with
      mappings := plan.registerExisting f.disk scan.path scan.symbols f.index.mappings } }

/-- After a change of the tree that makes a call. -/
def change (c : Call) (disk : Disk) (f : Filling) : Filling :=
  { f with disk := disk, queue := f.queue ++ [c] }

/-- After a call was handled: `queue` still waits. -/
def handle (plan : IndexPlan) (world : Surroundings) (c : Call) (queue : List Call)
    (f : Filling) : Filling :=
  { f with queue := queue, index := (plan.handleCall world c f.index).1 }

@[simp] theorem index_handle (plan : IndexPlan) (world : Surroundings) (c : Call)
    (queue : List Call) (f : Filling) :
    (f.handle plan world c queue).index = (plan.handleCall world c f.index).1 := rfl

/-- One step of the bulk, one change of the tree, or the handling of one call that waits. -/
inductive Step (plan : IndexPlan) (rules : Rules) : Filling → Filling → Prop
  | skip {f : Filling} {path : String} {rest : List String} (hfree : f.scanned = none)
      (htodo : f.todo = path :: rest) (huntracked : plan.isTracked path = false) :
      Step plan rules f { f with todo := rest }
  | scan {f : Filling} {path : String} {rest : List String} (hfree : f.scanned = none)
      (htodo : f.todo = path :: rest) (htracked : plan.isTracked path = true) :
      Step plan rules f (f.scan plan path rest)
  | register {f : Filling} {scan : Scan} (hscanned : f.scanned = some scan) :
      Step plan rules f (f.register plan scan)
  | change {f : Filling} {c : Call} {disk : Disk} (hchanges : rules.changes f.disk c disk) :
      Step plan rules f (f.change c disk)
  | handle {f : Filling} {before after : List Call} {c : Call} {world : Surroundings}
      (hqueue : f.queue = before ++ c :: after) (hdisk : world.disk = f.disk)
      (hhandles : rules.handles f.scanned c) :
      Step plan rules f (f.handle plan world c (before ++ after))

/-- Steps in any order and any number. -/
def Run (plan : IndexPlan) (rules : Rules) : Filling → Filling → Prop :=
  Relation.ReflTransGen (Step plan rules)

/-! ### Undisturbed -/

theorem run_addListed (plan : IndexPlan) (rules : Rules) (disk : Disk) (queue : List Call)
    (index : IndexState) (path : String) (rest : List String) :
    Run plan rules ⟨⟨disk, queue, index⟩, path :: rest, none⟩
      ⟨⟨disk, queue, { index with mappings := (plan.addListed disk path index.mappings).1 }⟩,
        rest, none⟩ := by
  let start : Filling := ⟨⟨disk, queue, index⟩, path :: rest, none⟩
  by_cases htracked : plan.isTracked path = true
  · have hscan : Step plan rules start (start.scan plan path rest) := .scan rfl rfl htracked
    have hregister : Step plan rules (start.scan plan path rest)
        ((start.scan plan path rest).register plan (plan.scanOf disk path)) := .register rfl
    rw [addListed, if_pos htracked]
    exact (Relation.ReflTransGen.single hscan).tail hregister
  · rw [addListed, if_neg htracked]
    exact .single (.skip rfl rfl (Bool.eq_false_iff.mpr htracked))

/-- Where nothing happens meanwhile, the steps make up the bulk. -/
theorem run_addBulk (plan : IndexPlan) (rules : Rules) (disk : Disk) (queue : List Call)
    (index : IndexState) (paths : List String) :
    Run plan rules ⟨⟨disk, queue, index⟩, paths, none⟩
      ⟨⟨disk, queue, { index with mappings := (plan.addBulk disk paths index.mappings).1 }⟩,
        [], none⟩ := by
  induction paths generalizing index with
  | nil => exact .refl
  | cons path rest ih =>
      have hcons : (plan.addBulk disk (path :: rest) index.mappings).1
          = (plan.addBulk disk rest (plan.addListed disk path index.mappings).1).1 := by
        rw [addBulk_fst, addBulk_fst, addListed_fst, admitted, admitted, List.filter_cons]
        split <;> rfl
      rw [hcons]
      exact (run_addListed plan rules disk queue index path rest).trans (ih _)

/-- An initialization that succeeds is such a run, from the listed files to the end of them. -/
theorem run_populate {plan : IndexPlan} {world : Surroundings} {bulk : Option (List String)}
    {index after : IndexState} {journal : Journal} (rules : Rules) (queue : List Call)
    (hnew : index.initialized = false)
    (h : plan.populate world bulk index = (.ok (), after, journal)) :
    ∃ paths, plan.bulkPaths world bulk = .ok paths ∧
      Run plan rules
        ⟨⟨world.disk, queue, index⟩, paths.map (Path.canonical world.workDir), none⟩
        ⟨⟨world.disk, queue, { index with mappings := after.mappings }⟩, [], none⟩ := by
  obtain ⟨paths, hpaths, hafter⟩ := mappings_of_populate hnew h
  refine ⟨paths, hpaths, ?_⟩
  rw [hafter]
  exact run_addBulk plan rules world.disk queue index _

/-! ### Calls that still wait -/

section Waiting

variable {f : Filling} {before after : List Call} {c d : Call}
  (hqueue : f.queue = before ++ c :: after)
include hqueue

theorem handled_mem_queue : c ∈ f.queue := by
  rw [hqueue]
  exact List.mem_append_right _ List.mem_cons_self

theorem mem_queue_of_waits (h : d ∈ before ++ after) : d ∈ f.queue := by
  rw [hqueue]
  exact List.mem_append.mpr ((List.mem_append.mp h).imp id (List.mem_cons_of_mem _))

/-- A call that is handled leaves every other one waiting. -/
theorem waits_of_ne_handled (h : d ∈ f.queue) (hne : d ≠ c) : d ∈ before ++ after := by
  rw [hqueue] at h
  rcases List.mem_append.mp h with h | h
  · exact List.mem_append_left _ h
  · exact List.mem_append_right _ ((List.mem_cons.mp h).resolve_left hne)

end Waiting

end Filling

/-! ### Files are removed -/

/-- A file is removed and its deletion is called for.  The path means the same in every working
directory. -/
structure IsRemoval (disk : Disk) (c : Call) (less : Disk) : Prop where
  kind : c.kind = .delete
  canonical : ∀ cwd, Path.canonical cwd c.path = c.path
  isFile : disk.isFile c.path = true
  removed : less = disk.remove c.path

/-- Files are removed and not created again, and calls are handled at any moment. -/
def Filling.Rules.removals : Filling.Rules := ⟨IsRemoval, fun _ _ => True⟩

/-- No file and no symbol has a path. -/
structure Mappings.Avoids (m : Mappings) (path : String) : Prop where
  files : ∀ e ∈ m.files.entries, e.2 ≠ path
  symbols : ∀ kind, ∀ e ∈ (m.symbolsOf kind).entries, e.2 ≠ path

namespace Mappings.Avoids

variable {plan : IndexPlan} {world : Surroundings} {disk : Disk} {m : Mappings} {s : IndexState}
  {path other : String} {scan : Scan}

theorem register (h : m.Avoids path) (hother : scan.path ≠ path) :
    (plan.register scan.path scan.symbols m).Avoids path where
  files e he := by
    rw [register_files] at he
    rcases OrderedMap.mem_of_mem_insertAll he with hwrite | ⟨hold, -⟩
    · rw [value_of_mem_fileWrites hwrite]
      exact hother
    · exact h.files e hold
  symbols kind e he := by
    rw [register_symbolsOf] at he
    rcases OrderedMap.mem_of_mem_insertAll he with hwrite | ⟨hold, -⟩
    · have howner : e.2 = scan.path := scan.owned _ (mem_symbolWrites.mp hwrite)
      rw [howner]
      exact hother
    · exact h.symbols kind e hold

/-- What does not exist is not registered. -/
theorem registerExisting (h : m.Avoids path) (hgone : disk.isFile path = false) :
    (plan.registerExisting disk scan.path scan.symbols m).Avoids path := by
  rw [IndexPlan.registerExisting]
  by_cases hfile : disk.isFile scan.path = true
  · rw [if_pos hfile]
    refine h.register fun hsame => ?_
    rw [hsame, hgone] at hfile
    exact Bool.false_ne_true hfile
  · rw [if_neg hfile]
    exact h

/-- A deletion brings in nothing. -/
theorem handleDelete (h : s.mappings.Avoids path) (world : Surroundings) (other : String) :
    (plan.handleDelete world other s).1.mappings.Avoids path where
  files e he := h.files e ((mem_files_handleDelete rfl).mp he).1
  symbols kind e he := h.symbols kind e ((mem_symbolsOf_handleDelete rfl).mp he).1

/-- What is deleted is not there any more. -/
theorem of_handleDelete (plan : IndexPlan) (s : IndexState)
    (hpath : Path.canonical world.workDir path = path) :
    (plan.handleDelete world path s).1.mappings.Avoids path where
  files _ he := (ne_of_not_isAtOrBeneath ((mem_files_handleDelete hpath).mp he).2).symm
  symbols _ _ he := (ne_of_not_isAtOrBeneath ((mem_symbolsOf_handleDelete hpath).mp he).2).symm

end Mappings.Avoids

namespace Filling

variable {plan : IndexPlan} {disk : Disk} {f f' start done : Filling} {path : String} {c : Call}

/-- A removed file does not exist, and it has no entries unless its deletion waits. -/
structure Gone (path : String) (f : Filling) : Prop where
  deletions : ∀ c ∈ f.queue, c.kind = .delete
  absent : f.disk.isFile path = false
  accounted : ⟨.delete, path⟩ ∈ f.queue ∨ f.index.mappings.Avoids path

/-- Only deletions wait where files are only removed. -/
theorem deletions_step (h : ∀ c ∈ f.queue, c.kind = .delete)
    (hstep : Step plan .removals f f') : ∀ c ∈ f'.queue, c.kind = .delete := by
  cases hstep with
  | skip _ _ _ => exact h
  | scan _ _ _ => exact h
  | register _ => exact h
  | change hremoval =>
      intro d hd
      rcases List.mem_append.mp hd with hd | hd
      · exact h d hd
      · rw [List.mem_singleton.mp hd]
        exact hremoval.kind
  | handle hqueue _ _ => exact fun d hd => h d (mem_queue_of_waits hqueue hd)

theorem deletions_run (h : ∀ c ∈ start.queue, c.kind = .delete)
    (hrun : Run plan .removals start f) : ∀ c ∈ f.queue, c.kind = .delete := by
  induction hrun with
  | refl => exact h
  | tail _ hstep ih => exact deletions_step ih hstep

namespace Gone

theorem of_removal (plan : IndexPlan) (hqueue : ∀ c ∈ f.queue, c.kind = .delete)
    (hremoval : IsRemoval f.disk c disk) : Gone c.path (f.change c disk) := by
  have hstep : Step plan .removals f (f.change c disk) := .change hremoval
  have hdeletions := deletions_step hqueue hstep
  obtain ⟨kind, path⟩ := c
  obtain rfl : kind = .delete := hremoval.kind
  refine ⟨hdeletions, ?_, Or.inl (List.mem_append_right _ List.mem_cons_self)⟩
  show disk.isFile path = false
  rw [hremoval.removed]
  exact isFile_remove_self hremoval.isFile

theorem step (hpath : ∀ cwd, Path.canonical cwd path = path) (h : Gone path f)
    (hstep : Step plan .removals f f') : Gone path f' := by
  have hdeletions := deletions_step h.deletions hstep
  cases hstep with
  | skip _ _ _ => exact ⟨hdeletions, h.absent, h.accounted⟩
  | scan _ _ _ => exact ⟨hdeletions, h.absent, h.accounted⟩
  | register _ => exact ⟨hdeletions, h.absent, h.accounted.imp id (·.registerExisting h.absent)⟩
  | change hremoval =>
      refine ⟨hdeletions, ?_, h.accounted.imp (List.mem_append_left _) id⟩
      rw [hremoval.removed, ← Bool.not_eq_true]
      intro hfile
      have hbefore := (within_remove _ _).isFile hfile
      rw [h.absent] at hbefore
      exact Bool.false_ne_true hbefore
  | @handle before after c world hqueue _ _ =>
      refine ⟨hdeletions, h.absent, ?_⟩
      obtain ⟨kind, other⟩ := c
      obtain rfl : kind = .delete := h.deletions _ (handled_mem_queue hqueue)
      -- Either it is the deletion of this path that is handled, or that of another one.
      by_cases hsame : other = path
      · subst hsame
        exact Or.inr (.of_handleDelete plan f.index (hpath world.workDir))
      · rcases h.accounted with hwaits | havoids
        · refine Or.inl (waits_of_ne_handled hqueue hwaits fun hc => hsame ?_)
          exact (Call.mk.inj hc).2.symm
        · exact Or.inr (havoids.handleDelete world other)

theorem run (hpath : ∀ cwd, Path.canonical cwd path = path) (h : Gone path start)
    (hrun : Run plan .removals start f) : Gone path f := by
  induction hrun with
  | refl => exact h
  | tail _ hstep ih => exact ih.step hpath hstep

end Gone

/-- **A deletion is not undone.**  While an index is filled, with any bulk and from any state in
which no call waits, files are removed and their deletions are handled, before, between and after
the two steps of any file.  Whenever all deletions have been handled, no file and no symbol has the
path of a removed file. -/
theorem removed_stays_out (hidle : start.queue = []) (hbefore : Run plan .removals start f)
    (hremoval : IsRemoval f.disk c disk)
    (hafter : Run plan .removals (f.change c disk) done)
    (hhandled : done.queue = []) :
    (∀ e ∈ done.index.mappings.files.entries, e.2 ≠ c.path) ∧
      (∀ e ∈ done.index.mappings.components.entries, e.2 ≠ c.path) ∧
      ∀ e ∈ done.index.mappings.functions.entries, e.2 ≠ c.path := by
  have hdeletions : ∀ c ∈ f.queue, c.kind = .delete := by
    refine deletions_run ?_ hbefore
    rw [hidle]
    exact fun c hc => absurd hc List.not_mem_nil
  have hgone : Gone c.path done :=
    (Gone.of_removal plan hdeletions hremoval).run hremoval.canonical hafter
  have havoids : done.index.mappings.Avoids c.path := by
    refine hgone.accounted.resolve_left ?_
    rw [hhandled]
    exact List.not_mem_nil
  exact ⟨havoids.files, havoids.symbols .component, havoids.symbols .function⟩

/-- The one file of a tree is removed when it has been scanned, and its deletion is handled before
the scan is registered. -/
theorem removed_stays_out_between :
    ∃ (start f done : Filling) (c : Call) (disk : Disk),
      start.todo = [placePath ["a.ts", "r"]] ∧ f.scanned.isSome = true ∧ done.todo = [] ∧
      start.queue = [] ∧ Run wholeTextPlan .removals start f ∧ IsRemoval f.disk c disk ∧
      Run wholeTextPlan .removals (f.change c disk) done ∧
      done.queue = [] ∧
      (∀ e ∈ done.index.mappings.files.entries, e.2 ≠ c.path) ∧
        (∀ e ∈ done.index.mappings.components.entries, e.2 ≠ c.path) ∧
        ∀ e ∈ done.index.mappings.functions.entries, e.2 ≠ c.path := by
  let path := placePath ["a.ts", "r"]
  let start : Filling := ⟨⟨oneFile "f".toUTF8, [], .fresh⟩, [path], none⟩
  let held := start.scan wholeTextPlan path []
  let removed := held.change ⟨.delete, path⟩ (held.disk.remove path)
  let handled := removed.handle wholeTextPlan (.calm removed.disk) ⟨.delete, path⟩ []
  have hscan : Step wholeTextPlan .removals start held := .scan rfl rfl (by decide)
  have hremoval : IsRemoval held.disk ⟨.delete, path⟩ (held.disk.remove path) :=
    ⟨rfl, isBelow_oneFile.canonical, isFile_oneFile _, rfl⟩
  have hqueue : removed.queue = [] ++ ⟨.delete, path⟩ :: [] := rfl
  have hhandle : Step wholeTextPlan .removals removed handled := .handle hqueue rfl trivial
  have hregister : Step wholeTextPlan .removals handled
      (handled.register wholeTextPlan (wholeTextPlan.scanOf start.disk path)) := .register rfl
  have hafter : Run wholeTextPlan .removals removed _ :=
    (Relation.ReflTransGen.single hhandle).tail hregister
  have hout := removed_stays_out rfl (Relation.ReflTransGen.single hscan) hremoval hafter rfl
  exact ⟨start, held, _, _, _, rfl, rfl, rfl, rfl, .single hscan, hremoval, hafter, rfl, hout⟩

end Filling

end SpokenIndex
