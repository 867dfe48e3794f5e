/-
A tree whose changes wait for an index.

The tree changes at any moment, one file at a time, and each change puts a call at the
end of a queue.  The index handles the calls in order, each at some later moment and
against the tree as it is then.  So when a call is handled the tree may be many changes
ahead of it, and all that a handler can rely on is what still waits in the queue.

What is said of such a run is therefore said of the queue: which calls wait, and which
were queued after them.  `Waits` is that, and the three ways in which a queue changes
are all that is ever used of it.
-/
import SpokenIndex.Proofs.Initialization

namespace SpokenIndex

open Disk

/-- A tree with the calls that its changes made, and the index that handles them. -/
structure Watched where
  disk : Disk
  queue : List Call
  index : IndexState

/-- What is known of a run beforehand: what is written where, and in which surroundings calls are
handled. -/
structure Conduct where
  writes : String → ByteArray → Prop
  surrounds : Surroundings → Prop

/-- Nothing is known beforehand. -/
def Conduct.free : Conduct := ⟨fun _ _ => True, fun _ => True⟩

/-- One file changes, or the call that waits longest is handled. -/
inductive Watched.Step (plan : IndexPlan) (base : List String) (conduct : Conduct) :
    Watched → Watched → Prop
  | create {w : Watched} {path : String} {content : ByteArray} (hbelow : IsBelow base path)
      (hwrites : conduct.writes path content) (habsent : w.disk.exists? path = false)
      (hdone : (w.disk.write path content).bytes? path = some content) :
      Step plan base conduct w
        ⟨w.disk.write path content, w.queue ++ [⟨.create, path⟩], w.index⟩
  | overwrite {w : Watched} {path : String} {content : ByteArray} (hbelow : IsBelow base path)
      (hwrites : conduct.writes path content) (hfile : w.disk.isFile path = true) :
      Step plan base conduct w
        ⟨w.disk.write path content, w.queue ++ [⟨.change, path⟩], w.index⟩
  | delete {w : Watched} {path : String} (hbelow : IsBelow base path)
      (hfile : w.disk.isFile path = true) :
      Step plan base conduct w ⟨w.disk.remove path, w.queue ++ [⟨.delete, path⟩], w.index⟩
  | handle {w : Watched} {c : Call} {rest : List Call} {world : Surroundings}
      (hqueue : w.queue = c :: rest) (hsurrounds : conduct.surrounds world)
      (hdisk : world.disk = w.disk) :
      Step plan base conduct w ⟨w.disk, rest, (plan.handleCall world c w.index).1⟩

/-- Steps in any order and any number. -/
def Watched.Run (plan : IndexPlan) (base : List String) (conduct : Conduct) :
    Watched → Watched → Prop :=
  Relation.ReflTransGen (Watched.Step plan base conduct)

/-- No call waits, and the index was initialized on the tree, with the given files or a listing. -/
structure Watched.Starts (plan : IndexPlan) (base : List String) (bulk : Option (List String))
    (w : Watched) : Prop where
  root : plan.watchRoot = placePath base
  regular : w.disk.RegularTree base
  idle : w.queue = []
  filled : ∃ (before : IndexState) (world : Surroundings) (journal : Journal),
    before.mappings = .empty ∧ before.initialized = false ∧ world.disk = w.disk ∧
      (∀ paths, bulk = some paths →
        ∀ path ∈ paths, IsBelow base (Path.canonical world.workDir path)) ∧
      plan.populate world bulk before = (.ok (), w.index, journal)

/-- An index begins with the files of its bulk; without one, with all listed files. -/
theorem Watched.Starts.filledWith {plan : IndexPlan} {base : List String}
    {bulk : Option (List String)} {w : Watched} (h : w.Starts plan base bulk) :
    ∃ paths, plan.FilledWith w.disk paths w.index.mappings ∧
      (∀ path ∈ paths,
        IsBelow base path ∧ plan.isTracked path = true ∧ w.disk.isFile path = true) ∧
      (bulk = none → ∀ path, plan.IsListed base path → plan.isTracked path = true →
        w.disk.isFile path = true → path ∈ paths) := by
  obtain ⟨before, world, journal, hempty, hnew, hdisk, hgiven, hpopulate⟩ := h.filled
  obtain ⟨paths, hpaths, hfilled⟩ := IndexPlan.filledWith_of_populate hempty hnew hpopulate
  have hregular : world.disk.RegularTree base := hdisk ▸ h.regular
  rw [hdisk] at hfilled
  refine ⟨_, hfilled, fun path hpath => ?_, ?_⟩
  · obtain ⟨hin, htracked, hfile⟩ := IndexPlan.mem_admitted.mp hpath
    obtain ⟨given, hgivenmem, rfl⟩ := List.mem_map.mp hin
    refine ⟨?_, htracked, hfile⟩
    cases bulk with
    | some files =>
        obtain rfl := Except.ok.inj hpaths
        exact hgiven _ rfl given hgivenmem
    | none =>
        obtain ⟨listed, hlisted, hmem⟩ := IndexPlan.mem_listTree h.root hregular
          (IndexPlan.listRefusal_of_listTree hpaths)
        obtain rfl := Except.ok.inj (hlisted.symm.trans hpaths)
        have hbelow := ((hmem given).mp hgivenmem).1.isBelow
        rwa [hbelow.canonical]
  · intro heq path hlisted htracked hfile
    obtain rfl := heq
    obtain ⟨listed, heq, hmem⟩ := IndexPlan.mem_listTree h.root hregular
      (IndexPlan.listRefusal_of_listTree hpaths)
    obtain rfl := Except.ok.inj (heq.symm.trans hpaths)
    have hin := (hmem path).mpr ⟨hlisted, hdisk ▸ hfile⟩
    refine IndexPlan.mem_admitted.mpr ⟨?_, htracked, hfile⟩
    exact List.mem_map.mpr ⟨path, hin, hlisted.isBelow.canonical world.workDir⟩

/-- A regular tree that can be watched and listed is one to start on. -/
theorem Watched.Starts.of_tree (plan : IndexPlan) (world : Surroundings) {base : List String}
    (hroot : plan.watchRoot = placePath base) (hregular : world.disk.RegularTree base)
    (hwatch : world.CanWatch) (hlists : world.listRefusal = none) :
    Starts plan base none ⟨world.disk, [], (plan.populate world none .fresh).2.1⟩ := by
  obtain ⟨paths, hpaths, -⟩ := IndexPlan.mem_listTree hroot hregular hlists
  obtain ⟨after, journal, hpopulate⟩ :=
    IndexPlan.populate_ok (s := .fresh) plan none rfl hwatch hpaths
  refine ⟨hroot, hregular, rfl, .fresh, world, journal, rfl, rfl, rfl, by simp, ?_⟩
  rw [hpopulate]

/-! ### Calls that wait -/

/-- A call waits in a queue, and the given calls were queued after it. -/
def Waits (queue : List Call) (c : Call) (later : List Call) : Prop :=
  c :: later <:+ queue

section Waits

variable {queue rest later : List Call} {c d : Call}

theorem Waits.mem (h : Waits queue c later) : c ∈ queue :=
  h.subset List.mem_cons_self

theorem not_waits_nil : ¬ Waits [] c later := by
  simp [Waits]

theorem waits_head : Waits (c :: rest) c rest :=
  List.suffix_refl _

theorem Waits.cons (h : Waits rest c later) : Waits (d :: rest) c later :=
  h.trans (List.suffix_cons d rest)

/-- A queue that grows by a call: that call waits last, and all others see it after them. -/
theorem waits_concat :
    Waits (queue ++ [d]) c later ↔
      (c = d ∧ later = []) ∨ ∃ l, later = l ++ [d] ∧ Waits queue c l := by
  constructor
  · intro h
    rcases List.suffix_concat_iff.mp h with hnil | ⟨l, hl, hsuffix⟩
    · simp at hnil
    · cases l with
      | nil => exact Or.inl (by simpa using hl)
      | cons a l =>
          obtain ⟨rfl, rfl⟩ := List.cons.inj hl
          exact Or.inr ⟨l, rfl, hsuffix⟩
  · intro hgiven
    rcases hgiven with ⟨rfl, rfl⟩ | ⟨l, rfl, h⟩
    · exact List.suffix_append queue [c]
    · exact List.suffix_concat_iff.mpr (Or.inr ⟨c :: l, rfl, h⟩)

end Waits

/-! ### What a step does

Whatever changes in the tree changes the bytes of one file.  So a step is either such a
change, known by the call that it makes, or the handling of the first call.
-/

/-- How the bytes of a file differ before and after a change that makes a call of a kind. -/
inductive Alters (allowed : ByteArray → Prop) :
    CallKind → Option ByteArray → Option ByteArray → Prop
  | create {content : ByteArray} (h : allowed content) : Alters allowed .create none (some content)
  | change {old content : ByteArray} (h : allowed content) :
      Alters allowed .change (some old) (some content)
  | delete {old : ByteArray} : Alters allowed .delete (some old) none

namespace Alters

variable {allowed : ByteArray → Prop} {kind : CallKind} {old new : Option ByteArray}

theorem new_isSome_or (h : Alters allowed kind old new) : new.isSome = true ∨ kind = .delete := by
  cases h <;> simp

theorem old_eq_none_or (h : Alters allowed kind old new) :
    old = none ∨ kind = .change ∨ kind = .delete := by
  cases h <;> simp

theorem exists_allowed_or (h : Alters allowed kind old new) :
    (∃ content, allowed content) ∨ ∃ content, old = some content := by
  cases h with
  | create h => exact Or.inl ⟨_, h⟩
  | change h => exact Or.inl ⟨_, h⟩
  | delete => exact Or.inr ⟨_, rfl⟩

theorem old_isSome_or (h : Alters allowed kind old new) (hnew : new.isSome = true) :
    old.isSome = true ∨ kind = .create := by
  cases h <;> simp_all

theorem new_eq_none (h : Alters allowed .delete old new) : new = none := by
  cases h
  rfl

theorem isSome_or_isSome (h : Alters allowed kind old new) :
    old.isSome = true ∨ new.isSome = true := by
  cases h <;> simp

theorem allowed_of_some {content : ByteArray} (h : Alters allowed kind old new)
    (hnew : new = some content) : allowed content := by
  cases h with
  | create h => exact Option.some.inj hnew ▸ h
  | change h => exact Option.some.inj hnew ▸ h
  | delete => simp at hnew

end Alters

/-- One file was changed, and the call for it was queued. -/
structure Watched.Edited (base : List String) (conduct : Conduct) (w w' : Watched)
    (kind : CallKind) (path : String) : Prop where
  below : IsBelow base path
  regular : w'.disk.RegularTree base
  queue : w'.queue = w.queue ++ [⟨kind, path⟩]
  index : w'.index = w.index
  here : Alters (conduct.writes path) kind (w.disk.bytes? path) (w'.disk.bytes? path)
  elsewhere : ∀ other, IsBelow base other → other ≠ path →
    w'.disk.bytes? other = w.disk.bytes? other

namespace Watched

variable {plan : IndexPlan} {base : List String} {conduct : Conduct} {w w' : Watched}

/-- Writing a file that is there afterwards, where no folder was, changes that file only. -/
theorem Edited.of_write {kind : CallKind} {path : String} {content : ByteArray}
    (hregular : w.disk.RegularTree base) (hbelow : IsBelow base path)
    (hfolder : w.disk.isFolder path = false)
    (hdone : (w.disk.write path content).bytes? path = some content)
    (hhere : Alters (conduct.writes path) kind (w.disk.bytes? path) (some content)) :
    Edited base conduct w
      ⟨w.disk.write path content, w.queue ++ [⟨kind, path⟩], w.index⟩ kind path := by
  refine ⟨hbelow, ?_, rfl, rfl, hdone ▸ hhere, fun other hother hne => ?_⟩
  · obtain ⟨place, hplace, rfl⟩ := hbelow
    exact hregular.write hplace
  · rw [hregular.bytes?_write hbelow hfolder hdone hother, if_neg hne]

theorem Edited.of_overwrite {path : String} {content : ByteArray}
    (hregular : w.disk.RegularTree base) (hbelow : IsBelow base path)
    (hwrites : conduct.writes path content) (hfile : w.disk.isFile path = true) :
    Edited base conduct w
      ⟨w.disk.write path content, w.queue ++ [⟨.change, path⟩], w.index⟩ .change path := by
  obtain ⟨old, hold⟩ := isFile_iff.mp hfile
  refine of_write hregular hbelow (isFolder_eq_false_of_isFile hfile)
    (hregular.bytes?_write_self content hbelow hfile) ?_
  rw [hold]
  exact .change hwrites

theorem Step.cases (h : Step plan base conduct w w') (hregular : w.disk.RegularTree base) :
    (∃ kind path, Edited base conduct w w' kind path) ∨
      ∃ c rest world, w.queue = c :: rest ∧ conduct.surrounds world ∧ world.disk = w.disk ∧
        w' = ⟨w.disk, rest, (plan.handleCall world c w.index).1⟩ := by
  cases h with
  | @create path content hbelow hwrites habsent hdone =>
      have hnone : w.disk.bytes? path = none := by
        have hfile := isFile_eq_false_of_not_exists habsent
        rwa [isFile_eq_isSome, Option.isSome_eq_false_iff, Option.isNone_iff_eq_none] at hfile
      refine Or.inl ⟨.create, path, ?_⟩
      refine .of_write hregular hbelow (isFolder_eq_false_of_not_exists habsent) hdone ?_
      rw [hnone]
      exact .create hwrites
  | @overwrite path content hbelow hwrites hfile =>
      exact Or.inl ⟨.change, path, .of_overwrite hregular hbelow hwrites hfile⟩
  | @delete path hbelow hfile =>
      obtain ⟨old, hold⟩ := isFile_iff.mp hfile
      refine Or.inl ⟨.delete, path, hbelow, hregular.remove_isFile hbelow hfile, rfl, rfl, ?_,
        fun other hother hne => ?_⟩
      · have hgone := hregular.bytes?_remove hbelow hfile hbelow
        rw [if_pos rfl] at hgone
        simpa only [hold, hgone] using Alters.delete
      · rw [hregular.bytes?_remove hbelow hfile hother, if_neg hne]
  | @handle c rest world hqueue hsurrounds hdisk =>
      exact Or.inr ⟨c, rest, world, hqueue, hsurrounds, hdisk, rfl⟩

namespace Edited

variable {kind : CallKind} {path other : String} {c : Call} {sym : Symbol}

theorem mem_queue (h : Edited base conduct w w' kind path) (hc : c ∈ w.queue) : c ∈ w'.queue := by
  rw [h.queue]
  exact List.mem_append_left _ hc

theorem call_mem (h : Edited base conduct w w' kind path) : ⟨kind, path⟩ ∈ w'.queue := by
  rw [h.queue]
  exact List.mem_append_right _ List.mem_cons_self

/-- A file stays a file unless it is the one that was deleted. -/
theorem isFile_or (h : Edited base conduct w w' kind path) (hother : IsBelow base other)
    (hfile : w.disk.isFile other = true) :
    w'.disk.isFile other = true ∨ kind = .delete ∧ path = other := by
  by_cases hsame : other = path
  · subst hsame
    rw [isFile_eq_isSome]
    exact h.here.new_isSome_or.imp id fun hkind => ⟨hkind, rfl⟩
  · rw [isFile_eq_isSome] at hfile ⊢
    rw [h.elsewhere other hother hsame]
    exact Or.inl hfile

/-- A file goes on to declare its symbols unless it is the one that was written or deleted. -/
theorem declares_or (h : Edited base conduct w w' kind path) (hother : IsBelow base other)
    (hdeclares : plan.Declares w.disk other sym) :
    plan.Declares w'.disk other sym ∨ (kind = .change ∨ kind = .delete) ∧ path = other := by
  by_cases hsame : other = path
  · subst hsame
    obtain ⟨content, hcontent, -⟩ := IndexPlan.declares_iff.mp hdeclares
    rcases h.here.old_eq_none_or with hnone | hkind
    · simp [hnone] at hcontent
    · exact Or.inr ⟨hkind, rfl⟩
  · exact Or.inl ((IndexPlan.declares_congr (h.elsewhere other hother hsame)).mpr hdeclares)

/-- What is a file was one before, unless it was created now. -/
theorem isFile_back (h : Edited base conduct w w' kind path) (hother : IsBelow base other)
    (hfile : w'.disk.isFile other = true) :
    w.disk.isFile other = true ∨ kind = .create ∧ path = other := by
  rw [isFile_eq_isSome] at hfile ⊢
  by_cases hsame : other = path
  · subst hsame
    exact (h.here.old_isSome_or hfile).imp id fun hkind => ⟨hkind, rfl⟩
  · rw [h.elsewhere other hother hsame] at hfile
    exact Or.inl hfile

/-- Nothing strictly beneath the file that was changed is a file. -/
theorem not_isFile_beneath (h : Edited base conduct w w' kind path)
    (hregular : w.disk.RegularTree base) (hother : IsBelow base other)
    (hbeneath : Path.isAtOrBeneath path other = true) (hne : other ≠ path) :
    ¬ w'.disk.isFile other = true := by
  rw [isFile_eq_isSome]
  rcases h.here.isSome_or_isSome with hold | hnew
  · obtain ⟨content, hcontent⟩ := Option.isSome_iff_exists.mp hold
    rw [h.elsewhere other hother hne,
      hregular.bytes?_beneath h.below hother hcontent hbeneath hne]
    simp
  · obtain ⟨content, hcontent⟩ := Option.isSome_iff_exists.mp hnew
    rw [h.regular.bytes?_beneath h.below hother hcontent hbeneath hne]
    simp

end Edited

end Watched

/-! ### A tree with one file -/

/-- A tree with one file. -/
def oneFile (content : ByteArray) : Disk where
  top := .folder [("r", .folder [("a.ts", .file content)])]

theorem oneFile_regular (content : ByteArray) : (oneFile content).RegularTree ["r"] := by
  refine ⟨by decide, ⟨[("a.ts", .file content)], rfl, ?_⟩, fun _ => rfl⟩
  have hname : Node.FitsName "a.ts" := by decide
  rw [Node.regular_folder_iff]
  refine ⟨by simp, fun e he => ?_⟩
  obtain rfl := List.mem_singleton.mp he
  exact ⟨hname, Node.regular_file content⟩

theorem below_oneFile : Below ["r"] ["a.ts", "r"] :=
  ⟨by decide, ["a.ts"], by simp, rfl⟩

theorem isBelow_oneFile : IsBelow ["r"] (placePath ["a.ts", "r"]) := ⟨_, below_oneFile, rfl⟩

theorem bytes?_oneFile (content : ByteArray) :
    (oneFile content).bytes? (placePath ["a.ts", "r"]) = some content := by
  rw [(oneFile_regular content).bytes?_placePath below_oneFile]
  rfl

theorem isFile_oneFile (content : ByteArray) :
    (oneFile content).isFile (placePath ["a.ts", "r"]) = true := by
  rw [isFile_eq_isSome, bytes?_oneFile]
  rfl

/-- Typescript files, each of which declares one function with the whole text as its name. -/
def wholeTextPlan : IndexPlan where
  root := "/r"
  watchRoot := "/r"
  settings := ⟨"**/*.ts", none, [".ts"], [".ts"], 1⟩
  extractor _ text := .ok [⟨text, .functionDeclaration⟩]

/-- Surroundings in which nothing is refused. -/
def Surroundings.calm (disk : Disk) : Surroundings where
  disk := disk
  workDir := "/"
  clock := .zero

theorem Surroundings.CanWatch.calm (disk : Disk) : (Surroundings.calm disk).CanWatch := ⟨rfl, rfl⟩

/-! ### A tree with two files -/

/-- A tree with a file, and with another one in a folder. -/
def twoFiles : Disk where
  top := .folder [("r", .folder [("a.ts", .file "f".toUTF8),
    ("lib", .folder [("b.ts", .file "g".toUTF8)])])]

theorem twoFiles_regular : twoFiles.RegularTree ["r"] := by
  refine ⟨by decide, ⟨_, rfl, ?_⟩, fun _ => rfl⟩
  have hfits : ∀ n ∈ ["a.ts", "lib", "b.ts"], Node.FitsName n := by decide
  simp only [List.forall_mem_cons] at hfits
  obtain ⟨hfirst, hlib, hsecond, -⟩ := hfits
  simp [Node.regular_folder_iff, Node.regular_file, hfirst, hlib, hsecond]

theorem isBelow_first : IsBelow ["r"] "/r/a.ts" := ⟨_, below_oneFile, by decide⟩

theorem isBelow_second : IsBelow ["r"] "/r/lib/b.ts" :=
  ⟨["b.ts", "lib", "r"], ⟨by decide, ["b.ts", "lib"], by simp, rfl⟩, by decide⟩

/-- There are no other files, and this is what is in them. -/
theorem of_bytes?_twoFiles {content : ByteArray} {path : String} (hpath : IsBelow ["r"] path)
    (h : twoFiles.bytes? path = some content) :
    (path = "/r/a.ts" ∧ content = "f".toUTF8) ∨
      path = "/r/lib/b.ts" ∧ content = "g".toUTF8 := by
  obtain ⟨place, hplace, rfl⟩ := hpath
  obtain ⟨way, hway, rfl⟩ := hplace.beneath
  obtain ⟨down, rfl⟩ : ∃ down, way = down.reverse := ⟨way.reverse, by simp⟩
  obtain ⟨m, ms, rfl⟩ := List.exists_cons_of_ne_nil (List.reverse_ne_nil_iff.mp hway)
  rw [twoFiles_regular.bytes?_placePath hplace, fileAt?, twoFiles, List.reverse_append,
    List.reverse_reverse] at h
  change (Node.folder _).fileAt? (m :: ms) = _ at h
  rw [Node.fileAt?_cons_folder] at h
  obtain ⟨node, hnode, hfile⟩ := Option.bind_eq_some_iff.mp h
  have hmem := Node.mem_of_lookup hnode
  rw [List.mem_cons, List.mem_singleton] at hmem
  rcases hmem with hfirst | hfolder
  · obtain ⟨rfl, rfl⟩ := Prod.mk.inj hfirst
    obtain ⟨rfl, rfl⟩ := Node.fileAt?_file.mp hfile
    exact Or.inl ⟨by decide, rfl⟩
  · obtain ⟨rfl, rfl⟩ := Prod.mk.inj hfolder
    cases ms with
    | nil => simp [Node.fileAt?, Node.descend] at hfile
    | cons k ks =>
        rw [Node.fileAt?_cons_folder] at hfile
        obtain ⟨node, hnode, hfile⟩ := Option.bind_eq_some_iff.mp hfile
        obtain ⟨rfl, rfl⟩ := Prod.mk.inj (List.mem_singleton.mp (Node.mem_of_lookup hnode))
        obtain ⟨rfl, rfl⟩ := Node.fileAt?_file.mp hfile
        exact Or.inr ⟨by decide, rfl⟩

/-- The tree after the second file has been written over. -/
def secondWritten : Disk := twoFiles.write "/r/lib/b.ts" "h".toUTF8

/-- The tree after the first file has been written over too. -/
def bothWritten : Disk := secondWritten.write "/r/a.ts" "e".toUTF8

/-- The tree after the first file has been deleted. -/
def lateTree : Disk := bothWritten.remove "/r/a.ts"

theorem lateTree_eq : lateTree
    = { top := .folder [("r", .folder [("lib", .folder [("b.ts", .file "h".toUTF8)])])] } := by
  cbv

/-- A listing of such a tree holds what a walk of it finds. -/
theorem listTree_calm {disk : Disk} {paths : List String} (hfolder : disk.isFolder "/r" = true)
    (hwalk : disk.walk wholeTextPlan.tracking.walker "/r" = .ok paths) :
    wholeTextPlan.listTree (.calm disk) = .ok paths := by
  have hroot : wholeTextPlan.tracking.root = "/r" := rfl
  rw [IndexPlan.listTree]
  show wholeTextPlan.tracking.enumerate disk = _
  rw [Tracking.enumerate, hroot, if_pos hfolder, Tracking.filesBeneath, hwalk]
  rfl

theorem listTree_twoFiles :
    wholeTextPlan.listTree (.calm twoFiles) = .ok ["/r/a.ts", "/r/lib/b.ts"] := by
  have hlocate : twoFiles.locate true "/r" = .ok ["r"] := by cbv
  refine listTree_calm (by cbv) ?_
  rw [Disk.walk, hlocate]
  decide +kernel

theorem listTree_lateTree : wholeTextPlan.listTree (.calm lateTree) = .ok ["/r/lib/b.ts"] := by
  have hlocate : lateTree.locate true "/r" = .ok ["r"] := by cbv
  refine listTree_calm (by cbv) ?_
  rw [Disk.walk, hlocate, lateTree_eq]
  decide +kernel

/-- The index of the two files. -/
def twoFilesIndex : IndexState := (wholeTextPlan.populate (.calm twoFiles) none .fresh).2.1

theorem mappings_twoFilesIndex :
    twoFilesIndex.mappings
      = wholeTextPlan.register "/r/lib/b.ts" [⟨"g", .function, "/r/lib/b.ts"⟩]
          (wholeTextPlan.register "/r/a.ts" [⟨"f", .function, "/r/a.ts"⟩] .empty) := by
  have hfirst : (wholeTextPlan.scanIfSource twoFiles "/r/a.ts").1
      = [⟨"f", .function, "/r/a.ts"⟩] := by cbv
  have hsecond : (wholeTextPlan.scanIfSource twoFiles "/r/lib/b.ts").1
      = [⟨"g", .function, "/r/lib/b.ts"⟩] := by cbv
  have hadmitted : wholeTextPlan.admitted twoFiles ["/r/a.ts", "/r/lib/b.ts"]
      = ["/r/a.ts", "/r/lib/b.ts"] := by cbv
  have hpaths : wholeTextPlan.bulkPaths (.calm twoFiles) none
      = .ok ["/r/a.ts", "/r/lib/b.ts"] := listTree_twoFiles
  refine (IndexPlan.mappings_populate_all (.calm _) hpaths (by decide) hadmitted).trans ?_
  rw [List.foldl_cons, List.foldl_cons, List.foldl_nil]
  exact congrArg₂ _ hsecond (congrArg₂ _ hfirst rfl)

/-- An index after the calls of the three changes, each handled against the last tree. -/
def lateIndex (index : IndexState) : IndexState :=
  let world := Surroundings.calm lateTree
  let first := (wholeTextPlan.handleCall world ⟨.change, "/r/lib/b.ts"⟩ index).1
  let second := (wholeTextPlan.handleCall world ⟨.change, "/r/a.ts"⟩ first).1
  (wholeTextPlan.handleCall world ⟨.delete, "/r/a.ts"⟩ second).1

/-- What is left of the index of both files is the second one, its folder, and what it declares
now. -/
theorem entries_lateIndex :
    let left := (lateIndex twoFilesIndex).mappings
    left.files.entries = [("b.ts", "/r/lib/b.ts"), ("b", "/r/lib/b.ts")] ∧
      left.folders.entries = [("lib", "/r/lib")] ∧
      left.functions.entries = [("h", "/r/lib/b.ts")] := by
  intro left
  have hfirst := isBelow_first.canonical (Surroundings.calm lateTree).workDir
  have hsecond := isBelow_second.canonical (Surroundings.calm lateTree).workDir
  refine ⟨?_, ?_, ?_⟩
  · simp only [left]
    rw [lateIndex, IndexPlan.handleCall_delete, IndexPlan.handleDelete_files hfirst,
      IndexPlan.handleCall_change, IndexPlan.handleChange_files hfirst,
      IndexPlan.handleCall_change, IndexPlan.handleChange_files hsecond, mappings_twoFilesIndex]
    decide
  · simp only [left]
    rw [lateIndex, IndexPlan.handleCall_delete, IndexPlan.handleDelete_folders listTree_lateTree]
    decide +kernel
  · have hfirstScan : (wholeTextPlan.scan lateTree "/r/a.ts").1 = [] :=
      IndexPlan.scan_of_not_isFile (by cbv)
    have hsecondScan : (wholeTextPlan.scan lateTree "/r/lib/b.ts").1
        = [⟨"h", .function, "/r/lib/b.ts"⟩] := by cbv
    have hdisk : (Surroundings.calm lateTree).disk = lateTree := rfl
    show ((lateIndex twoFilesIndex).mappings.symbolsOf .function).entries = _
    rw [lateIndex, IndexPlan.handleCall_delete, IndexPlan.handleDelete_symbolsOf hfirst,
      IndexPlan.handleCall_change, IndexPlan.handleChange_symbolsOf hfirst (by decide),
      IndexPlan.handleCall_change, IndexPlan.handleChange_symbolsOf hsecond (by decide),
      hdisk, hfirstScan, hsecondScan, mappings_twoFilesIndex]
    decide

/-- Late calls: both files are written over, the first one is deleted, and only then are the three
calls handled. -/
theorem Watched.late_run {conduct : Conduct} (index : IndexState)
    (hfirst : conduct.writes "/r/a.ts" "e".toUTF8)
    (hsecond : conduct.writes "/r/lib/b.ts" "h".toUTF8)
    (hsurrounds : conduct.surrounds (.calm lateTree)) :
    Watched.Run wholeTextPlan ["r"] conduct ⟨twoFiles, [], index⟩
      ⟨lateTree, [], lateIndex index⟩ := by
  have hwriteSecond : Watched.Step wholeTextPlan ["r"] conduct ⟨twoFiles, [], index⟩
      ⟨secondWritten, [⟨.change, "/r/lib/b.ts"⟩], index⟩ :=
    .overwrite isBelow_second hsecond (by cbv)
  have hwriteFirst : Watched.Step wholeTextPlan ["r"] conduct
      ⟨secondWritten, [⟨.change, "/r/lib/b.ts"⟩], index⟩
      ⟨bothWritten, [⟨.change, "/r/lib/b.ts"⟩, ⟨.change, "/r/a.ts"⟩], index⟩ :=
    .overwrite isBelow_first hfirst (by cbv)
  have hdelete : Watched.Step wholeTextPlan ["r"] conduct
      ⟨bothWritten, [⟨.change, "/r/lib/b.ts"⟩, ⟨.change, "/r/a.ts"⟩], index⟩
      ⟨lateTree, [⟨.change, "/r/lib/b.ts"⟩, ⟨.change, "/r/a.ts"⟩, ⟨.delete, "/r/a.ts"⟩], index⟩ :=
    .delete isBelow_first (by cbv)
  have hchanges := ((Relation.ReflTransGen.single hwriteSecond).tail hwriteFirst).tail hdelete
  have htree : (Surroundings.calm lateTree).disk = lateTree := rfl
  exact ((hchanges.tail (.handle rfl hsurrounds htree)).tail (.handle rfl hsurrounds htree)).tail
    (.handle rfl hsurrounds htree)

theorem twoFiles_starts :
    Watched.Starts wholeTextPlan ["r"] none ⟨twoFiles, [], twoFilesIndex⟩ :=
  .of_tree wholeTextPlan (.calm twoFiles) (by decide) twoFiles_regular (.calm _) rfl

end SpokenIndex
