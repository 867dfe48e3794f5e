/-
Whether the folders computed afresh are those that were there.

An initialization registers the folders of a file together with the file, and only if the
file exists.  A deletion computes all folders from a listing of the tree, and there no file
is asked for: a link that leads nowhere is listed as well, and the folders that hold it are
registered.  So the two differ only at folders that are hollow: tracked paths are listed
in them, and none of these is a file.

Where no folder is hollow nothing changes, whatever the names of the folders are.  This
rests on the order of the listing (`Proofs/Blocks`).  The paths of a folder stand together
and write the same folders each, so one of them is as good as all, and nothing is written
in between that could be overwritten.

Where a folder is hollow something changes, at least if names are distinct.  Computed
afresh, the folder stands before every folder beneath it.  After an initialization it
stands behind one of them, since it is registered as a holder and holders come after what
they hold, or it is not there at all.
-/
import SpokenIndex.Proofs.Blocks
import SpokenIndex.Proofs.Bulk
import SpokenIndex.Proofs.Deletion
import SpokenIndex.Proofs.Listing
import SpokenIndex.Proofs.Moves
import SpokenIndex.Proofs.Redelivery

namespace SpokenIndex

/-- What comes up in the lists of some items comes up first in one of these lists. -/
theorem exists_first_of_mem_flatMap {α β : Type} {items : List α} {f : α → List β} {x : β}
    (h : x ∈ items.flatMap f) :
    ∃ before item after, items = before ++ item :: after ∧ x ∈ f item ∧ x ∉ before.flatMap f := by
  induction items with
  | nil => exact absurd h List.not_mem_nil
  | cons item rest ih =>
      by_cases hitem : x ∈ f item
      · exact ⟨[], item, rest, rfl, hitem, List.not_mem_nil⟩
      · obtain ⟨before, first, after, rfl, hfirst, hbefore⟩ :=
          ih ((List.mem_append.mp h).resolve_left hitem)
        refine ⟨item :: before, first, after, rfl, hfirst, ?_⟩
        rw [List.flatMap_cons, List.mem_append, not_or]
        exact ⟨hitem, hbefore⟩

/-! ### The folders of a listed path -/

open SpokenIndex.Path

variable {plan : IndexPlan} {rootDir rootText cwd start name path other : String}
  {way way' : List String} {blocks : List Block} {a b : Block}

section Under

variable (hstart : canonical cwd start = start)
include hstart

/-- The files of a block stand in one folder. -/
theorem Block.InOrder.folder_eq (h : Block.InOrder start blocks) (hb : b ∈ blocks)
    (hpath : path ∈ b.files) : folder path = under start b.way := by
  obtain ⟨name, hnames, rfl⟩ := h.stands b hb path hpath
  exact folder_under hstart hnames

theorem Block.InOrder.canonical_eq (h : Block.InOrder start blocks)
    (hpath : path ∈ blocks.flatMap Block.files) : canonical cwd path = path := by
  obtain ⟨b, hb, hpath⟩ := List.mem_flatMap.mp hpath
  obtain ⟨name, hnames, rfl⟩ := h.stands b hb path hpath
  exact canonical_under hstart hnames

/-- The paths that stand in a folder are those of its block. -/
theorem Block.InOrder.mem_of_folder_eq (h : Block.InOrder start blocks) (hb : b ∈ blocks)
    (hpath : path ∈ b.files) (hother : other ∈ blocks.flatMap Block.files)
    (hfolder : folder other = folder path) : other ∈ b.files := by
  obtain ⟨a, ha, hother⟩ := List.mem_flatMap.mp hother
  obtain ⟨_, hnames, -⟩ := h.stands b hb path hpath
  obtain ⟨_, hnames', -⟩ := h.stands a ha other hother
  rw [h.folder_eq hstart hb hpath, h.folder_eq hstart ha hother] at hfolder
  have hway := under_injective_of_canonical hstart
    (fun n hn => hnames' n (List.mem_append_left _ hn))
    (fun n hn => hnames n (List.mem_append_left _ hn)) hfolder
  exact h.eq_of_way_eq ha hb hway ▸ hother

/-- A folder that is registered for a path is on the way to it. -/
theorem Block.InOrder.prefix_of_mem_foldersAbove (h : Block.InOrder start blocks)
    (hplan : plan.root = canonical rootDir rootText) (hb : b ∈ blocks) (hpath : path ∈ b.files)
    (ha : a ∈ blocks) (hother : other ∈ a.files) (hmem : folder path ∈ plan.foldersAbove other) :
    b.way <+: a.way := by
  obtain ⟨_, hnames, -⟩ := h.stands b hb path hpath
  obtain ⟨last, hnames', rfl⟩ := h.stands a ha other hother
  rw [← canonical_under hstart hnames', IndexPlan.foldersAbove_canonical hplan,
    canonical_under hstart hnames', h.folder_eq hstart hb hpath] at hmem
  exact prefix_of_mem_holders hstart (fun n hn => hnames n (List.mem_append_left _ hn)) hnames'
    (List.mem_filter.mp hmem).1

/-- A folder beneath that of a block is registered for no path up to the end of the block. -/
theorem Block.InOrder.not_mem_foldersAbove {earlier later : List Block}
    (h : Block.InOrder start (earlier ++ b :: later))
    (hplan : plan.root = canonical rootDir rootText) (ha : a ∈ earlier ++ b :: later)
    (hpath : path ∈ a.files) (hbeneath : b.way <+: a.way) (hne : b.way ≠ a.way)
    (hother : other ∈ (earlier ++ [b]).flatMap Block.files) :
    folder path ∉ plan.foldersAbove other := by
  intro hmem
  obtain ⟨c, hc, hother⟩ := List.mem_flatMap.mp hother
  have hcBlock : c ∈ earlier ++ b :: later := by
    rw [List.append_cons]
    exact List.mem_append_left _ hc
  have hdown := h.prefix_of_mem_foldersAbove hstart hplan ha hpath hcBlock hother hmem
  rcases List.mem_append.mp hc with hc | hc
  · exact (List.pairwise_append.mp h.falls).2.2 c hc b List.mem_cons_self (hbeneath.trans hdown)
  · obtain rfl := List.mem_singleton.mp hc
    exact hne (hbeneath.eq_of_length_le hdown.length_le)

end Under

namespace IndexPlan

variable {world : Surroundings} {disk : Disk} {s : IndexState} {paths : List String}
  {hollow : String}

/-! ### Hollow folders -/

/-- The tracked ones among paths. -/
def tracked (plan : IndexPlan) (paths : List String) : List String :=
  paths.filter plan.isTracked

/-- The folders that paths register, first to last. -/
def foldersHolding (plan : IndexPlan) (paths : List String) : List String :=
  paths.flatMap plan.foldersAbove

/-- The mapping of folders that paths leave. -/
def folderMap (plan : IndexPlan) (paths : List String) : NameMap :=
  .ofList (paths.flatMap plan.folderWrites)

/-- Tracked paths are listed in a folder below the root, and none of them is a file. -/
structure IsHollow (plan : IndexPlan) (disk : Disk) (paths : List String) (hollow : String) :
    Prop where
  below : IsStrictlyBelow plan.root hollow
  listed : ∃ path ∈ plan.tracked paths, folder path = hollow
  not_file : ∀ path ∈ plan.tracked paths, folder path = hollow → disk.isFile path = false

/-- The folders that paths register have distinct names, letter case aside. -/
def NamesApart (plan : IndexPlan) (paths : List String) : Prop :=
  ∀ above ∈ plan.foldersHolding paths, ∀ other ∈ plan.foldersHolding paths,
    Text.lowercase (baseName above) = Text.lowercase (baseName other) → above = other

theorem mem_tracked : path ∈ plan.tracked paths ↔ path ∈ paths ∧ plan.isTracked path = true :=
  List.mem_filter

theorem admitted_eq_filter_tracked :
    plan.admitted disk paths = (plan.tracked paths).filter disk.isFile := by
  rw [tracked, List.filter_comm, List.filter_filter]
  rfl

theorem mem_foldersAbove_folder (hplan : plan.root = canonical rootDir rootText)
    (hpath : canonical cwd path = path) (hbelow : IsStrictlyBelow plan.root (folder path)) :
    folder path ∈ plan.foldersAbove path := by
  rw [foldersAbove_eq hplan hpath, if_pos hbelow]
  exact List.mem_cons_self

/-- If any folder is registered for a path then first of all the one that holds it. -/
theorem foldersAbove_eq_cons (hplan : plan.root = canonical rootDir rootText)
    (hpath : canonical cwd path = path) (h : other ∈ plan.foldersAbove path) :
    plan.foldersAbove path = folder path :: plan.foldersAbove (folder path) := by
  rw [foldersAbove_eq hplan hpath] at h ⊢
  split at h
  · rename_i hbelow
    rw [if_pos hbelow]
  · exact absurd h List.not_mem_nil

theorem folderWrites_congr (hplan : plan.root = canonical rootDir rootText)
    (hpath : canonical cwd path = path) (hother : canonical cwd other = other)
    (h : folder path = folder other) : plan.folderWrites path = plan.folderWrites other := by
  rw [folderWrites, folderWrites, foldersAbove_eq hplan hpath, foldersAbove_eq hplan hother, h]

theorem map_fst_flatMap_folderWrites (plan : IndexPlan) (paths : List String) :
    (paths.flatMap plan.folderWrites).map Prod.fst
      = (plan.foldersHolding paths).map fun above => Text.lowercase (baseName above) := by
  rw [foldersHolding, List.map_flatMap, List.map_flatMap]
  refine List.flatMap_congr fun path _ => ?_
  rw [folderWrites, List.map_map]
  rfl

section Blocks

variable (hplan : plan.root = canonical rootDir rootText) (hstart : canonical cwd start = start)
  (h : Block.InOrder start blocks)
include hplan hstart h

/-- Without hollow folders the paths that are no files make no difference. -/
theorem folderMap_admitted_eq
    (hsolid : ∀ hollow, ¬ plan.IsHollow disk (blocks.flatMap Block.files) hollow) :
    plan.folderMap (plan.admitted disk (blocks.flatMap Block.files))
      = plan.folderMap (plan.tracked (blocks.flatMap Block.files)) := by
  -- One block after another: where any path makes its writes, a file makes them too.
  rw [folderMap, folderMap, OrderedMap.ofList, OrderedMap.ofList, admitted_eq_filter_tracked,
    tracked, List.filter_flatMap, List.filter_flatMap, List.flatMap_assoc, List.flatMap_assoc]
  refine OrderedMap.insertAll_flatMap_congr _ fun b hb m => ?_
  rw [← tracked]
  have hlisted : ∀ path ∈ plan.tracked b.files, path ∈ b.files ∧ canonical cwd path = path ∧
      path ∈ plan.tracked (blocks.flatMap Block.files) := by
    intro path hpath
    obtain ⟨hfile, htracked⟩ := mem_tracked.mp hpath
    have hmem : path ∈ blocks.flatMap Block.files := List.mem_flatMap.mpr ⟨b, hb, hfile⟩
    exact ⟨hfile, h.canonical_eq hstart hmem, mem_tracked.mpr ⟨hmem, htracked⟩⟩
  by_cases hnone : plan.tracked b.files = []
  · rw [hnone, List.filter_nil]
  · obtain ⟨path, hpath⟩ := List.exists_mem_of_ne_nil _ hnone
    obtain ⟨hfile, hcanonical, hmem⟩ := hlisted path hpath
    have hsame : ∀ other ∈ plan.tracked b.files,
        plan.folderWrites other = plan.folderWrites path := by
      intro other hother
      obtain ⟨hfile', hcanonical', -⟩ := hlisted other hother
      refine folderWrites_congr hplan hcanonical' hcanonical ?_
      rw [h.folder_eq hstart hb hfile, h.folder_eq hstart hb hfile']
    by_cases hbelow : IsStrictlyBelow plan.root (folder path)
    · obtain ⟨other, hother, hisFile⟩ : ∃ other ∈ plan.tracked b.files,
          disk.isFile other = true := by
        by_contra hno
        refine hsolid (folder path) ⟨hbelow, ⟨path, hmem, rfl⟩, fun other hother hfolder => ?_⟩
        obtain ⟨hother, htracked⟩ := mem_tracked.mp hother
        have hblock := h.mem_of_folder_eq hstart hb hfile hother hfolder
        exact Bool.eq_false_iff.mpr fun hisFile =>
          hno ⟨other, mem_tracked.mpr ⟨hblock, htracked⟩, hisFile⟩
      rw [OrderedMap.insertAll_flatMap_same m (List.ne_nil_of_mem hpath) hsame]
      exact OrderedMap.insertAll_flatMap_same m
        (List.ne_nil_of_mem (List.mem_filter.mpr ⟨hother, hisFile⟩))
        fun item hitem => hsame item (List.mem_of_mem_filter hitem)
    · have hnothing : ∀ other ∈ plan.tracked b.files, plan.folderWrites other = [] := by
        intro other hother
        rw [hsame other hother, folderWrites, foldersAbove_eq hplan hcanonical, if_neg hbelow,
          List.map_nil]
      rw [List.flatMap_eq_nil_iff.mpr hnothing, List.flatMap_eq_nil_iff.mpr fun item hitem =>
        hnothing item (List.mem_of_mem_filter hitem)]

/-- A hollow folder that holds files comes before a folder beneath it when all tracked paths
register their folders, and after it when only the files among them do. -/
theorem exists_order_of_isHollow
    (hhollow : plan.IsHollow disk (blocks.flatMap Block.files) hollow)
    (hholds : hollow ∈ plan.foldersHolding (plan.admitted disk (blocks.flatMap Block.files))) :
    ∃ deep early late,
      early <+: plan.foldersHolding (plan.tracked (blocks.flatMap Block.files)) ∧
      hollow ∈ early ∧ deep ∉ early ∧
      late <+: plan.foldersHolding (plan.admitted disk (blocks.flatMap Block.files)) ∧
      deep ∈ late ∧ hollow ∉ late := by
  obtain ⟨path, hpath, hfolder⟩ := hhollow.listed
  obtain ⟨hlisted, htracked⟩ := mem_tracked.mp hpath
  -- The first file that the hollow folder holds stands in a folder beneath it.
  obtain ⟨before, file, after, hsplit, hheld, hbefore⟩ := exists_first_of_mem_flatMap hholds
  have hfile : file ∈ plan.admitted disk (blocks.flatMap Block.files) := by
    rw [hsplit]
    exact List.mem_append_right _ List.mem_cons_self
  rw [admitted_eq_filter_tracked, List.mem_filter] at hfile
  have hlistedFile := (mem_tracked.mp hfile.1).1
  have hne : folder file ≠ hollow := by
    intro heq
    rw [hhollow.not_file file hfile.1 heq] at hfile
    exact Bool.noConfusion hfile.2
  have habove := foldersAbove_eq_cons hplan (h.canonical_eq hstart hlistedFile) hheld
  obtain ⟨b, hb, hpathBlock⟩ := List.mem_flatMap.mp hlisted
  obtain ⟨a, ha, hfileBlock⟩ := List.mem_flatMap.mp hlistedFile
  have hbeneath : b.way <+: a.way :=
    h.prefix_of_mem_foldersAbove hstart hplan hb hpathBlock ha hfileBlock (hfolder ▸ hheld)
  have hway : b.way ≠ a.way := by
    intro heq
    refine hne ?_
    rw [← hfolder, h.folder_eq hstart ha hfileBlock, h.folder_eq hstart hb hpathBlock, heq]
  obtain ⟨earlier, later, rfl⟩ := List.append_of_mem hb
  refine ⟨folder file, plan.foldersHolding (plan.tracked ((earlier ++ [b]).flatMap Block.files)),
    plan.foldersHolding before ++ [folder file], ?_, ?_, ?_, ?_, by simp, ?_⟩
  · rw [List.append_cons earlier b later]
    exact (((List.prefix_append _ later).flatMap _).filter _).flatMap _
  · have hearly : path ∈ (earlier ++ [b]).flatMap Block.files :=
      List.mem_flatMap.mpr ⟨b, by simp, hpathBlock⟩
    refine List.mem_flatMap.mpr ⟨path, mem_tracked.mpr ⟨hearly, htracked⟩, ?_⟩
    rw [← hfolder] at hhollow ⊢
    exact mem_foldersAbove_folder hplan (h.canonical_eq hstart hlisted) hhollow.below
  · intro hdeep
    obtain ⟨other, hother, hdeep⟩ := List.mem_flatMap.mp hdeep
    exact h.not_mem_foldersAbove hstart hplan ha hfileBlock hbeneath hway
      (mem_tracked.mp hother).1 hdeep
  · rw [hsplit, foldersHolding, foldersHolding, List.flatMap_append, List.flatMap_cons, habove]
    refine (List.prefix_append_right_inj _).mpr ?_
    rw [List.cons_append]
    exact List.cons_prefix_cons.mpr ⟨rfl, List.nil_prefix⟩
  · rw [List.mem_append, List.mem_singleton, not_or]
    exact ⟨hbefore, hne.symm⟩

/-- With distinct names a hollow folder makes a difference. -/
theorem folderMap_admitted_ne
    (hhollow : plan.IsHollow disk (blocks.flatMap Block.files) hollow)
    (hnames : plan.NamesApart (plan.tracked (blocks.flatMap Block.files))) :
    plan.folderMap (plan.admitted disk (blocks.flatMap Block.files))
      ≠ plan.folderMap (plan.tracked (blocks.flatMap Block.files)) := by
  have hlisted : hollow ∈ plan.foldersHolding (plan.tracked (blocks.flatMap Block.files)) := by
    obtain ⟨path, hpath, rfl⟩ := hhollow.listed
    have hcanonical := h.canonical_eq hstart (mem_tracked.mp hpath).1
    exact List.mem_flatMap.mpr ⟨path, hpath, mem_foldersAbove_folder hplan hcanonical hhollow.below⟩
  have hamong : plan.foldersHolding (plan.admitted disk (blocks.flatMap Block.files))
      ⊆ plan.foldersHolding (plan.tracked (blocks.flatMap Block.files)) := by
    intro above habove
    rw [admitted_eq_filter_tracked] at habove
    obtain ⟨path, hpath, habove⟩ := List.mem_flatMap.mp habove
    exact List.mem_flatMap.mpr ⟨path, List.mem_of_mem_filter hpath, habove⟩
  -- Names tell folders apart, so a folder stands where its name does.
  have hapart : ∀ {among : List String} {above : String},
      above ∈ plan.foldersHolding (plan.tracked (blocks.flatMap Block.files)) →
      among ⊆ plan.foldersHolding (plan.tracked (blocks.flatMap Block.files)) →
      Text.lowercase (baseName above) ∈ among.map (fun f => Text.lowercase (baseName f)) →
        above ∈ among := by
    intro among above habove hsub hmem
    obtain ⟨other, hother, hkey⟩ := List.mem_map.mp hmem
    exact hnames other (hsub hother) above habove hkey ▸ hother
  intro heq
  have hholds : hollow ∈ plan.foldersHolding (plan.admitted disk (blocks.flatMap Block.files)) := by
    have hkeys := congrArg OrderedMap.keys heq
    rw [folderMap, folderMap, (OrderedMap.isLastWrites_ofList _).keys,
      (OrderedMap.isLastWrites_ofList _).keys, map_fst_flatMap_folderWrites,
      map_fst_flatMap_folderWrites] at hkeys
    refine hapart hlisted hamong ?_
    rw [← List.mem_eraseDups, hkeys, List.mem_eraseDups]
    exact List.mem_map_of_mem hlisted
  obtain ⟨deep, early, late, hearly, hfirst, hnotEarly, hlate, hdeep, hnotLate⟩ :=
    exists_order_of_isHollow hplan hstart h hhollow hholds
  have hlate' := hlate.map fun f => Text.lowercase (baseName f)
  have hearly' := hearly.map fun f => Text.lowercase (baseName f)
  rw [← map_fst_flatMap_folderWrites] at hlate' hearly'
  refine OrderedMap.ofList_ne_of_order hlate' (List.mem_map_of_mem hdeep) ?_ hearly'
    (List.mem_map_of_mem hfirst) ?_ heq
  · exact fun hmem => hnotLate (hapart hlisted (List.Subset.trans hlate.subset hamong) hmem)
  · exact fun hmem => hnotEarly (hapart (hamong (hlate.subset hdeep)) hearly.subset hmem)

end Blocks

/-! ### A deletion of nothing -/

/-- A tree whose root is a folder is listed as it is walked. -/
theorem listTree_of_walk (hrefusal : world.listRefusal = none)
    (hroot : world.disk.isFolder plan.watchRoot = true)
    (hwalk : world.disk.walk plan.tracking.walker plan.watchRoot = .ok paths) :
    plan.listTree world = .ok paths := by
  have hstart : plan.tracking.passesOverStart plan.watchRoot = false := by
    rw [Tracking.passesOverStart, show plan.tracking.root = plan.watchRoot from rfl,
      relative?_self]
    rfl
  rw [listTree, hrefusal]
  show plan.tracking.enumerate world.disk = _
  rw [Tracking.enumerate, show plan.tracking.root = plan.watchRoot from rfl, if_pos hroot,
    Tracking.filesBeneath, hwalk]
  simp only [hstart, Bool.false_eq_true, ↓reduceIte]

/-- What is listed comes in the blocks of a walk. -/
theorem exists_blocks_of_listTree (hdisk : world.disk.top.WellFormed)
    (hlist : plan.listTree world = .ok paths) :
    ∃ blocks, paths = blocks.flatMap Block.files ∧ Block.InOrder plan.watchRoot blocks := by
  rw [listTree, listRefusal_of_listTree hlist] at hlist
  simp only [Tracking.enumerate, Tracking.filesBeneath] at hlist
  split at hlist
  · cases hwalk : world.disk.walk plan.tracking.walker plan.tracking.root with
    | error fault =>
        simp only [hwalk] at hlist
        obtain rfl := Except.ok.inj hlist
        exact ⟨[], rfl, Block.inOrder_nil _⟩
    | ok files =>
        simp only [hwalk] at hlist
        obtain rfl := Except.ok.inj hlist
        split
        · exact ⟨[], rfl, Block.inOrder_nil _⟩
        · exact Disk.exists_blocks_of_walk hdisk hwalk
  · simp at hlist

/-- An index that was initialized has nothing where its bulk has nothing. -/
theorem lacks_populate_reset {bulk : Option (List String)}
    (hok : (plan.populate world bulk (reset s)).1 = .ok ())
    (hpaths : plan.bulkPaths world bulk = .ok paths)
    (hapart : ∀ f ∈ paths.map (canonical world.workDir), isAtOrBeneath path f = false) :
    (plan.populate world bulk (reset s)).2.1.mappings.Lacks path := by
  obtain ⟨again, hagain, hstate⟩ := populate_reset_eq hok
  obtain rfl := Except.ok.inj (hpaths.symm.trans hagain)
  rw [hstate, addBulk_fst]
  refine lacks_registerAll (m := .empty) ⟨fun e he => ?_, fun kind e he => ?_⟩ fun f hf => ?_
  · exact absurd he List.not_mem_nil
  · cases kind <;> exact absurd he List.not_mem_nil
  · exact hapart f (mem_admitted.mp hf).1

/-- A deletion takes no file and no symbol where there is none. -/
theorem handleDelete_of_lacks (plan : IndexPlan)
    (hlacks : s.mappings.Lacks (canonical world.workDir path)) :
    (plan.handleDelete world path s).1.mappings.files = s.mappings.files ∧
      ∀ kind, (plan.handleDelete world path s).1.mappings.symbolsOf kind
        = s.mappings.symbolsOf kind := by
  refine ⟨?_, fun kind => ?_⟩
  · exact (handleDelete_files rfl).trans (OrderedMap.removeWhere_of_none hlacks.files)
  · exact (handleDelete_symbolsOf rfl).trans
      (OrderedMap.removeWhere_of_none (hlacks.symbols kind))

/-- **When a deletion of nothing changes nothing.**  An index was initialized from the listing of
the tree, it has no file and no symbol at or beneath a path, and it is told that the path was
deleted while nothing has changed.  Then its files and symbols are the same as before.  If no
folder is hollow then the folders are the same too, with the same values and in the same order;
and if a folder is hollow then they are not, as long as folders have distinct names. -/
theorem rebuilt_unless_hollow (made world : Surroundings) (root : String)
    (settings : IndexSettings) (extractor : Extractor) (s : IndexState) (path : String)
    (hdisk : world.disk.top.WellFormed) :
    let plan := IndexPlan.forRoot made root settings extractor
    let built := (plan.populate world none (reset s)).2.1
    let after := (plan.handleDelete world path built).1
    (plan.populate world none (reset s)).1 = .ok () →
    built.mappings.Lacks (canonical world.workDir path) →
    ∃ paths, plan.listTree world = .ok paths ∧
      after.mappings.files = built.mappings.files ∧
      (∀ kind, after.mappings.symbolsOf kind = built.mappings.symbolsOf kind) ∧
      ((∀ hollow, ¬ plan.IsHollow world.disk paths hollow) → after = built) ∧
      (plan.NamesApart (plan.tracked paths) → ∀ hollow, plan.IsHollow world.disk paths hollow →
        after.mappings.folders ≠ built.mappings.folders) := by
  intro plan built after hok hlacks
  obtain ⟨paths, hpaths, hbuilt⟩ := populate_reset_eq hok
  have hlist : plan.listTree world = .ok paths := hpaths
  have hstart : canonical world.workDir plan.watchRoot = plan.watchRoot :=
    Disk.canonical_placePath world.workDir (Disk.isName_of_mem_realNames made.disk root)
  obtain ⟨blocks, rfl, hblocks⟩ := exists_blocks_of_listTree hdisk hlist
  have hcanonical : (blocks.flatMap Block.files).map (canonical world.workDir)
      = blocks.flatMap Block.files := by
    rw [List.map_congr_left fun file hfile => hblocks.canonical_eq hstart hfile, List.map_id']
  have hbefore : built.mappings.folders
      = plan.folderMap (plan.admitted world.disk (blocks.flatMap Block.files)) := by
    show (plan.populate world none (reset s)).2.1.mappings.folders = _
    rw [hbuilt, hcanonical]
    exact addBulk_folders
  have hafter : after.mappings.folders
      = plan.folderMap (plan.tracked (blocks.flatMap Block.files)) := by
    show (plan.handleDelete world path built).1.mappings.folders = _
    rw [handleDelete_folders hlist, foldersOf, hcanonical]
    rfl
  obtain ⟨hfiles, hsymbols⟩ := handleDelete_of_lacks plan hlacks
  refine ⟨_, hlist, hfiles, hsymbols, fun hsolid => ?_, fun hnames hollow hhollow => ?_⟩
  · have hfolders : after.mappings.folders = built.mappings.folders := by
      rw [hbefore, hafter, folderMap_admitted_eq rfl hstart hblocks hsolid]
    exact handleCall_eq_of_mappings (c := ⟨.delete, path⟩)
      (Mappings.ext_symbolsOf hfiles hfolders hsymbols)
  · rw [hbefore, hafter]
    exact (folderMap_admitted_ne rfl hstart hblocks hhollow hnames).symm

/-- A tree with a file, and with a folder in which a link leads nowhere. -/
def withBrokenLink (beside : List (String × Node)) : Disk where
  top := .folder [("r", .folder [("a.ts", .file .empty),
    ("d", .folder (("x.ts", .link "gone") :: beside))])]

theorem forRoot_withBrokenLink (beside : List (String × Node)) :
    forRoot (.calm (withBrokenLink beside)) "/r" wholeTextPlan.settings wholeTextPlan.extractor
      = wholeTextPlan := by
  have hroot : canonical "/" "/r" = "/r" := by decide
  have hreal : (withBrokenLink beside).resolve "/r" = "/r" := by cbv
  rw [forRoot]
  simp only [Surroundings.calm, hreal, hroot]
  rfl

theorem listTree_withBrokenLink {beside : List (String × Node)}
    (h : (withBrokenLink beside).walkNode wholeTextPlan.tracking.walker (.folder
      [("a.ts", .file .empty), ("d", .folder (("x.ts", .link "gone") :: beside))]) "/r" ["r"]
        = paths) :
    wholeTextPlan.listTree (.calm (withBrokenLink beside)) = .ok paths := by
  have hroot : (withBrokenLink beside).isFolder "/r" = true := by cbv
  have hlocate : (withBrokenLink beside).locate true "/r" = .ok ["r"] := by cbv
  refine listTree_of_walk rfl hroot ?_
  rw [← h]
  exact (Disk.walk_eq _ hlocate rfl).trans (if_pos rfl)

/-- A file beside the link keeps the folder from being hollow. -/
theorem rebuilt_unless_hollow_beside :
    let world := Surroundings.calm (withBrokenLink [("y.ts", .file .empty)])
    let plan := forRoot world "/r" wholeTextPlan.settings wholeTextPlan.extractor
    let built := (plan.populate world none (reset .fresh)).2.1
    world.disk.top.WellFormed ∧ (plan.populate world none (reset .fresh)).1 = .ok () ∧
      built.mappings.Lacks (canonical world.workDir "/r/none.ts") ∧
      (∃ paths, plan.listTree world = .ok paths ∧
        ∀ hollow, ¬ plan.IsHollow world.disk paths hollow) ∧
      (plan.handleDelete world "/r/none.ts" built).1 = built := by
  intro world plan built
  have hplan : plan = wholeTextPlan := forRoot_withBrokenLink _
  have hdisk : world.disk.top.WellFormed := by decide
  have hlist : plan.listTree world = .ok ["/r/a.ts", "/r/d/x.ts", "/r/d/y.ts"] := by
    have hlink : (withBrokenLink [("y.ts", .file .empty)]).leadsToFolder ["d", "r"] "gone"
        = false := by cbv
    rw [hplan]
    refine listTree_withBrokenLink ?_
    simp only [Disk.walkNode, Disk.walkEntries, hlink]
    decide +kernel
  have hok : (plan.populate world none (reset .fresh)).1 = .ok () :=
    populate_reset_ok_iff.mpr ⟨Or.inr (.calm _), _, hlist⟩
  have hlacks : built.mappings.Lacks (canonical world.workDir "/r/none.ts") :=
    lacks_populate_reset hok hlist (by decide)
  have hsolid : ∀ hollow,
      ¬ plan.IsHollow world.disk ["/r/a.ts", "/r/d/x.ts", "/r/d/y.ts"] hollow := by
    rw [hplan]
    intro hollow hhollow
    have hfile : world.disk.isFile "/r/a.ts" = true ∧ world.disk.isFile "/r/d/y.ts" = true :=
      ⟨by cbv, by cbv⟩
    have hnone := hhollow.not_file
    obtain ⟨path, hpath, rfl⟩ := hhollow.listed
    have hpath := (mem_tracked.mp hpath).1
    simp only [List.mem_cons, List.not_mem_nil, or_false] at hpath
    rcases hpath with rfl | rfl | rfl
    · simpa [hfile] using hnone "/r/a.ts" (by decide) rfl
    · simpa [hfile] using hnone "/r/d/y.ts" (by decide) (by decide)
    · simpa [hfile] using hnone "/r/d/y.ts" (by decide) rfl
  obtain ⟨paths, hpaths, -, -, hsame, -⟩ := rebuilt_unless_hollow world world "/r"
    wholeTextPlan.settings wholeTextPlan.extractor .fresh "/r/none.ts" hdisk hok hlacks
  obtain rfl := Except.ok.inj (hlist.symm.trans hpaths)
  exact ⟨hdisk, hok, hlacks, ⟨_, hlist, hsolid⟩, hsame hsolid⟩

/-- The folder of the link appears when a path is deleted that was never there. -/
theorem hollow_folder_appears :
    let world := Surroundings.calm (withBrokenLink [])
    let plan := forRoot world "/r" wholeTextPlan.settings wholeTextPlan.extractor
    let built := (plan.populate world none (reset .fresh)).2.1
    (plan.populate world none (reset .fresh)).1 = .ok () ∧
      built.mappings.Lacks (canonical world.workDir "/r/none.ts") ∧
      built.mappings.folders.entries = [] ∧
      (plan.handleDelete world "/r/none.ts" built).1.mappings.folders.entries
        = [("d", "/r/d")] := by
  intro world plan built
  have hplan : plan = wholeTextPlan := forRoot_withBrokenLink _
  have hlist : plan.listTree world = .ok ["/r/a.ts", "/r/d/x.ts"] := by
    have hlink : (withBrokenLink []).leadsToFolder ["d", "r"] "gone" = false := by cbv
    rw [hplan]
    refine listTree_withBrokenLink ?_
    simp only [Disk.walkNode, Disk.walkEntries, hlink]
    decide +kernel
  have hok : (plan.populate world none (reset .fresh)).1 = .ok () :=
    populate_reset_ok_iff.mpr ⟨Or.inr (.calm _), _, hlist⟩
  have hlacks : built.mappings.Lacks (canonical world.workDir "/r/none.ts") :=
    lacks_populate_reset hok hlist (by decide)
  obtain ⟨paths, hpaths, hbuilt⟩ := populate_reset_eq hok
  obtain rfl := Except.ok.inj (hlist.symm.trans hpaths)
  have hadmitted : plan.admitted world.disk
      (["/r/a.ts", "/r/d/x.ts"].map (canonical world.workDir)) = ["/r/a.ts"] := by
    rw [hplan]
    cbv
  refine ⟨hok, hlacks, ?_, ?_⟩
  · show (plan.populate world none (reset .fresh)).2.1.mappings.folders.entries = []
    rw [hbuilt, addBulk_folders, hadmitted, hplan]
    decide +kernel
  · rw [handleDelete_folders hlist, hplan]
    decide +kernel

end IndexPlan

end SpokenIndex
