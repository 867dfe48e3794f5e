/-
The order in which a walk lists a tree.

A folder gives its own files first, and then one by one what its folders give.  So the files
of one folder stand together in the listing, and they stand before the files of every
folder beneath it.  A listing is cut accordingly into blocks, one for each folder that has
been entered, with the way that leads down to the folder.

The order rests on the names of a folder being distinct: two of its folders share no file,
and no way down through the one begins like a way down through the other.
-/
import SpokenIndex.Proofs.Walk

namespace SpokenIndex

open Disk SpokenIndex.Path

/-- The files that a walk lists in one folder, and the way down to the folder from where the walk
begins. -/
structure Block where
  way : List String
  files : List String

namespace Block

variable {path name : String} {blocks first rest : List Block} {a b : Block}

/-- The block as it is seen from the folder above. -/
def within (name : String) (b : Block) : Block := ⟨name :: b.way, b.files⟩

/-- Blocks as a walk beneath a path comes to them. -/
structure InOrder (path : String) (blocks : List Block) : Prop where
  /-- The files of a block stand in its folder. -/
  stands : ∀ b ∈ blocks, ∀ file ∈ b.files, ∃ name, (∀ n ∈ b.way ++ [name], Node.IsName n) ∧
    file = under path (b.way ++ [name])
  /-- A folder does not come again, and it does not come after a folder beneath it. -/
  falls : blocks.Pairwise fun earlier later => ¬ later.way <+: earlier.way

theorem flatMap_files_within (name : String) (blocks : List Block) :
    (blocks.map (within name)).flatMap Block.files = blocks.flatMap Block.files := by
  rw [List.flatMap_map]
  rfl

theorem inOrder_nil (path : String) : InOrder path [] :=
  ⟨fun _ hb => absurd hb List.not_mem_nil, .nil⟩

theorem InOrder.within (h : InOrder (join path name) blocks) (hname : Node.IsName name) :
    InOrder path (blocks.map (Block.within name)) where
  stands b hb file hfile := by
    obtain ⟨inner, hinner, rfl⟩ := List.mem_map.mp hb
    obtain ⟨last, hnames, hpath⟩ := h.stands inner hinner file hfile
    exact ⟨last, List.forall_mem_cons.mpr ⟨hname, hnames⟩, hpath⟩
  falls := by
    refine List.pairwise_map.mpr (h.falls.imp fun hnot hbegins => hnot ?_)
    exact (List.cons_prefix_cons.mp hbegins).2

theorem InOrder.append (hfirst : InOrder path first) (hrest : InOrder path rest)
    (h : ∀ a ∈ first, ∀ b ∈ rest, ¬ b.way <+: a.way) : InOrder path (first ++ rest) where
  stands b hb := (List.mem_append.mp hb).elim (hfirst.stands b) (hrest.stands b)
  falls := List.pairwise_append.mpr ⟨hfirst.falls, hrest.falls, h⟩

/-- A folder has one block. -/
theorem InOrder.eq_of_way_eq (h : InOrder path blocks) (ha : a ∈ blocks) (hb : b ∈ blocks)
    (hway : a.way = b.way) : a = b := by
  have hnodup : (blocks.map Block.way).Nodup := by
    refine List.pairwise_map.mpr (h.falls.imp fun hnot heq => hnot ?_)
    rw [heq]
  exact List.inj_on_of_nodup_map hnodup ha hb hway

end Block

/-! ### What a folder gives -/

/-- What is found under a name comes in the order of a walk: a file is that of the name, and the
files of a folder come in blocks. -/
def Finding.IsInOrder (path name : String) : Finding → Prop
  | .file listed => listed = join path name
  | .folder files =>
    ∃ blocks, files = blocks.flatMap Block.files ∧ Block.InOrder (join path name) blocks

variable {findings : List (String × Finding)} {path : String}

/-- What the folders give, one after another, comes in blocks that lead through them. -/
theorem exists_blocks_folders (hnodup : (findings.map Prod.fst).Nodup)
    (hfound : ∀ f ∈ findings, Node.IsName f.1 ∧ f.2.IsInOrder path f.1) :
    ∃ blocks, findings.flatMap (·.2.folderFiles) = blocks.flatMap Block.files ∧
      Block.InOrder path blocks ∧ ∀ b ∈ blocks, ∃ f ∈ findings, ∃ way, b.way = f.1 :: way := by
  induction findings with
  | nil => exact ⟨[], rfl, Block.inOrder_nil path, by simp⟩
  | cons f others ih =>
      obtain ⟨name, found⟩ := f
      rw [List.map_cons, List.nodup_cons] at hnodup
      obtain ⟨hnew, hnodup⟩ := hnodup
      obtain ⟨⟨hname, hinOrder⟩, hothers⟩ := List.forall_mem_cons.mp hfound
      obtain ⟨rest, hfiles, hrest, hthrough⟩ := ih hnodup hothers
      rw [List.flatMap_cons, hfiles]
      cases found with
      | file listed =>
          refine ⟨rest, rfl, hrest, fun b hb => ?_⟩
          obtain ⟨f, hf, hway⟩ := hthrough b hb
          exact ⟨f, List.mem_cons_of_mem _ hf, hway⟩
      | folder files =>
          obtain ⟨inner, rfl, hinner⟩ := hinOrder
          refine ⟨inner.map (Block.within name) ++ rest, ?_, ?_, fun b hb => ?_⟩
          · rw [List.flatMap_append, Block.flatMap_files_within]
            rfl
          · -- Ways through one of the folders do not begin like a way through another.
            refine (hinner.within hname).append hrest fun a ha b hb hbegins => ?_
            obtain ⟨a, -, rfl⟩ := List.mem_map.mp ha
            obtain ⟨f, hf, way, hway⟩ := hthrough b hb
            rw [hway] at hbegins
            exact hnew ((List.cons_prefix_cons.mp hbegins).1 ▸ List.mem_map_of_mem hf)
          · rcases List.mem_append.mp hb with hb | hb
            · obtain ⟨b, -, rfl⟩ := List.mem_map.mp hb
              exact ⟨_, List.mem_cons_self, b.way, rfl⟩
            · obtain ⟨f, hf, hway⟩ := hthrough b hb
              exact ⟨f, List.mem_cons_of_mem _ hf, hway⟩

/-- What a folder gives is its own block and then the blocks of its folders. -/
theorem exists_blocks_assemble (hnodup : (findings.map Prod.fst).Nodup)
    (hfound : ∀ f ∈ findings, Node.IsName f.1 ∧ f.2.IsInOrder path f.1) :
    ∃ blocks, assemble findings = blocks.flatMap Block.files ∧ Block.InOrder path blocks := by
  have hperm := sortStable_perm (fun a b => decide (a.1 ≤ b.1)) findings
  rw [assemble]
  generalize sortStable (fun a b => decide (a.1 ≤ b.1)) findings = byName at hperm
  have hfound' : ∀ f ∈ byName, Node.IsName f.1 ∧ f.2.IsInOrder path f.1 :=
    fun f hf => hfound f (hperm.mem_iff.mp hf)
  obtain ⟨blocks, hfiles, hblocks, hthrough⟩ := exists_blocks_folders
    ((hperm.map Prod.fst).nodup_iff.mpr hnodup) hfound'
  refine ⟨⟨[], byName.filterMap (·.2.file?)⟩ :: blocks, ?_, ?_, ?_⟩
  · simp only [List.flatMap_cons, hfiles]
  · refine List.forall_mem_cons.mpr ⟨fun file hfile => ?_, hblocks.stands⟩
    obtain ⟨⟨name, found⟩, hf, hfile⟩ := List.mem_filterMap.mp hfile
    obtain ⟨hname, hinOrder⟩ := hfound' _ hf
    cases found with
    | file listed =>
        obtain rfl := Option.some.inj hfile
        exact ⟨name, by simpa using hname, hinOrder⟩
    | folder files => exact absurd hfile (by simp [Finding.file?])
  · refine List.pairwise_cons.mpr ⟨fun b hb hbegins => ?_, hblocks.falls⟩
    obtain ⟨f, -, way, hway⟩ := hthrough b hb
    rw [hway] at hbegins
    exact absurd (List.prefix_nil.mp hbegins) (List.cons_ne_nil _ _)

namespace Disk

variable {disk : Disk} {w : Walker} {es : List (String × Node)} {place : List String}

/-! ### A whole walk -/

/-- What is found in a folder keeps the order of its entries. -/
theorem map_fst_walkEntries_sublist (disk : Disk) (w : Walker) (es : List (String × Node))
    (path : String) (place : List String) :
    ((disk.walkEntries w es path place).map Prod.fst).Sublist (es.map Prod.fst) := by
  induction es with
  | nil => exact .slnil
  | cons e rest ih =>
      have hone : ((disk.walkEntries w [e] path place).map Prod.fst).Sublist [e.1] := by
        obtain ⟨name, node⟩ := e
        cases node <;> simp only [walkEntries] <;> split <;> simp
      rw [walkEntries_cons, List.map_append, List.map_cons]
      exact hone.append ih

mutual

theorem exists_blocks_walkNode (disk : Disk) (w : Walker) (es : List (String × Node))
    (path : String) (place : List String) (hwf : (Node.folder es).WellFormed) :
    ∃ blocks, disk.walkNode w (.folder es) path place = blocks.flatMap Block.files ∧
      Block.InOrder path blocks := by
  rw [walkNode]
  obtain ⟨hnodup, hentries⟩ := hwf
  by_cases hreads : disk.reads place = true
  · rw [if_pos hreads]
    exact exists_blocks_assemble
      (hnodup.sublist (map_fst_walkEntries_sublist disk w es path place))
      (isInOrder_walkEntries disk w es path place hentries)
  · rw [if_neg hreads]
    exact ⟨[], rfl, by simp, List.Pairwise.nil⟩

theorem isInOrder_walkEntries (disk : Disk) (w : Walker) (es : List (String × Node))
    (path : String) (place : List String) (hwf : Node.EntriesWellFormed es) :
    ∀ f ∈ disk.walkEntries w es path place, Node.IsName f.1 ∧ f.2.IsInOrder path f.1 := by
  match es with
  | [] => simp [walkEntries]
  | (name, node) :: rest =>
      obtain ⟨hname, hnode, hrest⟩ := hwf
      have hothers := isInOrder_walkEntries disk w rest path place hrest
      rw [walkEntries_cons]
      refine fun f hf => (List.mem_append.mp hf).elim (fun hfirst => ?_) (hothers f)
      cases node with
      | file content =>
          simp only [walkEntries] at hfirst
          split at hfirst
          · obtain rfl := List.mem_singleton.mp hfirst
            exact ⟨hname, rfl⟩
          · exact absurd hfirst List.not_mem_nil
      | link target =>
          simp only [walkEntries] at hfirst
          split at hfirst
          · obtain rfl := List.mem_singleton.mp hfirst
            exact ⟨hname, rfl⟩
          · exact absurd hfirst List.not_mem_nil
      | folder inner =>
          have hinner := exists_blocks_walkNode disk w inner (join path name) (name :: place) hnode
          simp only [walkEntries] at hfirst
          split at hfirst
          · obtain rfl := List.mem_singleton.mp hfirst
            exact ⟨hname, hinner⟩
          · exact absurd hfirst List.not_mem_nil

end

/-- **How a walk is ordered.**  What a walk lists comes in blocks, one for each folder, and the
block of a folder comes before those of the folders beneath it. -/
theorem exists_blocks_of_walk {files : List String} (hdisk : disk.top.WellFormed)
    (hwalk : disk.walk w path = .ok files) :
    ∃ blocks, files = blocks.flatMap Block.files ∧ Block.InOrder path blocks := by
  obtain ⟨place, es, hlocate, hat, hreads⟩ := exists_folder_of_walk hwalk
  rw [walk_eq w hlocate hat, if_pos hreads] at hwalk
  obtain rfl := Except.ok.inj hwalk
  exact exists_blocks_walkNode disk w es path place (hdisk.of_descend hat)

end Disk

end SpokenIndex
