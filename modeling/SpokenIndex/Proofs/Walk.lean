/-
What a walk lists.

An entry beneath a folder that is no folder, so a file or a link that leads to none, is
listed exactly if the walker lists it and enters every folder on the way to it and each of
these can be read, and then it is listed once.  The proof is one induction over the tree,
folder by folder: the entries of a folder contribute the leaves among them and what the
walks of the entered folders list.  Nothing is said there of what a link leads to, so the
walk of a tree with links is no harder than that of one without.

A walker that lists fewer entries and enters the same folders lists them in the same
order: what is left out at a folder is left out after sorting just as well as before.

In a regular tree there are no links, and its leaves are its files.
-/
import SpokenIndex.Disk.Walk
import SpokenIndex.Proofs.Descent
import SpokenIndex.Proofs.Lookup

namespace SpokenIndex

open Node Disk SpokenIndex.Path

/-- Names that lead somewhere from a well-formed node are proper. -/
theorem Node.WellFormed.isName_of_descend {t node : Node} {names : List String}
    (h : t.WellFormed) (hd : t.descend names = some node) : ∀ n ∈ names, IsName n := by
  induction names generalizing t with
  | nil => simp
  | cons n ns ih =>
      cases t with
      | folder es =>
          rw [descend] at hd
          split at hd
          · rename_i sub hl
            obtain ⟨hn, hsub⟩ := entriesWellFormed_iff.mp h.2 _ (mem_of_lookup hl)
            intro m hm
            rcases List.mem_cons.mp hm with rfl | hm
            · exact hn
            · exact ih hsub hd m hm
          · simp at hd
      | file _ => simp [descend] at hd
      | link _ => simp [descend] at hd

theorem Node.WellFormed.of_descend {t node : Node} {names : List String}
    (h : t.WellFormed) (hd : t.descend names = some node) : node.WellFormed := by
  induction names generalizing t with
  | nil =>
      obtain rfl := Option.some.inj hd
      exact h
  | cons n ns ih =>
      cases t with
      | folder es =>
          rw [descend] at hd
          split at hd
          · rename_i sub hl
            exact ih (entriesWellFormed_iff.mp h.2 _ (mem_of_lookup hl)).2 hd
          · simp at hd
      | file _ => simp [descend] at hd
      | link _ => simp [descend] at hd

/-! ### Walkers -/

/-- The walker enters every folder on the way that names lead down from a path, the last name left
out. -/
def Walker.EntersTo (w : Walker) (path : String) (names : List String) : Prop :=
  ∀ before name after, names = before ++ name :: after → after ≠ [] →
    w.enters (under path (before ++ [name])) name = true

/-- The walker that lists only what it is to keep. -/
def Walker.only (w : Walker) (keep : String → Bool) : Walker :=
  { w with lists := fun path => w.lists path && keep path }

namespace Walker

variable {w : Walker} {path name : String} {names : List String}

theorem entersTo_singleton : w.EntersTo path [name] := by
  intro before n after heq hafter
  cases before with
  | nil => exact absurd (List.cons.inj heq).2.symm hafter
  | cons b bs => simpa using (List.cons.inj heq).2

theorem entersTo_cons (hnames : names ≠ []) :
    w.EntersTo path (name :: names) ↔
      w.enters (join path name) name = true ∧ w.EntersTo (join path name) names := by
  constructor
  · intro h
    refine ⟨h [] name names rfl hnames, fun before n after heq hafter => ?_⟩
    exact h (name :: before) n after (by rw [heq]; rfl) hafter
  · intro hgiven before n after heq hafter
    obtain ⟨hfirst, hrest⟩ := hgiven
    cases before with
    | nil =>
        obtain ⟨rfl, rfl⟩ := List.cons.inj heq
        exact hfirst
    | cons b bs =>
        obtain ⟨rfl, heq'⟩ := List.cons.inj heq
        exact hrest bs n after heq' hafter

end Walker

/-! ### Findings -/

namespace Finding

/-- The paths that were found. -/
def paths (f : Finding) : List String :=
  f.file?.toList ++ f.folderFiles

@[simp] theorem paths_file (path : String) : (file path).paths = [path] := rfl

@[simp] theorem paths_folder (files : List String) : (folder files).paths = files := rfl

/-- What is left of a finding when only some paths are kept. -/
def keeping (keep : String → Bool) : Finding → Option Finding
  | .file path => if keep path then some (.file path) else none
  | .folder files => some (.folder (files.filter keep))

end Finding

theorem assemble_perm (findings : List (String × Finding)) :
    (assemble findings).Perm (findings.flatMap fun f => f.2.paths) := by
  rw [assemble, List.filterMap_eq_flatMap_toList]
  exact (List.flatMap_append_perm _ _ _).trans ((sortStable_perm _ findings).flatMap_right _)

theorem mem_assemble {findings : List (String × Finding)} {path : String} :
    path ∈ assemble findings ↔ ∃ f ∈ findings, path ∈ f.2.paths := by
  rw [(assemble_perm findings).mem_iff, List.mem_flatMap]

/-- What is left of named findings when only some paths are kept. -/
def keepAmong (keep : String → Bool) (findings : List (String × Finding)) :
    List (String × Finding) :=
  findings.filterMap fun f => (f.2.keeping keep).map (f.1, ·)

/-- What is kept may be chosen before the findings are put in order. -/
theorem keepAmong_sortStable (keep : String → Bool) (findings : List (String × Finding)) :
    keepAmong keep (sortStable (fun a b => decide (a.1 ≤ b.1)) findings)
      = sortStable (fun a b => decide (a.1 ≤ b.1)) (keepAmong keep findings) := by
  refine filterMap_sortStable ?_ ?_ ?_ findings
  · exact fun a b => by simpa using String.le_total a.1 b.1
  · exact fun a b c => by simpa using String.le_trans
  · intro a b a' b' ha hb
    obtain ⟨_, -, rfl⟩ := Option.map_eq_some_iff.mp ha
    obtain ⟨_, -, rfl⟩ := Option.map_eq_some_iff.mp hb
    rfl

theorem filterMap_file?_keepAmong (keep : String → Bool) (findings : List (String × Finding)) :
    (keepAmong keep findings).filterMap (·.2.file?)
      = (findings.filterMap (·.2.file?)).filter keep := by
  rw [keepAmong, List.filterMap_filterMap, List.filter_filterMap]
  refine List.filterMap_congr fun f _ => ?_
  obtain ⟨name, f⟩ := f
  cases f with
  | file path =>
      by_cases hkeep : keep path = true <;>
        simp [Finding.file?, Finding.keeping, Option.filter, hkeep]
  | folder files => rfl

theorem flatMap_folderFiles_keepAmong (keep : String → Bool) (findings : List (String × Finding)) :
    (keepAmong keep findings).flatMap (·.2.folderFiles)
      = (findings.flatMap (·.2.folderFiles)).filter keep := by
  rw [keepAmong, List.filterMap_eq_flatMap_toList, List.flatMap_assoc, List.filter_flatMap]
  refine List.flatMap_congr fun f _ => ?_
  obtain ⟨name, f⟩ := f
  cases f with
  | file path =>
      by_cases hkeep : keep path = true <;> simp [Finding.folderFiles, Finding.keeping, hkeep]
  | folder files => simp [Finding.folderFiles, Finding.keeping]

/-- Keeping some paths of what was put together is putting together what is kept. -/
theorem filter_assemble (keep : String → Bool) (findings : List (String × Finding)) :
    (assemble findings).filter keep = assemble (keepAmong keep findings) := by
  simp only [assemble]
  rw [List.filter_append, ← keepAmong_sortStable, filterMap_file?_keepAmong,
    flatMap_folderFiles_keepAmong]

/-! ### Leaves -/

namespace Disk

variable {disk : Disk} {w : Walker} {place base names : List String} {es : List (String × Node)}
  {path name listed : String} {node : Node}

/-- What stands at a place is no folder: it is a file, or a link that leads to none. -/
def IsLeaf (disk : Disk) (place : List String) : Prop :=
  match disk.at? place with
  | some (.file _) => True
  | some (.link target) => disk.leadsToFolder place.tail target = false
  | some (.folder _) => False
  | none => False

/-- Every folder on the way that names lead down from a place can be read, the one at the place
included and what stands at the end left out. -/
def ReadsTo (disk : Disk) (place names : List String) : Prop :=
  ∀ before after, names = before ++ after → after ≠ [] →
    disk.reads (before.reverse ++ place) = true

theorem readsTo_nil : disk.ReadsTo place [] := fun _ _ heq hafter =>
  absurd (List.nil_eq_append_iff.mp heq).2 hafter

theorem readsTo_cons :
    disk.ReadsTo place (name :: names) ↔
      disk.reads place = true ∧ disk.ReadsTo (name :: place) names := by
  constructor
  · intro h
    refine ⟨h [] (name :: names) rfl (List.cons_ne_nil _ _), fun before after heq hafter => ?_⟩
    have hreads := h (name :: before) after (by rw [heq]; rfl) hafter
    rwa [List.reverse_cons, List.append_assoc, List.singleton_append] at hreads
  · intro hgiven before after heq hafter
    obtain ⟨hplace, hrest⟩ := hgiven
    cases before with
    | nil => exact hplace
    | cons b bs =>
        obtain ⟨rfl, heq'⟩ := List.cons.inj heq
        rw [List.reverse_cons, List.append_assoc, List.singleton_append]
        exact hrest bs after heq' hafter

/-- A path leads down from another to a leaf that the walker comes to and lists. -/
def Lists (disk : Disk) (w : Walker) (path : String) (place : List String)
    (listed : String) : Prop :=
  ∃ names, disk.IsLeaf (names.reverse ++ place) ∧ disk.ReadsTo place names ∧
    w.EntersTo path names ∧ listed = under path names ∧ w.lists listed = true

/-- A path that is listed and leads through the entry of a given name. -/
def ListsAt (disk : Disk) (w : Walker) (path : String) (place : List String)
    (name listed : String) : Prop :=
  ∃ names, disk.IsLeaf (names.reverse ++ name :: place) ∧ disk.ReadsTo (name :: place) names ∧
    w.EntersTo path (name :: names) ∧ listed = under path (name :: names) ∧
    w.lists listed = true

theorem IsLeaf.at?_isSome (h : disk.IsLeaf place) : ∃ node, disk.at? place = some node := by
  unfold IsLeaf at h
  split at h
  · exact ⟨_, ‹_›⟩
  · exact ⟨_, ‹_›⟩
  · exact h.elim
  · exact h.elim

theorem not_isLeaf_folder (hat : disk.at? place = some (.folder es)) : ¬ disk.IsLeaf place := by
  rw [IsLeaf, hat]
  exact id

/-- What is listed beneath a folder is listed through one of its entries, if the folder can be
read. -/
theorem lists_folder_iff (hat : disk.at? place = some (.folder es)) :
    disk.Lists w path place listed ↔
      disk.reads place = true ∧ ∃ e ∈ es, disk.ListsAt w path place e.1 listed := by
  constructor
  · intro hgiven
    obtain ⟨names, hleaf, hreads, henters, hpath, hlists⟩ := hgiven
    cases names with
    | nil => exact absurd hleaf (not_isLeaf_folder hat)
    | cons n rest =>
        rw [List.reverse_cons, List.append_assoc, List.singleton_append] at hleaf
        obtain ⟨found, hfound⟩ := hleaf.at?_isSome
        obtain ⟨sub, hsub⟩ := at?_of_append hfound
        rw [at?_cons hat] at hsub
        obtain ⟨hplace, hrest⟩ := readsTo_cons.mp hreads
        exact ⟨hplace, (n, sub), mem_of_lookup hsub, rest, hleaf, hrest, henters, hpath, hlists⟩
  · intro hgiven
    obtain ⟨hplace, ⟨n, sub⟩, -, rest, hleaf, hrest, henters, hpath, hlists⟩ := hgiven
    refine ⟨n :: rest, ?_, readsTo_cons.mpr ⟨hplace, hrest⟩, henters, hpath, hlists⟩
    rwa [List.reverse_cons, List.append_assoc, List.singleton_append]

/-- Through an entry that is no folder only the entry itself is listed. -/
theorem listsAt_leaf (hat : disk.at? (name :: place) = some node)
    (hfolder : ∀ es, node ≠ .folder es) :
    disk.ListsAt w path place name listed ↔
      disk.IsLeaf (name :: place) ∧ listed = join path name ∧ w.lists listed = true := by
  constructor
  · intro hgiven
    obtain ⟨names, hleaf, -, -, hpath, hlists⟩ := hgiven
    obtain ⟨found, hfound⟩ := hleaf.at?_isSome
    by_cases hnames : names = []
    · subst hnames
      exact ⟨hleaf, hpath, hlists⟩
    · obtain ⟨es, hes⟩ := at?_above hfound (List.reverse_ne_nil_iff.mpr hnames)
      exact absurd (Option.some.inj (hat.symm.trans hes)) (hfolder es)
  · intro hgiven
    obtain ⟨hleaf, hpath, hlists⟩ := hgiven
    exact ⟨[], hleaf, readsTo_nil, Walker.entersTo_singleton, hpath, hlists⟩

/-- Through a folder that is entered its own walk is listed, and nothing through another. -/
theorem listsAt_folder (hat : disk.at? (name :: place) = some (.folder es)) :
    disk.ListsAt w path place name listed ↔
      w.enters (join path name) name = true ∧
        disk.Lists w (join path name) (name :: place) listed := by
  have hne : ∀ names : List String, disk.IsLeaf (names.reverse ++ name :: place) → names ≠ [] := by
    intro names hleaf heq
    obtain rfl := heq
    exact not_isLeaf_folder hat hleaf
  constructor
  · intro hgiven
    obtain ⟨names, hleaf, hreads, henters, hpath, hlists⟩ := hgiven
    obtain ⟨hfirst, hrest⟩ := (Walker.entersTo_cons (hne names hleaf)).mp henters
    exact ⟨hfirst, names, hleaf, hreads, hrest, hpath, hlists⟩
  · intro hgiven
    obtain ⟨hfirst, names, hleaf, hreads, hrest, hpath, hlists⟩ := hgiven
    have henters := (Walker.entersTo_cons (hne names hleaf)).mpr ⟨hfirst, hrest⟩
    exact ⟨names, hleaf, hreads, henters, hpath, hlists⟩

/-- The entries of a folder stand at the places beneath it. -/
theorem at?_entry (hwf : (Node.folder es).WellFormed) (hat : disk.at? place = some (.folder es)) :
    ∀ e ∈ es, disk.at? (e.1 :: place) = some e.2 ∧ IsName e.1 ∧ e.2.WellFormed := by
  obtain ⟨hnodup, hall⟩ := hwf
  intro e he
  refine ⟨?_, entriesWellFormed_iff.mp hall e he⟩
  rw [at?_cons hat]
  exact lookup_of_mem hnodup he

/-! ### What is listed -/

theorem walkEntries_cons (disk : Disk) (w : Walker) (e : String × Node)
    (rest : List (String × Node)) (path : String) (place : List String) :
    disk.walkEntries w (e :: rest) path place
      = disk.walkEntries w [e] path place ++ disk.walkEntries w rest path place := by
  obtain ⟨name, node⟩ := e
  cases node <;> simp only [walkEntries] <;> split <;> rfl

mutual

theorem mem_walkNode (disk : Disk) (w : Walker) (es : List (String × Node)) (path : String)
    (place : List String) (listed : String) (hwf : (Node.folder es).WellFormed)
    (hat : disk.at? place = some (.folder es)) :
    listed ∈ disk.walkNode w (.folder es) path place ↔ disk.Lists w path place listed := by
  rw [walkNode, lists_folder_iff hat]
  by_cases hreads : disk.reads place = true
  · rw [if_pos hreads, mem_assemble, and_iff_right hreads]
    exact mem_walkEntries disk w es path place listed (at?_entry hwf hat)
  · rw [if_neg hreads]
    simp [hreads]

theorem mem_walkEntries (disk : Disk) (w : Walker) (es : List (String × Node)) (path : String)
    (place : List String) (listed : String)
    (hes : ∀ e ∈ es, disk.at? (e.1 :: place) = some e.2 ∧ IsName e.1 ∧ e.2.WellFormed) :
    (∃ f ∈ disk.walkEntries w es path place, listed ∈ f.2.paths) ↔
      ∃ e ∈ es, disk.ListsAt w path place e.1 listed := by
  match es with
  | [] => simp [walkEntries]
  | (name, node) :: rest =>
      obtain ⟨hat, -, hnode⟩ := hes (name, node) (by simp)
      have hrest := mem_walkEntries disk w rest path place listed
        (fun e he => hes e (List.mem_cons_of_mem _ he))
      rw [walkEntries_cons]
      simp only [List.mem_append, List.mem_cons, or_and_right, exists_or, exists_eq_left]
      refine or_congr ?_ hrest
      cases node with
      | file content =>
          rw [listsAt_leaf hat (by simp), and_iff_right (by rw [IsLeaf, hat]; trivial)]
          by_cases hlists : w.lists (join path name) = true
          · simp only [walkEntries, hlists, ↓reduceIte, List.mem_singleton, exists_eq_left,
              Finding.paths_file]
            exact ⟨fun hp => ⟨hp, hp ▸ hlists⟩, And.left⟩
          · simp only [walkEntries, if_neg hlists, List.not_mem_nil, false_and, exists_false,
              false_iff]
            rintro ⟨rfl, hp⟩
            exact hlists hp
      | link target =>
          have hleaf : disk.IsLeaf (name :: place) ↔ disk.leadsToFolder place target = false := by
            rw [IsLeaf, hat]
            rfl
          rw [listsAt_leaf hat (by simp), hleaf]
          by_cases hlists : (!disk.leadsToFolder place target && w.lists (join path name)) = true
          · simp only [walkEntries, hlists, ↓reduceIte, List.mem_singleton, exists_eq_left,
              Finding.paths_file]
            rw [Bool.and_eq_true, Bool.not_eq_eq_eq_not, Bool.not_true] at hlists
            exact ⟨fun hp => ⟨hlists.1, hp, hp ▸ hlists.2⟩, fun h => h.2.1⟩
          · simp only [walkEntries, if_neg hlists, List.not_mem_nil, false_and, exists_false,
              false_iff]
            rintro ⟨hleads, rfl, hp⟩
            exact hlists (by rw [hleads, hp]; rfl)
      | folder inner =>
          have hinner := mem_walkNode disk w inner (join path name) (name :: place) listed hnode hat
          rw [listsAt_folder hat, ← hinner]
          by_cases henters : w.enters (join path name) name = true
          · simp only [walkEntries, henters, ↓reduceIte, List.mem_singleton, exists_eq_left,
              Finding.paths_folder, true_and]
          · simp only [walkEntries, if_neg henters, List.not_mem_nil, false_and, exists_false,
              false_iff]
            exact fun h => henters h.1

end

/-! ### Once each -/

theorem at?_append (hat : disk.at? place = some node) (way : List String) :
    disk.at? (way ++ place) = node.descend way.reverse := by
  rw [at?] at hat
  rw [at?, List.reverse_append, descend_append, hat, Option.bind_some]

/-- A path is listed through one entry only. -/
theorem ListsAt.name_eq {other : String}
    (hes : ∀ e ∈ es, disk.at? (e.1 :: place) = some e.2 ∧ IsName e.1 ∧ e.2.WellFormed)
    (hname : name ∈ es.map Prod.fst) (hother : other ∈ es.map Prod.fst)
    (h : disk.ListsAt w path place name listed) (h' : disk.ListsAt w path place other listed) :
    name = other := by
  have hproper : ∀ {n : String} {names : List String}, n ∈ es.map Prod.fst →
      disk.IsLeaf (names.reverse ++ n :: place) → ∀ m ∈ n :: names, IsName m := by
    intro n names hn hleaf
    obtain ⟨e, he, rfl⟩ := List.mem_map.mp hn
    obtain ⟨hat, hfirst, hwf⟩ := hes e he
    obtain ⟨found, hfound⟩ := hleaf.at?_isSome
    rw [at?_append hat, List.reverse_reverse] at hfound
    exact List.forall_mem_cons.mpr ⟨hfirst, hwf.isName_of_descend hfound⟩
  obtain ⟨names, hleaf, -, -, hpath, -⟩ := h
  obtain ⟨names', hleaf', -, -, hpath', -⟩ := h'
  have hsame := under_injective (by simp) (by simp) (hproper hname hleaf) (hproper hother hleaf')
    (hpath.symm.trans hpath')
  exact (List.cons.inj hsame).1

mutual

theorem nodup_walkNode (disk : Disk) (w : Walker) (es : List (String × Node)) (path : String)
    (place : List String) (hwf : (Node.folder es).WellFormed)
    (hat : disk.at? place = some (.folder es)) :
    (disk.walkNode w (.folder es) path place).Nodup := by
  rw [walkNode]
  by_cases hreads : disk.reads place = true
  · rw [if_pos hreads, (assemble_perm _).nodup_iff]
    exact nodup_walkEntries disk w es path place hwf.1 (at?_entry hwf hat)
  · rw [if_neg hreads]
    exact List.nodup_nil

theorem nodup_walkEntries (disk : Disk) (w : Walker) (es : List (String × Node)) (path : String)
    (place : List String) (hnodup : (es.map Prod.fst).Nodup)
    (hes : ∀ e ∈ es, disk.at? (e.1 :: place) = some e.2 ∧ IsName e.1 ∧ e.2.WellFormed) :
    ((disk.walkEntries w es path place).flatMap fun f => f.2.paths).Nodup := by
  match es with
  | [] => simp [walkEntries]
  | (name, node) :: rest =>
      obtain ⟨hat, -, hnode⟩ := hes (name, node) (by simp)
      rw [List.map_cons, List.nodup_cons] at hnodup
      have hrest := nodup_walkEntries disk w rest path place hnodup.2
        (fun e he => hes e (List.mem_cons_of_mem _ he))
      rw [walkEntries_cons, List.flatMap_append, List.nodup_append]
      refine ⟨?_, hrest, ?_⟩
      · cases node with
        | file content => simp only [walkEntries]; split <;> simp
        | link target => simp only [walkEntries]; split <;> simp
        | folder inner =>
            have hinner := nodup_walkNode disk w inner (join path name) (name :: place) hnode hat
            simp only [walkEntries]
            split
            · simpa using hinner
            · simp
      · -- What is listed through the first entry is not listed through another.
        intro listed hfirst other hother heq
        obtain rfl := heq
        obtain ⟨e, he, hlists⟩ := (mem_walkEntries disk w [(name, node)] path place listed
          (fun e he => hes e (by simp_all))).mp (List.mem_flatMap.mp hfirst)
        obtain ⟨d, hd, hlists'⟩ := (mem_walkEntries disk w rest path place listed
          (fun e he => hes e (List.mem_cons_of_mem _ he))).mp (List.mem_flatMap.mp hother)
        obtain rfl : e = (name, node) := by simpa using he
        have hname : d.1 ∈ rest.map Prod.fst := List.mem_map_of_mem hd
        have hsame := ListsAt.name_eq hes (by simp) (List.mem_cons_of_mem _ hname) hlists hlists'
        exact hnodup.1 (hsame ▸ hname)

end

/-! ### In the same order -/

mutual

theorem walkNode_only (disk : Disk) (w : Walker) (keep : String → Bool) (node : Node)
    (path : String) (place : List String) :
    disk.walkNode (w.only keep) node path place
      = (disk.walkNode w node path place).filter keep := by
  match node with
  | .folder es =>
      rw [walkNode, walkNode, walkEntries_only]
      by_cases hreads : disk.reads place = true
      · rw [if_pos hreads, if_pos hreads, filter_assemble]
      · rw [if_neg hreads, if_neg hreads, List.filter_nil]
  | .file _ => simp only [walkNode, List.filter_nil]
  | .link _ => simp only [walkNode, List.filter_nil]

theorem walkEntries_only (disk : Disk) (w : Walker) (keep : String → Bool)
    (es : List (String × Node)) (path : String) (place : List String) :
    disk.walkEntries (w.only keep) es path place
      = keepAmong keep (disk.walkEntries w es path place) := by
  match es with
  | [] => rfl
  | (name, node) :: rest =>
      have hrest := walkEntries_only disk w keep rest path place
      rw [walkEntries_cons, walkEntries_cons disk w, keepAmong, List.filterMap_append, ← keepAmong,
        ← keepAmong, hrest]
      refine congrArg (· ++ _) ?_
      have hlists : (w.only keep).lists (join path name)
          = (w.lists (join path name) && keep (join path name)) := rfl
      cases node with
      | file content =>
          simp only [walkEntries, hlists]
          by_cases hkeep : keep (join path name) = true <;>
            cases w.lists (join path name) <;> simp [keepAmong, Finding.keeping, hkeep]
      | link target =>
          simp only [walkEntries, hlists]
          by_cases hkeep : keep (join path name) = true <;>
            cases w.lists (join path name) <;> cases disk.leadsToFolder place target <;>
              simp [keepAmong, Finding.keeping, hkeep]
      | folder inner =>
          have hinner := walkNode_only disk w keep (.folder inner) (join path name) (name :: place)
          have henters : (w.only keep).enters = w.enters := rfl
          simp only [walkEntries, hinner, henters]
          split <;> simp [keepAmong, Finding.keeping]

end

/-! ### A whole walk -/

theorem isFolder_iff :
    disk.isFolder path = true ↔
      ∃ place es, disk.locate true path = .ok place ∧ disk.at? place = some (.folder es) := by
  rw [isFolder, node?]
  cases hlocate : disk.locate true path with
  | error fault => simp
  | ok place =>
      cases hat : disk.at? place with
      | none => simp [hat]
      | some node => cases node <;> simp [hat]

theorem walk_eq (w : Walker) (hlocate : disk.locate true path = .ok place)
    (hat : disk.at? place = some (.folder es)) :
    disk.walk w path = if disk.reads place then .ok (disk.walkNode w (.folder es) path place)
      else .error .forbidden := by
  rw [walk, hlocate]
  simp only [hat]

/-- **What a walk lists.**  A walk of a folder that can be read lists, once each, the leaves beneath
it that its walker lists and comes to. -/
theorem mem_walk (w : Walker) (hlocate : disk.locate true path = .ok place)
    (hat : disk.at? place = some (.folder es)) (hreads : disk.reads place = true)
    (hwf : (Node.folder es).WellFormed) :
    ∃ files, disk.walk w path = .ok files ∧ files.Nodup ∧
      ∀ listed, listed ∈ files ↔ disk.Lists w path place listed :=
  ⟨_, (walk_eq w hlocate hat).trans (if_pos hreads), nodup_walkNode disk w es path place hwf hat,
    fun listed => mem_walkNode disk w es path place listed hwf hat⟩

/-- Proper names lead down to a leaf beneath a folder. -/
theorem IsLeaf.isName (h : disk.IsLeaf (names.reverse ++ place))
    (hat : disk.at? place = some (.folder es)) (hwf : (Node.folder es).WellFormed) :
    names ≠ [] ∧ ∀ n ∈ names, IsName n := by
  refine ⟨?_, ?_⟩
  · rintro rfl
    exact not_isLeaf_folder hat h
  · obtain ⟨found, hfound⟩ := h.at?_isSome
    rw [at?_append hat, List.reverse_reverse] at hfound
    exact hwf.isName_of_descend hfound

/-- Only a folder that can be read can be walked. -/
theorem exists_folder_of_walk {files : List String} (h : disk.walk w path = .ok files) :
    ∃ place es, disk.locate true path = .ok place ∧ disk.at? place = some (.folder es) ∧
      disk.reads place = true := by
  rw [walk] at h
  cases hlocate : disk.locate true path with
  | error fault => simp [hlocate] at h
  | ok place =>
      cases hat : disk.at? place with
      | none => simp [hlocate, hat] at h
      | some node =>
          cases node with
          | folder es =>
              refine ⟨place, es, rfl, hat, ?_⟩
              by_contra hreads
              simp [hlocate, hat, hreads] at h
          | file _ => simp [hlocate, hat] at h
          | link _ => simp [hlocate, hat] at h

/-- What a walk lists lies under its path. -/
theorem exists_under_of_mem_walk {listed : String} {files : List String}
    (hdisk : disk.top.WellFormed) (hwalk : disk.walk w path = .ok files)
    (hlisted : listed ∈ files) :
    ∃ names, names ≠ [] ∧ (∀ n ∈ names, IsName n) ∧ listed = under path names := by
  obtain ⟨place, es, hlocate, hat, hreads⟩ := exists_folder_of_walk hwalk
  have hwf : (Node.folder es).WellFormed := hdisk.of_descend hat
  obtain ⟨files', hwalk', -, hmem⟩ := mem_walk w hlocate hat hreads hwf
  obtain rfl : files' = files := Except.ok.inj (hwalk'.symm.trans hwalk)
  obtain ⟨names, hleaf, -, -, rfl, -⟩ := (hmem listed).mp hlisted
  obtain ⟨hne, hnames⟩ := hleaf.isName hat hwf
  exact ⟨names, hne, hnames, rfl⟩

/-- A walker that lists only what it is to keep lists that in the order of the other walk. -/
theorem walk_only (disk : Disk) (w : Walker) (keep : String → Bool) (path : String) :
    disk.walk (w.only keep) path = (disk.walk w path).map (List.filter keep) := by
  rw [walk, walk]
  cases disk.locate true path with
  | error fault => rfl
  | ok place =>
      cases hat : disk.at? place with
      | none => simp only [hat]; rfl
      | some node =>
          cases node with
          | folder es =>
              simp only [hat, walkNode_only]
              split <;> rfl
          | file _ => simp only [hat]; rfl
          | link _ => simp only [hat]; rfl

/-! ### Regular trees -/

/-- The folders that a walk enters on its way are those between its root and the leaf. -/
theorem entersTo_iff (hplace : ∀ n ∈ names.reverse ++ base, FitsName n) :
    w.EntersTo (placePath base) names ↔ ∀ name folder, Below base (name :: folder) →
      Below (name :: folder) (names.reverse ++ base) →
        w.enters (placePath (name :: folder)) name = true := by
  have hbase : ∀ n ∈ base, IsName n := fun n hn =>
    (hplace n (List.mem_append_right _ hn)).isName
  have hnames : ∀ n ∈ names, IsName n := fun n hn =>
    (hplace n (List.mem_append_left _ (List.mem_reverse.mpr hn))).isName
  constructor
  · intro h name folder hin hout
    obtain ⟨inner, hinner, hfolder⟩ := hin.beneath
    obtain ⟨outer, houter, hrest⟩ := hout.beneath
    obtain ⟨m, above, rfl⟩ := List.exists_cons_of_ne_nil hinner
    obtain ⟨rfl, rfl⟩ := List.cons.inj hfolder
    have hrev : names.reverse = outer ++ name :: above := by
      refine (List.append_left_inj base).mp ?_
      rw [hrest, List.append_assoc]
      rfl
    have hsplit : names = above.reverse ++ name :: outer.reverse := by
      rw [← List.reverse_reverse names, hrev]
      simp
    have hbegins : above.reverse ++ [name] <+: names := ⟨outer.reverse, by rw [hsplit]; simp⟩
    have henters := h above.reverse name outer.reverse hsplit (by simpa using houter)
    rw [under_placePath hbase fun n hn => hnames n (hbegins.subset hn)] at henters
    simpa using henters
  · intro h before name after heq hafter
    obtain rfl := heq
    have hrev : (before ++ name :: after).reverse ++ base
        = after.reverse ++ name :: (before.reverse ++ base) := by simp
    have hbegins : before ++ [name] <+: before ++ name :: after := ⟨after, by simp⟩
    rw [hrev] at hplace
    rw [under_placePath hbase fun n hn => hnames n (hbegins.subset hn), List.reverse_append]
    refine h name (before.reverse ++ base) ⟨fun n hn => ?_, name :: before.reverse, by simp, rfl⟩
      ⟨by rwa [hrev], after.reverse, by simpa using hafter, hrev⟩
    exact hplace n (List.mem_append_right _ hn)

namespace RegularTree

/-- The leaves of a regular tree are its files. -/
theorem isLeaf_iff (h : disk.RegularTree base) (way : List String) :
    disk.IsLeaf (way ++ base) ↔ (disk.fileAt? (way ++ base)).isSome := by
  have hlink := h.unlinked way (way ++ base) (List.suffix_refl _)
  rw [IsLeaf, Disk.fileAt?, Node.fileAt?, ← at?]
  cases hat : disk.at? (way ++ base) with
  | none => simp
  | some node =>
      cases node with
      | file content => simp
      | link target => exact absurd hat (hlink target)
      | folder es => simp

/-- **What a walk over a regular tree lists.**  It lists the files of the tree that its walker lists
and comes to. -/
theorem mem_walk (h : disk.RegularTree base) (w : Walker) :
    ∃ files, disk.walk w (placePath base) = .ok files ∧
      ∀ path, path ∈ files ↔ ∃ place, Below base place ∧ (disk.fileAt? place).isSome ∧
        (∀ name folder, Below base (name :: folder) → Below (name :: folder) place →
          w.enters (placePath (name :: folder)) name = true) ∧
        path = placePath place ∧ w.lists path = true := by
  obtain ⟨es, hes, hregular⟩ := h.folder
  obtain ⟨top, htop⟩ := h.top
  have hlocate : disk.locate true (placePath base) = .ok base :=
    locate_placePath h.fits htop (h.unlinked []) hes
  obtain ⟨files, hwalk, -, hmem⟩ :=
    Disk.mem_walk w hlocate hes (h.reads []) hregular.wellFormed
  have hbase : ∀ n ∈ base, IsName n := fun n hn => (h.fits n hn).isName
  refine ⟨files, hwalk, fun path => (hmem path).trans ?_⟩
  constructor
  · intro hgiven
    obtain ⟨names, hleaf, -, henters, hpath, hlists⟩ := hgiven
    obtain ⟨found, hfound⟩ := hleaf.at?_isSome
    rw [Disk.at?_append hes, List.reverse_reverse] at hfound
    have hnames := hregular.fitsName_of_descend hfound
    have hfits : ∀ n ∈ names.reverse ++ base, FitsName n := by
      intro n hn
      rcases List.mem_append.mp hn with hn | hn
      · exact hnames n (List.mem_reverse.mp hn)
      · exact h.fits n hn
    have hne : names.reverse ≠ [] := by
      rw [List.reverse_ne_nil_iff]
      intro heq
      obtain rfl := heq
      exact not_isLeaf_folder hes hleaf
    rw [under_placePath hbase fun n hn => (hnames n hn).isName] at hpath
    exact ⟨names.reverse ++ base, ⟨hfits, _, hne, rfl⟩, (h.isLeaf_iff _).mp hleaf,
      (entersTo_iff hfits).mp henters, hpath, hlists⟩
  · intro hgiven
    obtain ⟨place, hplace, hsome, henters, hpath, hlists⟩ := hgiven
    obtain ⟨way, hway, rfl⟩ := hplace.beneath
    have hrev : way = way.reverse.reverse := way.reverse_reverse.symm
    have hnames : ∀ n ∈ way.reverse, IsName n := fun n hn =>
      (hplace.fits n (List.mem_append_left _ (List.mem_reverse.mp hn))).isName
    rw [hrev] at hsome henters hpath
    refine ⟨way.reverse, (h.isLeaf_iff _).mpr hsome, fun _ _ _ _ => h.reads _, ?_, ?_, hlists⟩
    · exact (entersTo_iff (by rw [← hrev]; exact hplace.fits)).mpr henters
    · rw [under_placePath hbase hnames]
      exact hpath

end RegularTree

end Disk

end SpokenIndex
