/-
Looking up a place in a tree of regular files.

A tree is regular on a disk if its root is a real folder and everything beneath it is
regular; what the rest of the disk holds does not matter.  On such a tree looking up
a path is reading the tree at the names of the path, since there is no link to
follow.  Writing or removing one file leaves the tree regular and every other file
as it was, which is what an index is told by an event.
-/
import SpokenIndex.Proofs.Place
import SpokenIndex.Proofs.Tree

namespace SpokenIndex.Disk

open SpokenIndex.Node

variable {disk : Disk} {place base way here names : List String} {node : Node}

theorem at?_cons {name : String} (h : disk.at? here = some node) :
    disk.at? (name :: here) = lookup name node.entries := by
  rw [at?] at h
  rw [at?, List.reverse_cons, descend_append, h, Option.bind_some]
  cases node with
  | folder es =>
      simp only [descend, entries]
      cases lookup name es <;> rfl
  | file _ => rfl
  | link _ => rfl

/-- The folder above a place that leads somewhere. -/
theorem at?_tail {name : String} (h : disk.at? (name :: here) = some node) :
    ∃ es, disk.at? here = some (.folder es) ∧ lookup name es = some node := by
  rw [at?, List.reverse_cons, descend_append] at h
  obtain ⟨above, habove, hname⟩ := Option.bind_eq_some_iff.mp h
  cases above with
  | folder es =>
      refine ⟨es, habove, ?_⟩
      simp only [descend] at hname
      cases hl : lookup name es with
      | none => simp [hl] at hname
      | some sub => simpa [hl, descend] using hname
  | file _ => simp [descend] at hname
  | link _ => simp [descend] at hname

/-- What stands above a place that leads somewhere is a folder. -/
theorem at?_above (h : disk.at? (way ++ here) = some node) (hway : way ≠ []) :
    ∃ es, disk.at? here = some (.folder es) := by
  induction way generalizing node with
  | nil => exact absurd rfl hway
  | cons n rest ih =>
      obtain ⟨es, habove, -⟩ := at?_tail h
      by_cases hrest : rest = []
      · subst hrest
        exact ⟨es, habove⟩
      · exact ih habove hrest

theorem at?_of_append (h : disk.at? (way ++ here) = some node) :
    ∃ above, disk.at? here = some above := by
  by_cases hway : way = []
  · subst hway
    exact ⟨node, h⟩
  · obtain ⟨es, hes⟩ := at?_above h hway
    exact ⟨_, hes⟩

/-! ### Following names without links -/

/-- No link stands on the way to a place, nor at it. -/
def Unlinked (disk : Disk) (place : List String) : Prop :=
  ∀ s, s <:+ place → ∀ target, disk.at? s ≠ some (.link target)

theorem locateFrom_blank {follow : Bool} {links : Nat} {rest : List String}
    {es : List (String × Node)} (h : disk.at? here = some (.folder es)) :
    disk.locateFrom follow links here ("" :: rest) = disk.locateFrom follow links here rest := by
  rw [locateFrom, h]
  simp [Node.isFolder]

/-- One name down, where the name is not that of a link. -/
theorem locateFrom_down {follow : Bool} {links : Nat} {name : String} {rest : List String}
    (hname : FitsName name) (h : disk.at? (name :: here) = some node)
    (hlink : ∀ target, node ≠ .link target) :
    disk.locateFrom follow links here (name :: rest)
      = disk.locateFrom follow links (name :: here) rest := by
  obtain ⟨hempty, hdot, hdots, -⟩ := hname.isName
  have hshort : ¬ name.utf8ByteSize > nameLimit := Nat.not_lt.mpr hname.short
  obtain ⟨es, habove, hl⟩ := at?_tail h
  rw [locateFrom, habove]
  simp only [Node.isFolder, Bool.not_true, Bool.false_eq_true, ↓reduceIte, entries,
    if_neg (not_or.mpr ⟨hempty, hdot⟩), if_neg hdots, if_neg hshort]
  split
  · rename_i hnone
    simp [hl] at hnone
  · rename_i target htarget
    exact absurd (Option.some.inj (hl.symm.trans htarget)) (hlink target)
  · rfl

theorem locateFrom_stuck {follow : Bool} {links : Nat} {name : String} {rest : List String}
    (hname : FitsName name) (habove : disk.at? here = some node)
    (h : disk.at? (name :: here) = none) :
    ∃ fault, disk.locateFrom follow links here (name :: rest) = .error fault := by
  obtain ⟨hempty, hdot, hdots, -⟩ := hname.isName
  have hshort : ¬ name.utf8ByteSize > nameLimit := Nat.not_lt.mpr hname.short
  rw [at?_cons habove] at h
  rw [locateFrom, habove]
  cases node with
  | folder es =>
      simp only [Node.isFolder, Bool.not_true, Bool.false_eq_true, ↓reduceIte, entries,
        if_neg (not_or.mpr ⟨hempty, hdot⟩), if_neg hdots, if_neg hshort] at h ⊢
      split
      · exact ⟨_, rfl⟩
      all_goals
        rename_i hsome
        simp [h] at hsome
  | file _ => exact ⟨_, rfl⟩
  | link _ => exact ⟨_, rfl⟩

theorem locateFrom_names {follow : Bool} {links : Nat} (hfits : ∀ n ∈ names, FitsName n)
    (hreal : disk.Unlinked (names.reverse ++ here))
    (h : disk.at? (names.reverse ++ here) = some node) :
    disk.locateFrom follow links here names = .ok (names.reverse ++ here) := by
  induction names generalizing here with
  | nil => rw [locateFrom]; rfl
  | cons n rest ih =>
      rw [List.reverse_cons, List.append_assoc, List.singleton_append] at h hreal ⊢
      obtain ⟨sub, hsub⟩ := at?_of_append h
      have hlink : ∀ target, sub ≠ .link target := by
        intro target heq
        obtain rfl := heq
        exact hreal _ (List.suffix_append _ _) target hsub
      rw [locateFrom_down (hfits n (by simp)) hsub hlink]
      exact ih (fun m hm => hfits m (List.mem_cons_of_mem _ hm)) hreal h

theorem locateFrom_error {follow : Bool} {links : Nat} {start : Node}
    (hfits : ∀ n ∈ names, FitsName n) (hreal : disk.Unlinked (names.reverse ++ here))
    (hstart : disk.at? here = some start) (h : disk.at? (names.reverse ++ here) = none) :
    ∃ fault, disk.locateFrom follow links here names = .error fault := by
  induction names generalizing here start with
  | nil => exact absurd (hstart.symm.trans h) (by simp)
  | cons n rest ih =>
      rw [List.reverse_cons, List.append_assoc, List.singleton_append] at h hreal
      have hfit : FitsName n := hfits n (by simp)
      cases hsub : disk.at? (n :: here) with
      | none => exact locateFrom_stuck hfit hstart hsub
      | some sub =>
          have hlink : ∀ target, sub ≠ .link target := by
            intro target heq
            obtain rfl := heq
            exact hreal _ (List.suffix_append _ _) target hsub
          rw [locateFrom_down hfit hsub hlink]
          exact ih (fun m hm => hfits m (List.mem_cons_of_mem _ hm)) hreal hsub h

/-- A place that stands for itself: its names are proper, and none is that of a link. -/
structure IsReal (disk : Disk) (place : List String) : Prop where
  isName : ∀ n ∈ place, IsName n
  not_link : ∀ n above, n :: above <:+ place → ∀ target, disk.at? (n :: above) ≠ some (.link target)

theorem Unlinked.isReal (h : disk.Unlinked place) (hnames : ∀ n ∈ place, IsName n) :
    disk.IsReal place :=
  ⟨hnames, fun _ _ hsuffix => h _ hsuffix⟩

/-- Names that meet no link are followed as they are. -/
theorem resolveFrom_names {opened : List (List String)}
    (hreal : disk.IsReal (names.reverse ++ here)) :
    disk.resolveFrom opened here names = .ok (names.reverse ++ here) := by
  induction names generalizing here with
  | nil => rw [resolveFrom]; rfl
  | cons n rest ih =>
      rw [List.reverse_cons, List.append_assoc, List.singleton_append] at hreal ⊢
      obtain ⟨hempty, hdot, hdots, -⟩ := hreal.isName n (by simp)
      have hlink := hreal.not_link n here (List.suffix_append rest.reverse (n :: here))
      rw [resolveFrom, if_neg (not_or.mpr ⟨hempty, hdot⟩), if_neg hdots]
      split
      · rename_i target hat
        exact absurd hat (hlink target)
      · exact ih hreal

/-! ### The path of a place -/

theorem steps_placePath (h : ∀ n ∈ place, IsName n) :
    steps (placePath place) = "" :: if place = [] then [""] else place.reverse := by
  have hcut : ∀ s, Text.splitAt '/' ('/' :: s) = [] :: Text.splitAt '/' s := fun s => rfl
  rw [steps, Text.fields, placePath_toList, Path.render, List.singleton_append, hcut]
  by_cases hne : place = []
  · subst hne
    rfl
  · have hcomp := components_of_names h
    rw [if_neg hne, Text.splitAt_joinWith (fun n hn => (hcomp n hn).no_slash) (by simpa using hne)]
    simp

variable {es : List (String × Node)}

theorem locate_placePath {follow : Bool} (hfits : ∀ n ∈ place, FitsName n)
    (htop : disk.top = .folder es) (hreal : disk.Unlinked place)
    (h : disk.at? place = some node) : disk.locate follow (placePath place) = .ok place := by
  have hroot : disk.at? [] = some (.folder es) := by rw [at?, htop]; rfl
  rw [locate, steps_placePath fun n hn => (hfits n hn).isName, locateFrom_blank hroot]
  by_cases hne : place = []
  · subst hne
    rw [if_pos rfl, locateFrom_blank hroot, locateFrom]
  · have hrev : place.reverse.reverse ++ [] = place := by simp
    have hnames : disk.locateFrom follow linkLimit [] place.reverse
        = .ok (place.reverse.reverse ++ []) :=
      locateFrom_names (fun n hn => hfits n (List.mem_reverse.mp hn)) (by rwa [hrev])
        (by rwa [hrev])
    rw [if_neg hne, hnames, hrev]

theorem locate_placePath_error (follow : Bool) (hfits : ∀ n ∈ place, FitsName n)
    (htop : disk.top = .folder es) (hreal : disk.Unlinked place) (h : disk.at? place = none) :
    ∃ fault, disk.locate follow (placePath place) = .error fault := by
  have hroot : disk.at? [] = some (.folder es) := by rw [at?, htop]; rfl
  have hne : place ≠ [] := by
    intro heq
    obtain rfl := heq
    simp [hroot] at h
  have hrev : place.reverse.reverse ++ [] = place := by simp
  rw [locate, steps_placePath fun n hn => (hfits n hn).isName, locateFrom_blank hroot, if_neg hne]
  exact locateFrom_error (fun n hn => hfits n (List.mem_reverse.mp hn)) (by rwa [hrev]) hroot
    (by rwa [hrev])

theorem namesOf_placePath (h : ∀ n ∈ place, IsName n) :
    namesOf (placePath place) = place.reverse := by
  have hkeep : ∀ n ∈ place.reverse, (n ≠ "" && n ≠ ".") = true := by
    intro n hn
    obtain ⟨hempty, hdot, -, -⟩ := h n (List.mem_reverse.mp hn)
    simp [hempty, hdot]
  rw [namesOf, steps_placePath h]
  by_cases hne : place = []
  · subst hne
    rfl
  · rw [if_neg hne, List.filter_cons_of_neg (by simp), List.filter_eq_self.mpr hkeep]

theorem realPlace_placePath (h : disk.IsReal place) :
    disk.realPlace (placePath place) = .ok place := by
  have hrev : place.reverse.reverse ++ [] = place := by simp
  rw [realPlace, namesOf_placePath h.isName, resolveFrom_names (by rwa [hrev]), hrev]

theorem realNames_placePath (h : disk.IsReal place) : disk.realNames (placePath place) = place := by
  rw [realNames, realPlace_placePath h]

/-! ### Regular trees -/

/-- The root of a tree is a real folder, and everything beneath it is regular and can be read. -/
structure RegularTree (disk : Disk) (base : List String) : Prop where
  fits : ∀ n ∈ base, FitsName n
  folder : ∃ es, disk.at? base = some (.folder es) ∧ (Node.folder es).Regular
  reads : ∀ way : List String, disk.reads (way ++ base) = true

/-- A place strictly beneath the root of a tree. -/
structure Below (base place : List String) : Prop where
  fits : ∀ n ∈ place, FitsName n
  beneath : ∃ way, way ≠ [] ∧ place = way ++ base

/-- The bytes of the file at a place, links not followed. -/
def fileAt? (disk : Disk) (place : List String) : Option ByteArray :=
  disk.top.fileAt? place.reverse

/-- Which folders can be read is not changed by removing something. -/
theorem reads_remove (disk : Disk) (path : String) (place : List String) :
    (disk.remove path).reads place = disk.reads place := by
  rw [Disk.remove]
  split <;> rfl

namespace RegularTree

theorem top (h : disk.RegularTree base) : ∃ es, disk.top = .folder es := by
  obtain ⟨es, hes, -⟩ := h.folder
  by_cases hbase : base = []
  · subst hbase
    exact ⟨es, Option.some.inj hes⟩
  · have hes' : disk.at? (base ++ []) = some (.folder es) := by rwa [List.append_nil]
    obtain ⟨top, htop⟩ := at?_above hes' hbase
    exact ⟨top, Option.some.inj htop⟩

/-- A place at or beneath the root is read in the tree. -/
theorem at?_append (h : disk.RegularTree base) :
    ∃ es, (Node.folder es).Regular ∧
      ∀ way, disk.at? (way ++ base) = (Node.folder es).descend way.reverse := by
  obtain ⟨es, hes, hregular⟩ := h.folder
  refine ⟨es, hregular, fun way => ?_⟩
  rw [at?] at hes
  rw [at?, List.reverse_append, descend_append, hes, Option.bind_some]

/-- No link stands on the way to a place at or beneath the root. -/
theorem unlinked (h : disk.RegularTree base) (way : List String) :
    disk.Unlinked (way ++ base) := by
  intro s hs target htarget
  rcases List.suffix_or_suffix_of_suffix hs (List.suffix_append way base) with hin | ⟨w, rfl⟩
  · obtain ⟨es, hes, -⟩ := h.folder
    obtain ⟨above, rfl⟩ := hin
    by_cases habove : above = []
    · subst habove
      simp [htarget] at hes
    · obtain ⟨es', hes'⟩ := at?_above hes habove
      simp [htarget] at hes'
  · obtain ⟨es, hregular, hat⟩ := h.at?_append
    rw [hat] at htarget
    exact not_regular_link target (hregular.of_descend htarget)

theorem node?_eq (h : disk.RegularTree base) (hplace : Below base place)
    (hat : disk.at? place = some node) : disk.node? (placePath place) = .ok node := by
  obtain ⟨es, htop⟩ := h.top
  obtain ⟨way, -, rfl⟩ := hplace.beneath
  rw [node?, locate_placePath hplace.fits htop (h.unlinked way) hat]
  simp only [hat]

theorem node?_error (h : disk.RegularTree base) (hplace : Below base place)
    (hat : disk.at? place = none) : ∃ fault, disk.node? (placePath place) = .error fault := by
  obtain ⟨es, htop⟩ := h.top
  obtain ⟨way, -, rfl⟩ := hplace.beneath
  obtain ⟨fault, hfault⟩ := locate_placePath_error true hplace.fits htop
    (h.unlinked way) hat
  exact ⟨fault, by rw [node?, hfault]⟩

/-! ### One file written or removed -/

variable {content : ByteArray}

theorem write_top (h : disk.RegularTree base) (hplace : Below base place) :
    (disk.write (placePath place) content).top
      = Node.put (.file content) place.reverse disk.top := by
  obtain ⟨es, htop⟩ := h.top
  obtain ⟨way, -, rfl⟩ := hplace.beneath
  have hreal := h.unlinked way
  rw [write, Disk.place]
  cases hat : disk.at? (way ++ base) with
  | none =>
      obtain ⟨fault, hfault⟩ := locate_placePath_error true hplace.fits htop hreal hat
      have hself := hreal.isReal fun n hn => (hplace.fits n hn).isName
      simp only [hfault, realNames_placePath hself]
  | some node => simp only [locate_placePath hplace.fits htop hreal hat]

theorem remove_top (h : disk.RegularTree base) (hplace : Below base place)
    (hat : disk.at? place = some node) :
    (disk.remove (placePath place)).top = Node.remove place.reverse disk.top := by
  obtain ⟨es, htop⟩ := h.top
  obtain ⟨way, -, rfl⟩ := hplace.beneath
  rw [remove, locate_placePath hplace.fits htop (h.unlinked way) hat]

theorem write (h : disk.RegularTree base) (hplace : Below base place) :
    (disk.write (placePath place) content).RegularTree base := by
  refine ⟨h.fits, ?_, h.reads⟩
  obtain ⟨es, hes, hregular⟩ := h.folder
  obtain ⟨way, hway, rfl⟩ := hplace.beneath
  have hput := descend_put_append (.file content) way.reverse hes
  have hfits : ∀ n ∈ way.reverse, FitsName n := fun n hn =>
    hplace.fits n (List.mem_append_left _ (List.mem_reverse.mp hn))
  have hnew := hregular.put hfits (regular_file content)
  obtain ⟨n, ns, hrev⟩ := List.exists_cons_of_ne_nil (List.reverse_ne_nil_iff.mpr hway)
  rw [at?, h.write_top hplace, List.reverse_append, hput]
  rw [hrev, put_cons_folder] at hnew ⊢
  exact ⟨_, rfl, hnew⟩

theorem remove (h : disk.RegularTree base) (hplace : Below base place)
    (hat : disk.at? place = some node) : (disk.remove (placePath place)).RegularTree base := by
  refine ⟨h.fits, ?_, fun way => (reads_remove disk _ _).trans (h.reads way)⟩
  obtain ⟨es, hes, hregular⟩ := h.folder
  obtain ⟨way, hway, rfl⟩ := hplace.beneath
  have hremove := descend_remove_append hes (List.reverse_ne_nil_iff.mpr hway)
  have hnew := hregular.remove way.reverse
  obtain ⟨es', hes'⟩ := remove_folder way.reverse es
  rw [at?, h.remove_top hplace hat, List.reverse_append, hremove, hes']
  exact ⟨es', rfl, hes' ▸ hnew⟩

/-- Writing a file where no folder is changes that file only. -/
theorem fileAt?_write_of_ne (h : disk.RegularTree base) (hplace : Below base place)
    (hfolder : ∀ es, disk.at? place ≠ some (.folder es)) {other : List String}
    (hne : other ≠ place) :
    (disk.write (placePath place) content).fileAt? other = disk.fileAt? other := by
  rw [fileAt?, h.write_top hplace]
  exact fileAt?_put_of_ne hfolder (fun hc => hne (List.reverse_injective hc))

theorem fileAt?_write_self (h : disk.RegularTree base) (hplace : Below base place)
    (hfile : (disk.fileAt? place).isSome) :
    (disk.write (placePath place) content).fileAt? place = some content := by
  obtain ⟨old, hold⟩ := Option.isSome_iff_exists.mp hfile
  rw [fileAt?, h.write_top hplace]
  exact fileAt?_put_self hold

theorem fileAt?_remove (h : disk.RegularTree base) (hplace : Below base place)
    (hfile : disk.fileAt? place = some content) (other : List String) :
    (disk.remove (placePath place)).fileAt? other
      = if other = place then none else disk.fileAt? other := by
  have hne : place.reverse ≠ [] := by
    obtain ⟨way, hway, rfl⟩ := hplace.beneath
    simp [hway]
  rw [fileAt?, h.remove_top hplace (fileAt?_eq_some_iff.mp hfile),
    Node.fileAt?_remove hne hfile]
  by_cases hother : other = place
  · rw [if_pos (by rw [hother]), if_pos hother]
  · rw [if_neg (fun hc => hother (List.reverse_injective hc)), if_neg hother]
    rfl

end RegularTree

end SpokenIndex.Disk
