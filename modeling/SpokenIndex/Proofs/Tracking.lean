/-
Which files are listed, and which are reported.

A listing walks the tree and passes over excluded folders; a report about a file looks
at the path of the file alone.  Both ask the same question of the file, but only the
walk asks about the folders on the way.  So every listed file is reported, and a file
that is reported but not listed lies beneath an excluded folder without being excluded
itself.  Such files exist: a glob that ends in a slash matches folders only.
-/
import SpokenIndex.Index.Tracking
import SpokenIndex.Proofs.Walk

namespace SpokenIndex

open Disk

/-- A folder is known as such by its path. -/
theorem Disk.RegularTree.isFolder_root {disk : Disk} {base : List String}
    (h : disk.RegularTree base) : disk.isFolder (placePath base) = true := by
  obtain ⟨es, hes, -⟩ := h.folder
  obtain ⟨top, htop⟩ := h.top
  rw [isFolder, node?, locate_placePath h.fits htop (h.unlinked []) hes]
  simp only [hes]

namespace Tracking

variable {t : Tracking} {disk : Disk} {base place : List String}

/-- No folder strictly between the root and a place is passed over. -/
def ComesTo (t : Tracking) (base place : List String) : Prop :=
  ∀ folder, Below base folder → Below folder place → t.passesOverStart (placePath folder) = false

/-- The creation of a file is passed on. -/
def ReportsCreation (t : Tracking) (disk : Disk) (path : String) : Prop :=
  .call ⟨.create, path⟩ ∈ t.deliveries disk (.created path false)

theorem reportsCreation_iff (disk : Disk) {path : String} :
    t.ReportsCreation disk path ↔ t.tracks path = true := by
  rw [ReportsCreation, deliveries, if_neg Bool.false_ne_true, callIfTracked]
  split <;> simp_all

/-- Below the root, a folder is passed over for its path and never for its name. -/
theorem passesOver_eq (hroot : t.root = placePath base) {folder : List String}
    (hfolder : Below base folder) (name : String) :
    t.passesOver (placePath folder) name = t.passesOverStart (placePath folder) := by
  obtain ⟨way, hway, rfl⟩ := hfolder.beneath
  have hnames : ∀ n ∈ way ++ base, Node.IsName n := fun n hn => (hfolder.fits n hn).isName
  have hrel := relative?_placePath (fun n hn => hnames n (List.mem_append_right _ hn))
    (fun n hn => hnames n (List.mem_append_left _ hn)) hway
  rw [passesOver, passesOverStart, hroot, hrel]
  rfl

theorem passesOverStart_root (h : disk.RegularTree base) (hroot : t.root = placePath base) :
    t.passesOverStart (placePath base) = false := by
  rw [passesOverStart, hroot, relative?_placePath_self fun n hn => (h.fits n hn).isName]
  rfl

theorem walker_lists (path : String) : t.walker.lists path = t.tracks path := by
  rw [walker]

/-- **What a listing holds.**  A regular tree can be listed, and the listing holds the tracked
files that the walk comes to. -/
theorem mem_enumerate (h : disk.RegularTree base) (hroot : t.root = placePath base) :
    ∃ files, t.enumerate disk = .ok files ∧
      ∀ path, path ∈ files ↔ ∃ place, Below base place ∧ (disk.fileAt? place).isSome ∧
        path = placePath place ∧ t.tracks path = true ∧ t.ComesTo base place := by
  obtain ⟨files, hwalk, hmem⟩ := h.mem_walk t.walker
  refine ⟨files, ?_, fun path => ?_⟩
  · have hstart := passesOverStart_root h hroot
    rw [enumerate, hroot, if_pos h.isFolder_root, filesBeneath, hwalk]
    simp only [hstart, Bool.false_eq_true, ↓reduceIte]
  · rw [hmem]
    refine exists_congr fun place => ?_
    have henters : (∀ name folder, Below base (name :: folder) → Below (name :: folder) place →
        t.walker.enters (placePath (name :: folder)) name = true) ↔ t.ComesTo base place := by
      constructor
      · intro hall folder hin hout
        obtain ⟨way, hway, heq⟩ := hin.beneath
        obtain ⟨name, above, rfl⟩ := List.exists_cons_of_ne_nil hway
        subst heq
        have hname := hall name (above ++ base) hin hout
        rw [walker, Bool.not_eq_true'] at hname
        exact (passesOver_eq hroot hin name).symm.trans hname
      · intro hall name folder hin hout
        rw [walker, Bool.not_eq_true', passesOver_eq hroot hin]
        exact hall _ hin hout
    rw [henters, walker_lists]
    constructor
    · intro hgiven
      obtain ⟨hplace, hfile, hcomes, hpath, htracks⟩ := hgiven
      exact ⟨hplace, hfile, hpath, htracks, hcomes⟩
    · intro hgiven
      obtain ⟨hplace, hfile, hpath, htracks, hcomes⟩ := hgiven
      exact ⟨hplace, hfile, hcomes, hpath, htracks⟩

/-- A file is in the listing exactly if it is tracked and the walk comes to it. -/
theorem placePath_mem_enumerate (h : disk.RegularTree base) (hroot : t.root = placePath base)
    (hplace : Below base place) (hfile : (disk.fileAt? place).isSome) {files : List String}
    (hfiles : t.enumerate disk = .ok files) :
    placePath place ∈ files ↔ t.tracks (placePath place) = true ∧ t.ComesTo base place := by
  obtain ⟨listed, hlisted, hmem⟩ := mem_enumerate h hroot
  obtain rfl := Except.ok.inj (hlisted.symm.trans hfiles)
  rw [hmem]
  constructor
  · intro hgiven
    obtain ⟨other, hother, -, hpath, htracks, hcomes⟩ := hgiven
    obtain rfl := placePath_injective (fun n hn => (hplace.fits n hn).isName)
      (fun n hn => (hother.fits n hn).isName) hpath
    exact ⟨htracks, hcomes⟩
  · intro hgiven
    obtain ⟨htracks, hcomes⟩ := hgiven
    exact ⟨place, hplace, hfile, rfl, htracks, hcomes⟩

/-- **Where a listing and its reports agree.**  A file of the tree is listed exactly if its
creation is reported and no folder between the root and the file is passed over.  So the two
agree on a file unless it is reported and lies beneath a folder that is passed over. -/
theorem listed_iff_reported_and_comesTo (h : disk.RegularTree base)
    (hroot : t.root = placePath base) (hplace : Below base place)
    (hfile : (disk.fileAt? place).isSome) :
    ∃ files, t.enumerate disk = .ok files ∧
      (placePath place ∈ files ↔
        t.ReportsCreation disk (placePath place) ∧ t.ComesTo base place) ∧
      ((placePath place ∈ files ↔ t.ReportsCreation disk (placePath place)) ↔
        (t.ReportsCreation disk (placePath place) → t.ComesTo base place)) := by
  obtain ⟨files, hfiles, -⟩ := mem_enumerate h hroot
  have hmem := placePath_mem_enumerate h hroot hplace hfile hfiles
  rw [← reportsCreation_iff disk] at hmem
  refine ⟨files, hfiles, hmem, fun hagree hreport => ?_, fun hcomes => ⟨fun hlisted => ?_, ?_⟩⟩
  · exact (hmem.mp (hagree.mpr hreport)).2
  · exact (hmem.mp hlisted).1
  · exact fun hreport => hmem.mpr ⟨hreport, hcomes hreport⟩

/-- A tree with one file, in the folder `build`. -/
def oneBuiltFile : Disk where
  top := .folder [("r", .folder [("build", .folder [("a.ts", .file .empty)])])]

/-- Typescript files without those that an exclude glob names. -/
def scriptsWithout (exclude : String) : Tracking := ⟨"/r", "**/*.ts", some exclude⟩

theorem oneBuiltFile_regular : oneBuiltFile.RegularTree ["r"] :=
  ⟨by decide, ⟨[("build", .folder [("a.ts", .file .empty)])], rfl, by decide⟩,
    fun _ => rfl⟩

theorem below_builtFile : Below ["r"] ["a.ts", "build", "r"] :=
  ⟨by decide, ["a.ts", "build"], by simp, rfl⟩

/-- The exclude glob of all that a folder holds covers the folder and its files alike. -/
theorem listed_iff_reported_and_comesTo_one :
    oneBuiltFile.RegularTree ["r"] ∧ (scriptsWithout "lib/**").root = placePath ["r"] ∧
      Below ["r"] ["a.ts", "build", "r"] ∧ (oneBuiltFile.fileAt? ["a.ts", "build", "r"]).isSome ∧
      ∃ files, (scriptsWithout "lib/**").enumerate oneBuiltFile = .ok files ∧
        (placePath ["a.ts", "build", "r"] ∈ files ↔
          (scriptsWithout "lib/**").ReportsCreation oneBuiltFile
              (placePath ["a.ts", "build", "r"]) ∧
            (scriptsWithout "lib/**").ComesTo ["r"] ["a.ts", "build", "r"]) := by
  obtain ⟨files, hfiles, hmem, -⟩ := listed_iff_reported_and_comesTo (t := scriptsWithout "lib/**")
    oneBuiltFile_regular (by decide) below_builtFile rfl
  exact ⟨oneBuiltFile_regular, by decide, below_builtFile, rfl, files, hfiles, hmem⟩

/-- The exclude glob `build/` matches the folder but not the file in it: the file is not listed,
and its creation is reported. -/
theorem reported_not_listed :
    oneBuiltFile.RegularTree ["r"] ∧ (oneBuiltFile.fileAt? ["a.ts", "build", "r"]).isSome ∧
      ∃ files, (scriptsWithout "build/").enumerate oneBuiltFile = .ok files ∧
        ¬ (placePath ["a.ts", "build", "r"] ∈ files ↔
          (scriptsWithout "build/").ReportsCreation oneBuiltFile
            (placePath ["a.ts", "build", "r"])) := by
  obtain ⟨files, hfiles, -⟩ := mem_enumerate (t := scriptsWithout "build/")
    oneBuiltFile_regular (by decide)
  refine ⟨oneBuiltFile_regular, rfl, files, hfiles, fun hagree => ?_⟩
  have hreport : (scriptsWithout "build/").ReportsCreation oneBuiltFile
      (placePath ["a.ts", "build", "r"]) :=
    (reportsCreation_iff oneBuiltFile).mpr (by decide +kernel)
  obtain ⟨-, hcomes⟩ := (placePath_mem_enumerate oneBuiltFile_regular (by decide)
    below_builtFile rfl hfiles).mp (hagree.mpr hreport)
  have hpassed := hcomes ["build", "r"] ⟨by decide, ["build"], by simp, rfl⟩
    ⟨by decide, ["a.ts"], by simp, rfl⟩
  exact absurd hpassed (by decide +kernel)

end Tracking

end SpokenIndex
