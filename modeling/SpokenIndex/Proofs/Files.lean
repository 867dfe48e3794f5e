/-
The files of a regular tree, by their paths.

An index is told paths, so what happens to a tree is said again in terms of paths
strictly below its root: writing or removing one file changes what is read at its path
and at no other.  What the index makes of a file it makes of the bytes that are read,
which is why `bytes?` is all that later proofs know of a disk.
-/
import SpokenIndex.Proofs.Lookup
import SpokenIndex.Source.Reading

namespace SpokenIndex.Disk

open SpokenIndex.Node

variable {disk : Disk} {base : List String} {path other : String} {content : ByteArray}

/-- The bytes of the file that a path leads to, if it leads to a file. -/
def bytes? (disk : Disk) (path : String) : Option ByteArray :=
  (disk.read path).toOption

theorem bytes?_eq_some_iff :
    disk.bytes? path = some content ↔ disk.node? path = .ok (.file content) := by
  rw [bytes?, read]
  cases disk.node? path with
  | error fault => simp [Except.toOption]
  | ok node => cases node <;> simp [Except.toOption]

theorem isFile_iff : disk.isFile path = true ↔ ∃ content, disk.bytes? path = some content := by
  simp only [bytes?_eq_some_iff]
  rw [isFile]
  cases disk.node? path with
  | error fault => simp
  | ok node => cases node <;> simp

theorem isFile_eq_isSome : disk.isFile path = (disk.bytes? path).isSome := by
  rw [Bool.eq_iff_iff, isFile_iff, Option.isSome_iff_exists]

/-- A source is read from the bytes of a file that is not too large. -/
theorem readSource_eq_ok_iff {limit : Int} {text : String} :
    disk.readSource (some limit) path = .ok text ↔
      ∃ content, disk.bytes? path = some content ∧ (content.size : Int) ≤ limit ∧
        textOfBytes content = .ok text := by
  simp only [bytes?_eq_some_iff]
  rw [readSource, size, read]
  cases disk.node? path with
  | error fault => simp [Except.map]
  | ok node =>
      cases node with
      | file content =>
          by_cases hlarge : limit < content.size
          · have hnot : ¬ (content.size : Int) ≤ limit := by omega
            simp [Except.map, hlarge, hnot]
          · have hle : (content.size : Int) ≤ limit := by omega
            cases htext : textOfBytes content <;> simp [Except.map, hlarge, hle, htext]
      | folder _ => by_cases hlarge : limit < folderSize <;> simp [Except.map, hlarge]
      | link _ => by_cases hlarge : limit < folderSize <;> simp [Except.map, hlarge]

/-! ### Paths below a root -/

/-- The path of a place strictly beneath the root of a tree. -/
def IsBelow (base : List String) (path : String) : Prop :=
  ∃ place, Below base place ∧ path = placePath place

theorem Below.isName {place : List String} (h : Below base place) : ∀ n ∈ place, IsName n :=
  fun n hn => (h.fits n hn).isName

theorem IsBelow.canonical (h : IsBelow base path) (cwd : String) :
    Path.canonical cwd path = path := by
  obtain ⟨place, hplace, rfl⟩ := h
  exact canonical_placePath cwd hplace.isName

namespace RegularTree

theorem bytes?_placePath {place : List String} (h : disk.RegularTree base)
    (hplace : Below base place) : disk.bytes? (placePath place) = disk.fileAt? place := by
  refine Option.ext fun content => ?_
  rw [bytes?_eq_some_iff, fileAt?, fileAt?_eq_some_iff]
  change _ ↔ disk.at? place = _
  cases hat : disk.at? place with
  | none =>
      obtain ⟨fault, hfault⟩ := h.node?_error hplace hat
      simp [hfault]
  | some node => simp [h.node?_eq hplace hat]

/-- A path that leads to no folder leads to no folder of the tree. -/
theorem at?_ne_folder {place : List String} (h : disk.RegularTree base)
    (hplace : Below base place) (hfolder : disk.isFolder (placePath place) = false)
    (es : List (String × Node)) : disk.at? place ≠ some (.folder es) := by
  intro hat
  rw [isFolder, h.node?_eq hplace hat] at hfolder
  simp at hfolder

/-- Nothing is a file strictly beneath a file. -/
theorem bytes?_beneath (h : disk.RegularTree base) (hpath : IsBelow base path)
    (hother : IsBelow base other) (hfile : disk.bytes? path = some content)
    (hbeneath : Path.isAtOrBeneath path other = true) (hne : other ≠ path) :
    disk.bytes? other = none := by
  obtain ⟨place, hplace, rfl⟩ := hpath
  obtain ⟨inner, hinner, rfl⟩ := hother
  obtain ⟨way, hway, hbase⟩ := hplace.beneath
  have hplacene : place ≠ [] := by simp [hbase, hway]
  obtain ⟨more, rfl⟩ := (isAtOrBeneath_placePath hplace.isName hinner.isName hplacene).mp hbeneath
  have hmore : more.reverse ≠ [] := by
    intro hc
    rw [List.reverse_eq_nil_iff.mp hc] at hne
    exact hne rfl
  rw [h.bytes?_placePath hplace, fileAt?] at hfile
  rw [h.bytes?_placePath hinner, fileAt?, List.reverse_append]
  exact fileAt?_append_of_file hfile hmore

/-! ### One file written or removed -/

/-- Writing a file that is there afterwards, where no folder was, changes no other file. -/
theorem bytes?_write (h : disk.RegularTree base) (hpath : IsBelow base path)
    (hfolder : disk.isFolder path = false)
    (hdone : (disk.write path content).bytes? path = some content) (hother : IsBelow base other) :
    (disk.write path content).bytes? other
      = if other = path then some content else disk.bytes? other := by
  by_cases hsame : other = path
  · rw [if_pos hsame, hsame, hdone]
  · obtain ⟨place, hplace, rfl⟩ := hpath
    obtain ⟨inner, hinner, rfl⟩ := hother
    have hne : inner ≠ place := fun hc => hsame (by rw [hc])
    rw [if_neg hsame, (h.write hplace).bytes?_placePath hinner, h.bytes?_placePath hinner,
      h.fileAt?_write_of_ne hplace (h.at?_ne_folder hplace hfolder) hne]

/-- A file that is written over holds what was written. -/
theorem bytes?_write_self (content : ByteArray) (h : disk.RegularTree base)
    (hpath : IsBelow base path) (hfile : disk.isFile path = true) :
    (disk.write path content).bytes? path = some content := by
  obtain ⟨place, hplace, rfl⟩ := hpath
  rw [isFile_eq_isSome, h.bytes?_placePath hplace] at hfile
  rw [(h.write hplace).bytes?_placePath hplace, h.fileAt?_write_self hplace hfile]

/-- Removing a file changes no other file. -/
theorem bytes?_remove (h : disk.RegularTree base) (hpath : IsBelow base path)
    (hfile : disk.isFile path = true) (hother : IsBelow base other) :
    (disk.remove path).bytes? other = if other = path then none else disk.bytes? other := by
  obtain ⟨place, hplace, rfl⟩ := hpath
  obtain ⟨inner, hinner, rfl⟩ := hother
  rw [isFile_eq_isSome, h.bytes?_placePath hplace] at hfile
  obtain ⟨content, hcontent⟩ := Option.isSome_iff_exists.mp hfile
  have hat : disk.at? place = some (.file content) := fileAt?_eq_some_iff.mp hcontent
  rw [(h.remove hplace hat).bytes?_placePath hinner, h.bytes?_placePath hinner,
    h.fileAt?_remove hplace hcontent]
  by_cases hsame : inner = place
  · rw [if_pos hsame, if_pos (by rw [hsame])]
  · have hpaths : placePath inner ≠ placePath place := fun hc =>
      hsame (placePath_injective hinner.isName hplace.isName hc)
    rw [if_neg hsame, if_neg hpaths]

/-- Removing a file leaves the tree regular. -/
theorem remove_isFile (h : disk.RegularTree base) (hpath : IsBelow base path)
    (hfile : disk.isFile path = true) : (disk.remove path).RegularTree base := by
  obtain ⟨place, hplace, rfl⟩ := hpath
  rw [isFile_eq_isSome, h.bytes?_placePath hplace] at hfile
  obtain ⟨content, hcontent⟩ := Option.isSome_iff_exists.mp hfile
  exact h.remove hplace (fileAt?_eq_some_iff.mp hcontent)

end RegularTree

/-- What is a file, or is nothing, is no folder. -/
theorem isFolder_eq_false_of_isFile (h : disk.isFile path = true) : disk.isFolder path = false := by
  obtain ⟨content, hcontent⟩ := isFile_iff.mp h
  rw [isFolder, bytes?_eq_some_iff.mp hcontent]

theorem isFolder_eq_false_of_not_exists (h : disk.exists? path = false) :
    disk.isFolder path = false := by
  rw [exists?] at h
  rw [isFolder]
  split at h <;> simp_all

theorem isFile_eq_false_of_not_exists (h : disk.exists? path = false) :
    disk.isFile path = false := by
  rw [exists?] at h
  rw [isFile]
  split at h <;> simp_all

end SpokenIndex.Disk
