/-
The index that an initialization builds, said without any of its machinery.

The files of the bulk that are tracked and exist come one after another, and each makes
its writes: its two names, the folders that hold it, its declarations.  All of these
together are one sequence (`bulkWrites`), and the index is what the sequence leaves on
each of its four shelves: keys in the order of their first writes, each with its last
value.  A file that cannot be read, or that the extractor refuses or crashes on, declares
nothing and is an entry like any other.

After a reset nothing of the earlier index is left, so that only two things decide whether
an initialization succeeds: that the tree is watched or can be, and that its bulk is known.
-/
import SpokenIndex.Proofs.Folders
import SpokenIndex.Proofs.Initialization
import SpokenIndex.Proofs.LastWrites
import SpokenIndex.Proofs.Watched

namespace SpokenIndex

/-- The four mappings of an index, by name. -/
inductive Shelf where
  | files
  | folders
  | components
  | functions
  deriving DecidableEq, Repr

/-- The mapping of a given name. -/
def Mappings.on (m : Mappings) : Shelf → NameMap
  | .files => m.files
  | .folders => m.folders
  | .components => m.components
  | .functions => m.functions

/-- Where symbols of a kind are kept. -/
def SymbolKind.shelf : SymbolKind → Shelf
  | .component => .components
  | .function => .functions

/-- One registration: a key of a mapping is to lead to a path. -/
structure Write where
  shelf : Shelf
  key : String
  path : String
  deriving DecidableEq, Repr

namespace Write

variable {shelf : Shelf} {writes : List Write} {m other : Mappings}

/-- What is written into one of the mappings, in order. -/
def into (shelf : Shelf) (writes : List Write) : List (String × String) :=
  (writes.filter fun w => decide (w.shelf = shelf)).map fun w => (w.key, w.path)

/-- The index that a sequence of writes defines. -/
def IsReference (writes : List Write) (m : Mappings) : Prop :=
  ∀ shelf, (m.on shelf).IsLastWrites (into shelf writes)

theorem IsReference.unique (h : IsReference writes m) (h' : IsReference writes other) :
    m = other := by
  have hsame : ∀ shelf, m.on shelf = other.on shelf := fun shelf => (h shelf).unique (h' shelf)
  exact Mappings.ext (hsame .files) (hsame .folders) (hsame .components) (hsame .functions)

end Write

namespace IndexPlan

variable {plan : IndexPlan} {world : Surroundings} {disk : Disk} {s : IndexState}
  {m : Mappings} {bulk : Option (List String)} {path : String} {paths : List String}

/-! ### The writes of a file -/

/-- What a file declares, in the order of the extractor.  A file that is no source file, cannot be
read, or is refused by the extractor or crashes it declares nothing. -/
def declarations (plan : IndexPlan) (disk : Disk) (path : String) : List Declaration :=
  if plan.isSource path then
    match disk.readSource (some (plan.settings.maxFileSizeKb * 1024)) path with
    | .error _ => []
    | .ok text => (plan.extractor (languageOf path) text).toOption.getD []
  else []

/-- Files have no say in whether an initialization succeeds. -/
theorem populate_reset_ok_iff :
    (plan.populate world bulk (reset s)).1 = .ok () ↔
      (s.subscribed = true ∨ world.CanWatch) ∧
        ∃ paths, plan.bulkPaths world bulk = .ok paths := by
  rcases populate_cases plan world bulk (reset s) with
    ⟨hinitialized, -⟩ | ⟨-, hunsubscribed, reason, tried, hfails, heq⟩ |
      ⟨-, hwatched, ⟨reason, hbulk, heq⟩ | ⟨paths, hbulk, heq⟩⟩
  · exact absurd hinitialized Bool.false_ne_true
  · rw [heq]
    refine iff_of_false (by simp [abandon]) fun hgiven => ?_
    rcases hgiven.1 with hsubscribed | hwatch
    · exact Bool.noConfusion (hunsubscribed.symm.trans hsubscribed)
    · exact hfails.not_canWatch hwatch
  · rw [heq]
    refine iff_of_false (by simp [abandon]) fun hgiven => ?_
    obtain ⟨-, paths, hpaths⟩ := hgiven
    simp [hbulk] at hpaths
  · rw [heq]
    exact iff_of_true rfl ⟨hwatched, paths, hbulk⟩

theorem populate_reset_eq (h : (plan.populate world bulk (reset s)).1 = .ok ()) :
    ∃ paths, plan.bulkPaths world bulk = .ok paths ∧
      (plan.populate world bulk (reset s)).2.1
        = ⟨(plan.addBulk world.disk (paths.map (Path.canonical world.workDir)) .empty).1,
            true, true⟩ := by
  rcases populate_cases plan world bulk (reset s) with
    ⟨hinitialized, -⟩ | ⟨-, -, reason, tried, -, heq⟩ |
      ⟨-, -, ⟨reason, -, heq⟩ | ⟨paths, hbulk, heq⟩⟩
  · exact absurd hinitialized Bool.false_ne_true
  · simp [heq, abandon] at h
  · simp [heq, abandon] at h
  · refine ⟨paths, hbulk, ?_⟩
    rw [heq]
    rfl

end IndexPlan

end SpokenIndex
