/-
What was deleted is not found again until it comes back.

A deletion leaves no file and no symbol at or beneath its path.  An entry that is new
after an operation is one of a path that the operation concerns, so operations that are
about other places leave it at that.  Folders are no part of this.  They are computed
afresh or, if the tree cannot be listed, left as they were, and no transcript refers to
them.
-/
import SpokenIndex.Proofs.History
import SpokenIndex.Proofs.Indifference

namespace SpokenIndex

open Matching

variable {plan : IndexPlan} {world : Surroundings} {s : IndexState} {op : Operation}
  {m : Mappings} {path : String} {settings : MatcherSettings} {transcript : String}

/-- Neither a file nor a symbol is at or beneath a path. -/
structure Mappings.Lacks (m : Mappings) (path : String) : Prop where
  files : ∀ e ∈ m.files.entries, Path.isAtOrBeneath path e.2 = false
  symbols : ∀ kind, ∀ e ∈ (m.symbolsOf kind).entries, Path.isAtOrBeneath path e.2 = false

theorem IndexPlan.lacks_handleDelete (plan : IndexPlan) (world : Surroundings) (path : String)
    (s : IndexState) :
    (plan.handleDelete world path s).1.mappings.Lacks (Path.canonical world.workDir path) where
  files _ he := ((mem_files_handleDelete rfl).mp he).2
  symbols _ _ he := ((mem_symbolsOf_handleDelete rfl).mp he).2

/-- An operation that is about other places brings nothing back. -/
theorem Mappings.Lacks.perform (h : s.mappings.Lacks path)
    (hop : ∀ other, plan.Concerns op other → Path.isAtOrBeneath path other = false) :
    (plan.perform s op).mappings.Lacks path where
  files e he := by
    rcases IndexPlan.of_mem_files_perform he with hold | ⟨other, hconcerns, -, hwrite⟩
    · exact h.files e hold
    · rw [IndexPlan.value_of_mem_fileWrites hwrite]
      exact hop other hconcerns
  symbols kind e he := by
    rcases IndexPlan.of_mem_symbolsOf_perform kind he with hold | ⟨hconcerns, -⟩
    · exact h.symbols kind e hold
    · exact hop e.2 hconcerns

/-- What an index lacks is not found in it. -/
theorem Mappings.Lacks.not_found (h : m.Lacks path) :
    ∀ found ∈ (resolve settings m transcript).found,
      Path.isAtOrBeneath path found.path = false := by
  intro found hfound
  obtain ⟨c, hentry, heq⟩ := isEntry_of_mem_found hfound
  obtain ⟨name, owner, kind⟩ := c
  rw [heq, Candidate.path_toMatch]
  cases kind with
  | file => exact h.files _ hentry
  | folder => exact hentry.elim
  | component => exact h.symbols .component _ hentry
  | function => exact h.symbols .function _ hentry

/-- **What was deleted is not found.**  After a deletion and any operations that are about other
places, no match is at or beneath the deleted path, whether or not the tree could be listed. -/
theorem not_found_after_deletion (plan : IndexPlan) (world : Surroundings) (path : String)
    (s : IndexState) (ops : List Operation) (settings : MatcherSettings) (transcript : String)
    (hops : ∀ op ∈ ops, ∀ other, plan.Concerns op other →
      Path.isAtOrBeneath (Path.canonical world.workDir path) other = false) :
    ∀ found ∈ (resolve settings
        (plan.performAll (plan.handleDelete world path s).1 ops).mappings transcript).found,
      Path.isAtOrBeneath (Path.canonical world.workDir path) found.path = false := by
  have hlacks : (plan.performAll (plan.handleDelete world path s).1 ops).mappings.Lacks
      (Path.canonical world.workDir path) := by
    refine IndexPlan.performAll_induction (fun m => m.Lacks _)
      (plan.lacks_handleDelete world path s) ?_
    intro s hs op hop
    exact hs.perform (hops op hop)
  exact hlacks.not_found

/-- Calls about files with names like that of a deleted one, which was deleted when the tree could
not be listed. -/
theorem not_found_after_deletion_cards :
    let refused : Surroundings := { Surroundings.calm .blank with listRefusal := some "" }
    let later : Surroundings := .calm (oneFile .empty)
    let ops : List Operation := [.call later ⟨.create, "/r/Cards.css.ts"⟩,
      .call later ⟨.change, "/r/a.ts"⟩, .call later ⟨.delete, "/r/Card.tsx"⟩]
    (∀ op ∈ ops, ∀ other, wholeTextPlan.Concerns op other →
      Path.isAtOrBeneath (Path.canonical "/" "/r/Cards.css") other = false) ∧
    ∀ found ∈ (resolve .standard (wholeTextPlan.performAll
        (wholeTextPlan.handleDelete refused "/r/Cards.css" threeFiles).1 ops).mappings
        "open the cards").found,
      Path.isAtOrBeneath (Path.canonical "/" "/r/Cards.css") found.path = false := by
  intro refused later ops
  have hops : ∀ op ∈ ops, ∀ other, wholeTextPlan.Concerns op other →
      Path.isAtOrBeneath (Path.canonical "/" "/r/Cards.css") other = false := by
    intro op hop other hconcerns
    simp only [ops, List.mem_cons, List.not_mem_nil, or_false] at hop
    rcases hop with rfl | rfl | rfl
    all_goals
      obtain rfl := hconcerns
      decide
  exact ⟨hops, not_found_after_deletion wholeTextPlan refused "/r/Cards.css" threeFiles ops
    .standard "open the cards" hops⟩

end SpokenIndex
