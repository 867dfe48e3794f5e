/-
What the real form of a path is.

Names are followed one after another from a place that is known to be real, and a link is
replaced by the place it leads to, which is real by the same argument.  So the outcome is
a place with no link on the way to it, and the real form of its path is the path itself.

This fails only where a link leads through itself: then nothing can be put in its place,
what comes after it is not looked at, and a link may be left there that a second look
would follow.
-/
import SpokenIndex.Proofs.Lookup

namespace SpokenIndex.Disk

open SpokenIndex.Node

variable {disk : Disk} {place here todo : List String} {opened : List (List String)}
  {name path : String}

/-! ### Places that stand for themselves -/

theorem isReal_nil (disk : Disk) : disk.IsReal [] := by
  refine ⟨fun n hn => absurd hn List.not_mem_nil, fun n above hsuffix => ?_⟩
  exact absurd (List.suffix_nil.mp hsuffix) (List.cons_ne_nil _ _)

theorem IsReal.tail (h : disk.IsReal here) : disk.IsReal here.tail := by
  refine ⟨fun n hn => h.isName n (List.mem_of_mem_tail hn), fun n above hsuffix => ?_⟩
  exact h.not_link n above (hsuffix.trans (List.tail_suffix here))

/-- One proper name further down, where no link stands. -/
theorem IsReal.cons (h : disk.IsReal here) (hname : IsName name)
    (hlink : ∀ target, disk.at? (name :: here) ≠ some (.link target)) :
    disk.IsReal (name :: here) := by
  refine ⟨fun n hn => ?_, fun n above hsuffix => ?_⟩
  · rcases List.mem_cons.mp hn with rfl | hn
    · exact hname
    · exact h.isName n hn
  · rcases List.suffix_cons_iff.mp hsuffix with heq | hsuffix
    · rw [heq]
      exact hlink
    · exact h.not_link n above hsuffix

/-- The place from which the target of a link is followed. -/
theorem IsReal.start (h : disk.IsReal here) (target : String) :
    disk.IsReal (if Text.startsWith "/" target then [] else here) := by
  split
  · exact isReal_nil disk
  · exact h

/-! ### Following links -/

theorem not_slash_of_mem_steps (h : name ∈ steps path) : '/' ∉ name.toList := by
  obtain ⟨piece, hpiece, rfl⟩ := List.mem_map.mp h
  rw [String.toList_ofList]
  intro hslash
  have hcut := Text.not_of_mem_splitWhen hpiece '/' hslash
  simp at hcut

/-- What is reached by following links is real, if no link led through itself. -/
theorem isReal_of_resolveFrom (hhere : disk.IsReal here) (htodo : ∀ n ∈ todo, '/' ∉ n.toList)
    (h : disk.resolveFrom opened here todo = .ok place) : disk.IsReal place := by
  have hrest : ∀ {n : String} {rest : List String}, (∀ m ∈ n :: rest, '/' ∉ m.toList) →
      ∀ m ∈ rest, '/' ∉ m.toList := fun hall m hm => hall m (List.mem_cons_of_mem _ hm)
  -- The place found for the target of a link is where the rest is followed from.
  fun_induction resolveFrom disk opened here todo generalizing place with
  | case1 opened here =>
      obtain rfl := Except.ok.inj h
      exact hhere
  | case2 opened here name rest hstays ih => exact ih hhere (hrest htodo) h
  | case3 opened here rest _ ih => exact ih hhere.tail (hrest htodo) h
  | case4 => exact absurd h (by simp)
  | case5 => exact absurd h (by simp)
  | case6 opened here name rest hstays hup target hat hnew start found hfound ihTarget =>
      rename_i ihRest
      have hfoundReal :=
        ihTarget (hhere.start target) (fun n hn => not_slash_of_mem_steps hn) hfound
      exact ihRest hfoundReal (hrest htodo) h
  | case7 opened here name rest hstays hup hlink ih =>
      have hname : IsName name := by
        obtain ⟨hempty, hdot⟩ := not_or.mp hstays
        exact ⟨hempty, hdot, hup, htodo name List.mem_cons_self⟩
      exact ih (hhere.cons hname hlink) (hrest htodo) h

/-! ### Proper names

Where a link leads through itself, what is left is no real place, but its names are proper
all the same.
-/

theorem isName_of_mem_stepWritten (hhere : ∀ n ∈ here, IsName n) (hname : '/' ∉ name.toList) :
    ∀ n ∈ stepWritten here name, IsName n := by
  intro n hn
  unfold stepWritten at hn
  split at hn
  · exact hhere n hn
  · split at hn
    · exact hhere n (List.mem_of_mem_tail hn)
    · rename_i hmoves hup
      obtain ⟨hempty, hdot⟩ := not_or.mp hmoves
      rcases List.mem_cons.mp hn with rfl | hn
      · exact ⟨hempty, hdot, hup, hname⟩
      · exact hhere n hn

theorem isName_of_mem_writtenFrom (hhere : ∀ n ∈ here, IsName n)
    (htodo : ∀ n ∈ todo, '/' ∉ n.toList) : ∀ n ∈ writtenFrom here todo, IsName n := by
  have hfold : ∀ start : List String, (∀ n ∈ start, IsName n) → ∀ names ⊆ todo,
      ∀ n ∈ names.foldl stepWritten start, IsName n := by
    intro start hstart names hnames
    refine List.foldlRecOn (motive := fun here => ∀ n ∈ here, IsName n) names stepWritten hstart ?_
    exact fun here hhere name hname => isName_of_mem_stepWritten hhere (htodo name (hnames hname))
  unfold writtenFrom
  split
  · exact hfold [] (by simp) _ (List.subset_cons_self _ _)
  · exact hfold here hhere todo (List.Subset.refl _)

theorem isName_of_resolveFrom_error (hhere : disk.IsReal here)
    (htodo : ∀ n ∈ todo, '/' ∉ n.toList)
    (h : disk.resolveFrom opened here todo = .error place) : ∀ n ∈ place, IsName n := by
  have hrest : ∀ {n : String} {rest : List String}, (∀ m ∈ n :: rest, '/' ∉ m.toList) →
      ∀ m ∈ rest, '/' ∉ m.toList := fun hall m hm => hall m (List.mem_cons_of_mem _ hm)
  have hproper : ∀ {n : String} {rest : List String}, ¬ (n = "" ∨ n = ".") → n ≠ ".." →
      (∀ m ∈ n :: rest, '/' ∉ m.toList) → IsName n := by
    intro n rest hstays hup hall
    obtain ⟨hempty, hdot⟩ := not_or.mp hstays
    exact ⟨hempty, hdot, hup, hall n List.mem_cons_self⟩
  fun_induction resolveFrom disk opened here todo generalizing place with
  | case1 => exact absurd h (by simp)
  | case2 opened here name rest hstays ih => exact ih hhere (hrest htodo) h
  | case3 opened here rest _ ih => exact ih hhere.tail (hrest htodo) h
  | case4 opened here name rest hstays hup target hat hopened =>
      obtain rfl := Except.error.inj h
      refine isName_of_mem_writtenFrom ?_ (hrest htodo)
      exact List.forall_mem_cons.mpr ⟨hproper hstays hup htodo, hhere.isName⟩
  | case5 opened here name rest hstays hup target hat hnew start found hfound =>
      rename_i ih
      obtain rfl := Except.error.inj h
      refine isName_of_mem_writtenFrom ?_ (hrest htodo)
      exact ih (hhere.start target) (fun n hn => not_slash_of_mem_steps hn) hfound
  | case6 opened here name rest hstays hup target hat hnew start found hfound ihTarget =>
      rename_i ihRest
      have hfoundReal := isReal_of_resolveFrom (hhere.start target)
        (fun n hn => not_slash_of_mem_steps hn) hfound
      exact ihRest hfoundReal (hrest htodo) h
  | case7 opened here name rest hstays hup hlink ih =>
      exact ih (hhere.cons (hproper hstays hup htodo) hlink) (hrest htodo) h

/-- The place of a path is real. -/
theorem isReal_of_realPlace (h : disk.realPlace path = .ok place) : disk.IsReal place := by
  refine isReal_of_resolveFrom (isReal_nil disk) (fun n hn => ?_) h
  exact not_slash_of_mem_steps (List.mem_filter.mp hn).1

/-- The real form of a path has proper names. -/
theorem isName_of_mem_realNames (disk : Disk) (path : String) :
    ∀ n ∈ disk.realNames path, IsName n := by
  rw [realNames]
  cases h : disk.realPlace path with
  | ok place => exact (isReal_of_realPlace h).isName
  | error place =>
      refine isName_of_resolveFrom_error (isReal_nil disk) (fun n hn => ?_) h
      exact not_slash_of_mem_steps (List.mem_filter.mp hn).1

/-- A path that gets through its links has a real form with nothing left to follow. -/
theorem resolve_resolve (h : disk.realPlace path = .ok place) :
    disk.resolve (disk.resolve path) = disk.resolve path := by
  have hpath : disk.resolve path = placePath place := by rw [resolve, realNames, h]
  rw [hpath, resolve, realNames_placePath (isReal_of_realPlace h)]

end SpokenIndex.Disk
