/-
Stable sorting by insertion.

Two orders of the library are visible in its answers: names within a folder go by
their characters, and matches go by their score, best first, equal scores in the
order of discovery.  Both are this sort.  It is written as a right fold, so that an
element is put before the elements equal to it that came later: that is what makes
it stable.
-/
namespace SpokenIndex

variable {α : Type}

/-- Puts an element before the first one that it may precede. -/
def insertSorted (le : α → α → Bool) (x : α) : List α → List α
  | [] => [x]
  | y :: rest => if le x y then x :: y :: rest else y :: insertSorted le x rest

/-- The elements in the order `le`, equal ones in their old order. -/
def sortStable (le : α → α → Bool) (l : List α) : List α :=
  l.foldr (insertSorted le) []

theorem insertSorted_perm (le : α → α → Bool) (x : α) (l : List α) :
    (insertSorted le x l).Perm (x :: l) := by
  induction l with
  | nil => exact List.Perm.refl _
  | cons y rest ih =>
    unfold insertSorted
    split
    · exact List.Perm.refl _
    · exact (List.Perm.cons y ih).trans (List.Perm.swap x y rest)

/-- Sorting loses and adds nothing. -/
theorem sortStable_perm (le : α → α → Bool) (l : List α) : (sortStable le l).Perm l := by
  induction l with
  | nil => exact List.Perm.refl _
  | cons x rest ih => exact (insertSorted_perm le x _).trans (List.Perm.cons x ih)

theorem mem_sortStable {le : α → α → Bool} {l : List α} {x : α} :
    x ∈ sortStable le l ↔ x ∈ l :=
  (sortStable_perm le l).mem_iff

/-! ### In order, and stable -/

section Order

variable {le : α → α → Bool} (htotal : ∀ a b, le a b = true ∨ le b a = true)
  (htrans : ∀ a b c, le a b = true → le b c = true → le a c = true)
include htotal htrans

theorem pairwise_insertSorted (x : α) {l : List α} (h : l.Pairwise fun a b => le a b = true) :
    (insertSorted le x l).Pairwise fun a b => le a b = true := by
  induction l with
  | nil => simp [insertSorted]
  | cons y rest ih =>
    obtain ⟨hy, hrest⟩ := List.pairwise_cons.1 h
    unfold insertSorted
    split
    · rename_i hxy
      refine List.pairwise_cons.2 ⟨fun z hz => ?_, h⟩
      rcases List.mem_cons.1 hz with rfl | hz
      · exact hxy
      · exact htrans x y z hxy (hy z hz)
    · rename_i hxy
      have hyx : le y x = true := (htotal y x).resolve_right hxy
      refine List.pairwise_cons.2 ⟨fun z hz => ?_, ih hrest⟩
      rcases List.mem_cons.1 ((insertSorted_perm le x rest).mem_iff.1 hz) with rfl | hz
      · exact hyx
      · exact hy z hz

/-- What is sorted by a total order is in that order. -/
theorem pairwise_sortStable (l : List α) :
    (sortStable le l).Pairwise fun a b => le a b = true := by
  induction l with
  | nil => exact List.Pairwise.nil
  | cons x rest ih => exact pairwise_insertSorted htotal htrans x ih

omit htotal in
/-- An element put into a sorted list, and then some elements dropped and the others replaced. -/
theorem filterMap_insertSorted {β : Type} {le' : β → β → Bool} {g : α → Option β}
    (hg : ∀ a b a' b', g a = some a' → g b = some b' → le' a' b' = le a b) (x : α) {l : List α}
    (h : l.Pairwise fun a b => le a b = true) :
    (insertSorted le x l).filterMap g
      = match g x with
        | some x' => insertSorted le' x' (l.filterMap g)
        | none => l.filterMap g := by
  induction l with
  | nil => cases hx : g x <;> simp [insertSorted, hx]
  | cons y rest ih =>
    obtain ⟨hy, hrest⟩ := List.pairwise_cons.1 h
    rw [insertSorted]
    split
    · rename_i hxy
      cases hx : g x with
      | none => rw [List.filterMap_cons_none hx]
      | some x' =>
        -- all that is left is at or behind `y`, so `x'` comes first
        rw [List.filterMap_cons_some hx]
        cases hl : (y :: rest).filterMap g with
        | nil => rfl
        | cons z' _ =>
          have hz' : z' ∈ (y :: rest).filterMap g := hl ▸ List.mem_cons_self
          obtain ⟨z, hz, hgz⟩ := List.mem_filterMap.1 hz'
          have hxz : le x z = true := by
            rcases List.mem_cons.1 hz with rfl | hz
            · exact hxy
            · exact htrans x y z hxy (hy z hz)
          simp only [insertSorted]
          rw [if_pos (by rw [hg x z x' z' hx hgz, hxz])]
    · rename_i hxy
      cases hgy : g y with
      | none =>
        rw [List.filterMap_cons_none hgy, List.filterMap_cons_none hgy]
        exact ih hrest
      | some y' =>
        rw [List.filterMap_cons_some hgy, List.filterMap_cons_some hgy, ih hrest]
        cases hx : g x with
        | none => rfl
        | some x' =>
          simp only [insertSorted]
          rw [if_neg (by rw [hg x y x' y' hx hgy]; exact hxy)]

/-- Dropping elements and replacing others by some that compare alike may be done before sorting. -/
theorem filterMap_sortStable {β : Type} {le' : β → β → Bool} {g : α → Option β}
    (hg : ∀ a b a' b', g a = some a' → g b = some b' → le' a' b' = le a b) (l : List α) :
    (sortStable le l).filterMap g = sortStable le' (l.filterMap g) := by
  induction l with
  | nil => rfl
  | cons x rest ih =>
    change (insertSorted le x (sortStable le rest)).filterMap g = _
    rw [filterMap_insertSorted htrans hg x (pairwise_sortStable htotal htrans rest), ih]
    cases hx : g x with
    | none => rw [List.filterMap_cons_none hx]
    | some x' =>
      rw [List.filterMap_cons_some hx]
      rfl

end Order

section Ties

variable {le : α → α → Bool} {p : α → Bool}
  (htied : ∀ a b, p a = true → p b = true → le a b = true)
include htied

/-- An element is put before all that it is tied with. -/
theorem filter_insertSorted (x : α) (l : List α) :
    (insertSorted le x l).filter p = (x :: l).filter p := by
  induction l with
  | nil => rfl
  | cons y rest ih =>
    unfold insertSorted
    split
    · rfl
    · rename_i hxy
      rw [List.filter_cons, ih]
      by_cases hx : p x = true
      · have hy : ¬ p y = true := fun hy => hxy (htied x y hx hy)
        simp [hx, hy]
      · simp [hx, List.filter_cons]

/-- Sorting keeps elements that are tied in their old order. -/
theorem filter_sortStable (l : List α) : (sortStable le l).filter p = l.filter p := by
  induction l with
  | nil => rfl
  | cons x rest ih =>
    change (insertSorted le x (sortStable le rest)).filter p = _
    rw [filter_insertSorted htied, List.filter_cons, List.filter_cons, ih]

end Ties

end SpokenIndex
