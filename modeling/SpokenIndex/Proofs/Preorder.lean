/-
The order in which declarations are collected.

Declarations are collected with a stack of trees, while the nodes of a tree are listed by
recursion on it.  What ties the two together is what becomes of the topmost tree of a stack:
it and all that is beneath it are visited, in the order of the listing, before the trees
below it on the stack are touched.  That is shown for a tree together with the trees in a
row beneath it, whatever waits on the stack, so no measure is needed: the run over the
stack is put together from the runs over the trees on it.

Equal trees may stand in several places of one tree.  So a visit is to a spot, which is a
tree together with the way down to it.  The ways of the spots that are visited go up in
lexicographic order, in which a node comes before those beneath it, and those beneath it
from left to right; so none is visited twice.
-/
import Mathlib.Data.List.Lex
import SpokenIndex.Script.Tree

namespace SpokenIndex.Script

namespace Tree

/-- The tree at the end of a way down; each number says how many trees to pass over. -/
def at? : Tree → List Nat → Option Tree
  | t, [] => some t
  | t, i :: way => t.beneath[i]?.bind fun u => u.at? way

end Tree

/-- A tree and the way down to it from the top of the tree that is walked. -/
structure Spot where
  way : List Nat
  tree : Tree

namespace Spot

/-- The spots of trees in a row beneath the end of a way, the first of them at number `i`. -/
def row (way : List Nat) : (i : Nat) → List Tree → List Spot
  | _, [] => []
  | i, t :: rest => ⟨way ++ [i], t⟩ :: row way (i + 1) rest

/-- The spots right beneath a spot, in the order of the text. -/
def beneath (s : Spot) : List Spot :=
  row s.way 0 s.tree.beneath

@[simp] theorem map_tree_row (way : List Nat) (i : Nat) (ts : List Tree) :
    (row way i ts).map Spot.tree = ts := by
  induction ts generalizing i with
  | nil => rfl
  | cons t rest ih => rw [row, List.map_cons, ih]

end Spot

/-! ### Visits -/

/-- How the spots on a stack are visited: the topmost is taken off and visited, and the spots
beneath it are put on in its place, first on top. -/
inductive Visits : (stack visited : List Spot) → Prop
  | done : Visits [] []
  | visit {s : Spot} {rest visited : List Spot} (h : Visits (s.beneath ++ rest) visited) :
      Visits (s :: rest) (s :: visited)

namespace Visits

variable {stack visited : List Spot}

/-- A stack is visited in one way only. -/
theorem unique {other : List Spot} (h : Visits stack visited) (hother : Visits stack other) :
    other = visited := by
  induction h generalizing other with
  | done =>
    cases hother
    rfl
  | visit _ ih =>
    cases hother with
    | visit hrest => rw [ih hrest]

/-- What is collected from a stack are the declarations of the spots that are visited. -/
theorem collectFrom_eq (h : Visits stack visited) (found : List Declaration) :
    Tree.collectFrom (stack.map Spot.tree) found
      = found.reverse ++ visited.filterMap (·.tree.declaration?) := by
  induction h generalizing found with
  | done => rw [List.map_nil, Tree.collectFrom, List.filterMap_nil, List.append_nil]
  | @visit s rest visited _ ih =>
    have hstack : (s.beneath ++ rest).map Spot.tree = s.tree.beneath ++ rest.map Spot.tree := by
      rw [List.map_append, Spot.beneath, Spot.map_tree_row]
    rw [List.map_cons, Tree.collectFrom, ← hstack, ih]
    cases hfound : s.tree.declaration? with
    | none => simp [hfound]
    | some d => simp [hfound]

end Visits

/-! ### The spots of a tree -/

mutual

/-- The spots at and beneath the end of a way, where the given tree stands: itself, then those
beneath. -/
def spotsAt (way : List Nat) : Tree → List Spot
  | .node label beneath => ⟨way, .node label beneath⟩ :: spotsBeneath way 0 beneath

/-- The spots of trees in a row beneath the end of a way, the first of them at number `i`. -/
def spotsBeneath (way : List Nat) : (i : Nat) → List Tree → List Spot
  | _, [] => []
  | i, t :: rest => spotsAt (way ++ [i]) t ++ spotsBeneath way (i + 1) rest

end

mutual

/-- The topmost tree is visited with all that is beneath it before the rest of the stack. -/
theorem visits_spotsAt {rest visited : List Spot} (h : Visits rest visited) (way : List Nat) :
    ∀ t : Tree, Visits (⟨way, t⟩ :: rest) (spotsAt way t ++ visited)
  | .node _ beneath => Visits.visit (visits_spotsBeneath h way 0 beneath)

/-- Trees in a row on top are visited one after the other. -/
theorem visits_spotsBeneath {rest visited : List Spot} (h : Visits rest visited)
    (way : List Nat) (i : Nat) :
    ∀ ts : List Tree, Visits (Spot.row way i ts ++ rest) (spotsBeneath way i ts ++ visited)
  | [] => h
  | t :: ts => by
    rw [spotsBeneath, List.append_assoc]
    exact visits_spotsAt (visits_spotsBeneath h way (i + 1) ts) (way ++ [i]) t

end

mutual

/-- Ways apart, the spots of a tree are its nodes. -/
theorem map_tree_spotsAt (way : List Nat) :
    ∀ t : Tree, (spotsAt way t).map Spot.tree = t.nodes
  | .node label beneath => by
    rw [spotsAt, List.map_cons, map_tree_spotsBeneath way 0 beneath, Tree.nodes]

theorem map_tree_spotsBeneath (way : List Nat) (i : Nat) :
    ∀ ts : List Tree, (spotsBeneath way i ts).map Spot.tree = Tree.nodesAll ts
  | [] => rfl
  | t :: ts => by
    rw [spotsBeneath, List.map_append, map_tree_spotsAt (way ++ [i]) t,
      map_tree_spotsBeneath way (i + 1) ts, Tree.nodesAll]

end

mutual

theorem length_nodes : ∀ t : Tree, t.nodes.length = t.size
  | .node _ beneath => by rw [Tree.nodes, List.length_cons, length_nodesAll beneath, Tree.size]

theorem length_nodesAll : ∀ ts : List Tree, (Tree.nodesAll ts).length = Tree.sizeAll ts
  | [] => rfl
  | t :: ts => by
    rw [Tree.nodesAll, List.length_append, length_nodes t, length_nodesAll ts, Tree.sizeAll]

end

/-! ### Ways -/

mutual

/-- The spots of a tree are the trees that a way down leads to. -/
theorem mem_spotsAt {s : Spot} (way : List Nat) :
    ∀ t : Tree, s ∈ spotsAt way t ↔ ∃ down, s.way = way ++ down ∧ t.at? down = some s.tree
  | .node label beneath => by
    rw [spotsAt, List.mem_cons, mem_spotsBeneath way 0 beneath]
    constructor
    · rintro (rfl | ⟨i, down, hway, hat⟩)
      · exact ⟨[], (List.append_nil way).symm, rfl⟩
      · rw [Nat.zero_add] at hway
        exact ⟨i :: down, hway, hat⟩
    · rintro ⟨down, hway, hat⟩
      cases down with
      | nil =>
        rw [List.append_nil] at hway
        obtain ⟨_, tree⟩ := s
        obtain rfl : way = _ := hway.symm
        exact Or.inl (congrArg _ (Option.some.inj hat).symm)
      | cons i down =>
        refine Or.inr ⟨i, down, ?_, hat⟩
        rw [Nat.zero_add]
        exact hway

theorem mem_spotsBeneath {s : Spot} (way : List Nat) (i : Nat) :
    ∀ ts : List Tree, s ∈ spotsBeneath way i ts ↔
      ∃ j down, s.way = way ++ (i + j) :: down ∧
        (ts[j]?.bind fun u => u.at? down) = some s.tree
  | [] => by simp [spotsBeneath]
  | t :: ts => by
    rw [spotsBeneath, List.mem_append, mem_spotsAt (way ++ [i]) t,
      mem_spotsBeneath way (i + 1) ts]
    constructor
    · rintro (⟨down, hway, hat⟩ | ⟨j, down, hway, hat⟩)
      · exact ⟨0, down, by rw [hway, Nat.add_zero, List.append_assoc, List.singleton_append], hat⟩
      · exact ⟨j + 1, down, by rw [hway, Nat.add_assoc, Nat.add_comm 1 j], hat⟩
    · rintro ⟨j, down, hway, hat⟩
      cases j with
      | zero =>
        exact Or.inl ⟨down, by rw [hway, Nat.add_zero, List.append_assoc, List.singleton_append],
          hat⟩
      | succ j =>
        exact Or.inr ⟨j, down, by rw [hway, Nat.add_assoc, Nat.add_comm 1 j], hat⟩

end

mutual

/-- The ways of the spots of a tree go up in lexicographic order. -/
theorem pairwise_spotsAt (way : List Nat) :
    ∀ t : Tree, (spotsAt way t).Pairwise fun s u => s.way < u.way
  | .node label beneath => by
    rw [spotsAt, List.pairwise_cons]
    refine ⟨?_, pairwise_spotsBeneath way 0 beneath⟩
    intro s hs
    obtain ⟨i, down, hway, -⟩ := (mem_spotsBeneath way 0 beneath).mp hs
    have hlonger : List.Lex (· < ·) (way ++ []) (way ++ (0 + i) :: down) :=
      List.Lex.append_left _ List.Lex.nil way
    rw [List.append_nil, ← hway] at hlonger
    exact hlonger

theorem pairwise_spotsBeneath (way : List Nat) (i : Nat) :
    ∀ ts : List Tree, (spotsBeneath way i ts).Pairwise fun s u => s.way < u.way
  | [] => List.Pairwise.nil
  | t :: ts => by
    rw [spotsBeneath, List.pairwise_append]
    refine ⟨pairwise_spotsAt (way ++ [i]) t, pairwise_spotsBeneath way (i + 1) ts, ?_⟩
    intro s hs u hu
    obtain ⟨down, hs, -⟩ := (mem_spotsAt (way ++ [i]) t).mp hs
    obtain ⟨j, further, hu, -⟩ := (mem_spotsBeneath way (i + 1) ts).mp hu
    -- Both ways begin alike, and the second then passes over more trees.
    have hright : List.Lex (· < ·) (way ++ i :: down) (way ++ (i + 1 + j) :: further) :=
      List.Lex.append_left _ (List.Lex.rel (by omega)) way
    rw [hs, hu, List.append_assoc, List.singleton_append]
    exact hright

end

/-! ### The order of a run -/

/-- **Declarations are collected in pre-order.**  The stack on which a tree is laid comes to be
empty, after as many visits as the tree has nodes.  Every spot of the tree is visited, and the
ways of the spots go up in lexicographic order; ways apart, the visits are those of the recursion
over the tree.  What is added to the declarations noted before are those of the nodes, in that
order. -/
theorem collectFrom_preorder (t : Tree) (found : List Declaration) :
    ∃ visited : List Spot,
      (∀ other, Visits [⟨[], t⟩] other ↔ other = visited) ∧
      visited.length = t.size ∧
      (∀ way u, ⟨way, u⟩ ∈ visited ↔ t.at? way = some u) ∧
      visited.Pairwise (fun s u => s.way < u.way) ∧
      visited.map Spot.tree = t.nodes ∧
      Tree.collectFrom [t] found = found.reverse ++ t.nodes.filterMap Tree.declaration? := by
  have hvisits : Visits [⟨[], t⟩] (spotsAt [] t) := by
    have hrun := visits_spotsAt Visits.done [] t
    rwa [List.append_nil] at hrun
  have hnodes := map_tree_spotsAt [] t
  refine ⟨spotsAt [] t, ?_, ?_, ?_, pairwise_spotsAt [] t, hnodes, ?_⟩
  · intro other
    constructor
    · exact fun hother => hvisits.unique hother
    · rintro rfl
      exact hvisits
  · rw [← length_nodes, ← hnodes, List.length_map]
  · intro way u
    simp only [mem_spotsAt, List.nil_append, exists_eq_left']
  · have hcollected := hvisits.collectFrom_eq found
    rw [List.map_cons, List.map_nil] at hcollected
    rw [hcollected, ← hnodes, List.filterMap_map]
    rfl

/-- A class with two functions in it, and a function behind it. -/
example :
    Tree.declarations (.group [
      .ofKind .classDeclaration [(Tree.named "Shelf").withRole .name,
        .ofKind .functionDeclaration [(Tree.named "fill").withRole .name],
        .ofKind .functionDeclaration [(Tree.named "clear").withRole .name]],
      .ofKind .functionDeclaration [(Tree.named "open").withRole .name]])
    = [⟨"Shelf", .classDeclaration⟩, ⟨"fill", .functionDeclaration⟩,
      ⟨"clear", .functionDeclaration⟩, ⟨"open", .functionDeclaration⟩] := by
  decide +kernel

end SpokenIndex.Script
