/-
The folders above a path.

A canonical path is written with one or two slashes and then its components, so
everything that is asked of it is asked of a list of components.  Its parent is the
path without the last of them; the parent of a path without components is the path
itself.  The climb from a folder goes to the parent, again and again, and ends at the
root if it meets it.  What it has gone through then continues the components of the
root, each time by at least one.
-/
import SpokenIndex.Index.Store
import SpokenIndex.Proofs.Place

namespace SpokenIndex

namespace Path

open SpokenIndex.Text

variable {s slashes root name : List Char} {names : List (List Char)}
  {folders : List (List Char)}

/-! ### Canonical paths -/

/-- The slashes that can stand in front of a canonical path. -/
def IsFront (slashes : List Char) : Prop :=
  slashes = ['/'] ∨ slashes = ['/', '/']

theorem isFront_leading (s : List Char) : IsFront (leading s) := by
  unfold leading
  split
  · exact Or.inl rfl
  · exact Or.inr rfl
  · exact Or.inl rfl

/-- A step keeps proper components, whatever the piece is. -/
theorem isComponent_of_mem_step {here : List (List Char)} {piece : List Char}
    (hhere : ∀ n ∈ here, IsComponent n) (hne : piece ≠ []) (hslash : '/' ∉ piece) :
    ∀ n ∈ step here piece, IsComponent n := by
  intro n hn
  unfold step at hn
  split at hn
  · exact hhere n hn
  · split at hn
    · exact hhere n (List.mem_of_mem_tail hn)
    · rcases List.mem_cons.mp hn with rfl | hn
      · exact ⟨hne, ‹_›, ‹_›, hslash⟩
      · exact hhere n hn

theorem isComponent_of_mem_parts (s : List Char) : ∀ n ∈ parts s, IsComponent n := by
  have hpieces : ∀ piece ∈ pieces s, piece ≠ [] ∧ '/' ∉ piece := by
    intro piece hpiece
    obtain ⟨hfield, hne⟩ := List.mem_filter.mp hpiece
    refine ⟨by simpa using hne, fun hslash => ?_⟩
    have hcut := not_of_mem_splitWhen hfield '/' hslash
    simp at hcut
  have hwalk : ∀ n ∈ (pieces s).foldl step [], IsComponent n := by
    refine List.foldlRecOn (motive := fun here => ∀ n ∈ here, IsComponent n) (pieces s) step
      (by simp) fun here hhere piece hpiece => ?_
    obtain ⟨hne, hslash⟩ := hpieces piece hpiece
    exact isComponent_of_mem_step hhere hne hslash
  intro n hn
  exact hwalk n (List.mem_reverse.mp hn)

/-- A canonical path reads back as the components that it was written with. -/
theorem parts_render_front (hfront : IsFront slashes) (h : ∀ n ∈ names, IsComponent n) :
    parts (render slashes names) = names := by
  rcases hfront with rfl | rfl
  · exact parts_render h
  · have hcut : parts (render ['/', '/'] names) = parts (render ['/'] names) := by
      rw [parts, render, List.cons_append, pieces_slash_cons, parts, render]
    rw [hcut, parts_render h]

theorem leading_render_front (hfront : IsFront slashes) (h : ∀ n ∈ names, IsComponent n) :
    leading (render slashes names) = slashes := by
  rcases hfront with rfl | rfl
  · exact leading_render h
  · have hhead := head?_joinWith_ne_slash h
    rw [render]
    cases hj : joinWith ['/'] names with
    | nil => rfl
    | cons c cs =>
        have hc : c ≠ '/' := by simpa [hj] using hhead
        simp [leading, hc]

/-! ### The parent -/

/-- From the end, everything up to the last separator is dropped. -/
theorem dropWhile_reverse {sep : Char} {tail : List Char} (htail : sep ∉ tail)
    (front : List Char) :
    (front ++ sep :: tail).reverse.dropWhile (· ≠ sep) = sep :: front.reverse := by
  rw [List.reverse_append, List.reverse_cons, List.append_assoc,
    List.dropWhile_append_of_pos fun c hc => by
      simpa using fun heq : c = sep => htail (heq ▸ List.mem_reverse.mp hc),
    List.singleton_append, List.dropWhile_cons_of_neg (by simp)]

theorem parent_append_slash (front : List Char) (hname : '/' ∉ name) :
    parent (front ++ '/' :: name)
      = if (front ++ ['/']).all (· == '/') then front ++ ['/']
        else dropEndWhile (· == '/') (front ++ ['/']) := by
  have hhead : ((front ++ '/' :: name).reverse.dropWhile (· ≠ '/')).reverse = front ++ ['/'] := by
    rw [dropWhile_reverse hname, List.reverse_cons, List.reverse_reverse]
  rw [parent, hhead]

/-- Above the top there is only the top. -/
theorem parent_render_nil (hfront : IsFront slashes) :
    parent (render slashes []) = render slashes [] := by
  rcases hfront with rfl | rfl <;> rfl

theorem parent_render_concat (hfront : IsFront slashes) (h : ∀ n ∈ names, IsComponent n)
    (hname : IsComponent name) :
    parent (render slashes (names ++ [name])) = render slashes names := by
  by_cases hne : names = []
  · subst hne
    rw [List.nil_append, render_singleton]
    rcases hfront with rfl | rfl
    · exact parent_append_slash [] hname.no_slash
    · exact parent_append_slash ['/'] hname.no_slash
  · have hlast := getLast?_render_ne_slash slashes h hne
    obtain ⟨init, c, hinit⟩ : ∃ init c, render slashes names = init ++ [c] := by
      refine (List.eq_nil_or_concat' _).resolve_left fun hnil => ?_
      exact joinWith_ne_nil h hne (List.append_eq_nil_iff.mp hnil).2
    have hc : c ≠ '/' := by simpa [hinit] using hlast
    rw [render_concat _ _ hne, parent_append_slash _ hname.no_slash, hinit]
    simp [dropEndWhile, hc]

/-! ### The climb -/

/-- A climb that meets the root goes through folders that continue the root. -/
theorem climb_render (hfront : IsFront slashes) (h : ∀ n ∈ names, IsComponent n)
    (hclimb : climb root (render slashes names) = some folders) :
    ∃ here way, names = here ++ way ∧ root = render slashes here ∧
      ∀ folder ∈ folders, ∃ down, down ≠ [] ∧ down <+: way ∧
        folder = render slashes (here ++ down) := by
  have hne : ∀ names, render slashes names ≠ [] := by
    rcases hfront with rfl | rfl <;> simp [render]
  induction names using List.reverseRecOn generalizing folders with
  | nil =>
      rw [climb] at hclimb
      split at hclimb
      · rename_i hmet
        obtain rfl := Option.some.inj hclimb
        exact ⟨[], [], rfl, (hmet.resolve_left (hne [])).symm, by simp⟩
      · simp [parent_render_nil hfront] at hclimb
  | append_singleton init name ih =>
      have hinit : ∀ n ∈ init, IsComponent n := fun n hn => h n (List.mem_append_left _ hn)
      have hname : IsComponent name := h name (by simp)
      rw [climb] at hclimb
      split at hclimb
      · rename_i hmet
        obtain rfl := Option.some.inj hclimb
        exact ⟨init ++ [name], [], by simp, (hmet.resolve_left (hne _)).symm, by simp⟩
      · rw [parent_render_concat hfront hinit hname] at hclimb
        split at hclimb
        · obtain ⟨above, habove, rfl⟩ := Option.map_eq_some_iff.mp hclimb
          obtain ⟨here, way, rfl, hroot, hall⟩ := ih hinit habove
          refine ⟨here, way ++ [name], by simp, hroot, fun folder hfolder => ?_⟩
          rcases List.mem_cons.mp hfolder with rfl | hfolder
          · exact ⟨way ++ [name], by simp, List.prefix_refl _, by simp⟩
          · obtain ⟨down, hdown, hway, rfl⟩ := hall folder hfolder
            exact ⟨down, hdown, hway.trans (List.prefix_append _ _), rfl⟩
        · simp at hclimb

/-! ### Strictly below -/

/-- A path lies strictly below another: it goes on from there by at least one component. -/
def IsStrictlyBelow (root path : String) : Prop :=
  leading path.toList = leading root.toList ∧
    ∃ way, way ≠ [] ∧ parts path.toList = parts root.toList ++ way

theorem IsStrictlyBelow.ne {root path : String} (h : IsStrictlyBelow root path) : path ≠ root := by
  obtain ⟨-, way, hway, hparts⟩ := h
  intro heq
  rw [heq] at hparts
  exact hway (List.self_eq_append_right.mp hparts)

theorem isStrictlyBelow_render {here down : List (List Char)} {root path : String}
    (hfront : IsFront slashes) (hall : ∀ n ∈ here ++ down, IsComponent n) (hdown : down ≠ [])
    (hroot : root.toList = render slashes here)
    (hpath : path.toList = render slashes (here ++ down)) : IsStrictlyBelow root path := by
  have hhere : ∀ n ∈ here, IsComponent n := fun n hn => hall n (List.mem_append_left _ hn)
  rw [IsStrictlyBelow, hroot, hpath, leading_render_front hfront hall,
    leading_render_front hfront hhere, parts_render_front hfront hall,
    parts_render_front hfront hhere]
  exact ⟨rfl, down, hdown, rfl⟩

/-- A canonical path as its leading slashes and its names. -/
theorem exists_canonical (cwd path : String) :
    ∃ slashes names, IsFront slashes ∧ (∀ n ∈ names, IsComponent n) ∧
      (canonical cwd path).toList = render slashes names := by
  refine ⟨_, _, isFront_leading (absolute cwd.toList path.toList),
    isComponent_of_mem_parts (absolute cwd.toList path.toList), ?_⟩
  rw [canonical, String.toList_ofList]
  rfl

/-- A path that is canonical already has a canonical form without a working directory. -/
theorem pathRefusal_of_canonical {world : Surroundings} {path : String}
    (h : canonical world.workDir path = path) : world.pathRefusal path = none := by
  obtain ⟨slashes, names, hfront, -, hrender⟩ := exists_canonical world.workDir path
  rw [h] at hrender
  refine if_pos (Text.startsWith_iff.mpr ?_)
  rw [hrender, render]
  rcases hfront with rfl | rfl
  · exact List.prefix_append _ _
  · exact ⟨_, (List.append_assoc ['/'] ['/'] _).symm⟩

theorem parent_canonical (cwd path : String) :
    ∃ slashes names, IsFront slashes ∧ (∀ n ∈ names, IsComponent n) ∧
      parent (canonical cwd path).toList = render slashes names := by
  obtain ⟨slashes, names, hfront, hnames, hpath⟩ := exists_canonical cwd path
  rw [hpath]
  rcases List.eq_nil_or_concat' names with rfl | ⟨init, name, rfl⟩
  · exact ⟨slashes, [], hfront, by simp, parent_render_nil hfront⟩
  · have hinit : ∀ n ∈ init, IsComponent n := fun n hn => hnames n (List.mem_append_left _ hn)
    exact ⟨slashes, init, hfront, hinit,
      parent_render_concat hfront hinit (hnames name (by simp))⟩

end Path

open SpokenIndex.Path

/-- The folders above a canonical path lie strictly below the root. -/
theorem IndexPlan.isStrictlyBelow_of_mem_foldersAbove {plan : IndexPlan} {cwd path folder : String}
    (h : folder ∈ plan.foldersAbove (canonical cwd path)) : IsStrictlyBelow plan.root folder := by
  unfold foldersAbove at h
  split at h
  · simp at h
  · obtain ⟨found, hfound, rfl⟩ := List.mem_map.mp h
    obtain ⟨slashes, names, hfront, hnames, hparent⟩ := parent_canonical cwd path
    rw [hparent] at hfound
    cases hclimb : climb plan.root.toList (render slashes names) with
    | none => simp [hclimb] at hfound
    | some folders =>
        rw [hclimb] at hfound
        obtain ⟨here, way, rfl, hroot, hall⟩ := climb_render hfront hnames hclimb
        obtain ⟨down, hdown, hway, rfl⟩ := hall found hfound
        refine isStrictlyBelow_render hfront (fun n hn => hnames n ?_) hdown hroot
          String.toList_ofList
        rcases List.mem_append.mp hn with hn | hn
        · exact List.mem_append_left _ hn
        · exact List.mem_append_right _ (hway.subset hn)

end SpokenIndex
