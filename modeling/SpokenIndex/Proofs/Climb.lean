/-
When the walk over the folders above a path ends.

From a path the index goes up, from folder to folder, until it meets the root, and what it
comes through are the folders that it registers.  Whether it goes up at all is decided
before, by the way down from the root to the path.  That way is made of components, while
the walk compares whole texts, and these have slashes in front.

If the path and the root begin with equally many slashes, the two agree: a walk that is
begun meets the root, and comes through every folder between the two once, the deepest
first.  If they do not, a path whose components go on from those of the root has a way
down from it and still never meets it.  The walk goes past the place of the root to the
top, and the top is its own parent.

So a walk is described here by what it does, and not by the function that answers for it:
that function has an answer also where the walk has no end.  A call is only done once the
walks that it begins have ended (`Handles`).
-/
import SpokenIndex.Proofs.Folders
import SpokenIndex.Proofs.Watched

namespace SpokenIndex

namespace Path

open SpokenIndex.Text

variable {slashes root folder : List Char} {names a b : List (List Char)}
  {folders : List (List Char)}

/-! ### A climb, step by step -/

/-- A climb is over at the root, and where there is nothing left to climb. -/
abbrev IsOver (root folder : List Char) : Prop :=
  folder = [] ∨ folder = root

/-- A climb that ends, with the folders that it comes through.  Nothing bounds how long it takes,
but each of these derivations is finite. -/
inductive Climbs (root : List Char) : List Char → List (List Char) → Prop
  | ended {folder : List Char} (h : IsOver root folder) : Climbs root folder []
  | up {folder : List Char} {above : List (List Char)} (h : ¬ IsOver root folder)
      (habove : Climbs root (parent folder) above) : Climbs root folder (folder :: above)

/-- A climb ends exactly if some number of steps brings it to an end. -/
theorem exists_climbs_iff :
    (∃ folders, Climbs root folder folders) ↔ ∃ n, IsOver root (parent^[n] folder) := by
  constructor
  · intro hgiven
    obtain ⟨folders, h⟩ := hgiven
    induction h with
    | ended h => exact ⟨0, h⟩
    | up h habove ih =>
        obtain ⟨n, hn⟩ := ih
        exact ⟨n + 1, hn⟩
  · intro hgiven
    obtain ⟨n, hn⟩ := hgiven
    induction n generalizing folder with
    | zero => exact ⟨[], .ended hn⟩
    | succ n ih =>
        by_cases hover : IsOver root folder
        · exact ⟨[], .ended hover⟩
        · obtain ⟨above, habove⟩ := ih hn
          exact ⟨folder :: above, .up hover habove⟩

/-- The climb answers with the folders of a climb that ends. -/
theorem climbs_iff : Climbs root folder folders ↔ climb root folder = some folders := by
  constructor
  · intro h
    induction h with
    | ended h => rw [climb, if_pos h]
    | @up folder above h habove ih =>
        -- If the parent were no shorter it would be the folder itself, and there the climb has
        -- no answer.
        have hshorter : (parent folder).length < folder.length := by
          by_contra hnot
          have hsame := (parent_begins folder).eq_of_length_le (Nat.not_lt.mp hnot)
          rw [hsame, climb, if_neg h, if_neg hnot] at ih
          simp at ih
        rw [climb, if_neg h, if_pos hshorter, ih]
        rfl
  · intro h
    fun_induction climb root folder generalizing folders with
    | case1 folder hover =>
        obtain rfl := Option.some.inj h
        exact .ended hover
    | case2 folder hover hshorter ih =>
        obtain ⟨above, habove, rfl⟩ := Option.map_eq_some_iff.mp h
        exact .up hover (ih habove)
    | case3 folder hover hshorter => simp at h

/-! ### Folders between a root and a path -/

/-- The folders that hold a path and lie strictly below a root, the deepest first. -/
structure AreFoldersBetween (cwd root path : String) (folders : List String) : Prop where
  mem_iff : ∀ folder, folder ∈ folders ↔
    canonical cwd folder = folder ∧ IsStrictlyBelow folder path ∧ IsStrictlyBelow root folder
  deepestFirst : folders.Pairwise fun a b => IsStrictlyBelow b a

variable {cwd path rootPath : String}

theorem AreFoldersBetween.nodup {folders : List String}
    (h : AreFoldersBetween cwd rootPath path folders) : folders.Nodup :=
  h.deepestFirst.imp fun hbelow => hbelow.ne

theorem IsStrictlyBelow.trans {a b c : String} (hab : IsStrictlyBelow a b)
    (hbc : IsStrictlyBelow b c) : IsStrictlyBelow a c := by
  obtain ⟨hslashes, way, hway, hparts⟩ := hab
  obtain ⟨hslashes', way', -, hparts'⟩ := hbc
  exact ⟨hslashes'.trans hslashes, way ++ way', by simp [hway], by simp [hparts', hparts]⟩

/-- Above a path that is not below the root there is nothing below the root. -/
theorem AreFoldersBetween.eq_nil {folders : List String}
    (h : AreFoldersBetween cwd rootPath path folders) (hpath : ¬ IsStrictlyBelow rootPath path) :
    folders = [] := by
  refine List.eq_nil_iff_forall_not_mem.mpr fun folder hfolder => hpath ?_
  obtain ⟨-, hholds, hbelow⟩ := (h.mem_iff folder).mp hfolder
  exact hbelow.trans hholds

theorem prefix_dropLast (h : a <+: b) (hne : a ≠ b) : a <+: b.dropLast := by
  rcases List.eq_nil_or_concat' b with rfl | ⟨init, name, rfl⟩
  · exact absurd (List.prefix_nil.mp h) hne
  · rw [List.dropLast_concat]
    exact (List.prefix_concat_iff.mp h).resolve_left hne

/-- The beginnings of a list are longer and longer. -/
theorem pairwise_inits (names : List (List Char)) :
    names.inits.Pairwise fun a b => a <+: b ∧ a ≠ b := by
  induction names with
  | nil => simp
  | cons name rest ih =>
      rw [List.inits_cons, List.pairwise_cons, List.pairwise_map]
      refine ⟨fun start hstart => ?_, ih.imp fun h => ?_⟩
      · obtain ⟨more, -, rfl⟩ := List.mem_map.mp hstart
        exact ⟨List.nil_prefix, (List.cons_ne_nil _ _).symm⟩
      · exact ⟨List.cons_prefix_cons.mpr ⟨rfl, h.1⟩, fun heq => h.2 (List.cons.inj heq).2⟩

theorem isStrictlyBelow_renders (hfront : IsFront slashes) (ha : ∀ n ∈ a, IsComponent n)
    (hb : ∀ n ∈ b, IsComponent n) (h : a <+: b ∧ a ≠ b) :
    IsStrictlyBelow (String.ofList (render slashes a)) (String.ofList (render slashes b)) := by
  rw [isStrictlyBelow_render_iff hfront hb, String.toList_ofList,
    leading_render_front hfront ha, parts_render_front hfront ha]
  exact ⟨rfl, h⟩

/-- The holders of a path are the folders that it lies below; that the top holds itself makes no
difference below a root. -/
theorem areFoldersBetween_holders (cwd root path pathDir : String) :
    AreFoldersBetween cwd root (canonical pathDir path)
      ((holders (canonical pathDir path)).filter fun folder =>
        decide (IsStrictlyBelow root folder)) := by
  obtain ⟨slashes, names, hfront, hnames, hpath⟩ := exists_canonical pathDir path
  have hshort : ∀ start, start <+: names.dropLast → ∀ n ∈ start, IsComponent n :=
    fun start hstart n hn => hnames n (List.mem_of_mem_dropLast (hstart.subset hn))
  have htext : canonical pathDir path = String.ofList (render slashes names) := by
    rw [← hpath, String.ofList_toList]
  rw [holders_of_render hfront hnames hpath]
  constructor
  · intro folder
    rw [List.mem_filter, decide_eq_true_eq]
    constructor
    · intro hgiven
      obtain ⟨hholds, hbelow⟩ := hgiven
      obtain ⟨start, hstart, rfl⟩ := List.mem_map.mp hholds
      rw [List.mem_reverse, List.mem_inits] at hstart
      refine ⟨canonical_of_render cwd hfront (hshort start hstart) String.toList_ofList, ?_,
        hbelow⟩
      have hne : start ≠ [] := by
        rintro rfl
        rw [isStrictlyBelow_render_iff hfront (by simp)] at hbelow
        exact hbelow.2.2 (List.prefix_nil.mp hbelow.2.1)
      rw [htext]
      refine isStrictlyBelow_renders hfront (hshort start hstart) hnames
        ⟨hstart.trans (List.dropLast_prefix names), ?_⟩
      rintro rfl
      have hdropped := hstart.length_le
      have hpos : 0 < start.length := List.length_pos_iff.mpr hne
      rw [List.length_dropLast] at hdropped
      omega
    · intro hgiven
      obtain ⟨hcanonical, hholds, hbelow⟩ := hgiven
      refine ⟨?_, hbelow⟩
      obtain ⟨front, start, hfront', hstart, hfolder⟩ := exists_canonical cwd folder
      rw [hcanonical] at hfolder
      rw [htext, isStrictlyBelow_render_iff hfront hnames, hfolder,
        leading_render_front hfront' hstart, parts_render_front hfront' hstart] at hholds
      obtain ⟨rfl, hbegins, hne⟩ := hholds
      rw [List.mem_map]
      refine ⟨start, ?_, by rw [← hfolder, String.ofList_toList]⟩
      rw [List.mem_reverse, List.mem_inits]
      exact prefix_dropLast hbegins hne
  · refine List.Pairwise.filter _ ?_
    rw [List.pairwise_map, List.pairwise_reverse]
    refine (pairwise_inits names.dropLast).imp_of_mem fun {a b} ha hb h => ?_
    rw [List.mem_inits] at ha hb
    exact isStrictlyBelow_renders hfront (hshort a ha) (hshort b hb) h

/-! ### The walk -/

/-- A walk over the folders above a path that ends, with the folders that it comes through.  It
climbs from the folder of the path if there is a way down from the root to the path. -/
inductive WalksUp (root path : String) : List String → Prop
  | outside (h : relative? path root = none) : WalksUp root path []
  | inside {above : List (List Char)} (h : relative? path root ≠ none)
      (habove : Climbs root.toList (parent path.toList) above) :
      WalksUp root path (above.map String.ofList)

/-- A climb to a canonical root ends exactly if it begins with the slashes of the root. -/
theorem exists_climbs_of_below {rootSlashes : List Char} {here : List (List Char)}
    (hfront : IsFront slashes) (hrootFront : IsFront rootSlashes)
    (hnames : ∀ n ∈ here ++ names, IsComponent n) :
    (∃ folders, Climbs (render rootSlashes here) (render slashes (here ++ names)) folders)
      ↔ slashes = rootSlashes := by
  simp only [climbs_iff]
  by_cases hslashes : slashes = rootSlashes
  · subst hslashes
    simp [climb_eq_some hfront hnames]
  · have hhere : ∀ n ∈ here, IsComponent n := fun n hn => hnames n (List.mem_append_left _ hn)
    simp [climb_eq_none hfront hrootFront hhere hnames hslashes, hslashes]

/-- A walk ends exactly if it is not begun, or begins with the slashes of the root. -/
theorem exists_walksUp_iff (rootDir root cwd path : String) :
    (∃ folders, WalksUp (canonical rootDir root) (canonical cwd path) folders) ↔
      relative? (canonical cwd path) (canonical rootDir root) = none ∨
        leading (canonical cwd path).toList = leading (canonical rootDir root).toList := by
  obtain ⟨slashes, names, hfront, hnames, hpath⟩ := exists_canonical cwd path
  obtain ⟨rootSlashes, here, hrootFront, hhere, hroot⟩ := exists_canonical rootDir root
  by_cases hrelative : relative? (canonical cwd path) (canonical rootDir root) = none
  · simp only [hrelative, true_or, iff_true]
    exact ⟨[], .outside hrelative⟩
  · have hclimbs : (∃ folders, WalksUp (canonical rootDir root) (canonical cwd path) folders) ↔
        ∃ above, Climbs (canonical rootDir root).toList (parent (canonical cwd path).toList)
          above := by
      constructor
      · intro hgiven
        obtain ⟨folders, hwalk⟩ := hgiven
        cases hwalk with
        | outside h => exact absurd h hrelative
        | inside _ habove => exact ⟨_, habove⟩
      · intro hgiven
        obtain ⟨above, habove⟩ := hgiven
        exact ⟨_, .inside hrelative habove⟩
    have hbelow := not_not.mp (mt relative?_eq_none_iff.mpr hrelative)
    rw [hpath, hroot, parts_render_front hfront hnames, parts_render_front hrootFront hhere]
      at hbelow
    obtain ⟨down, hdown, rfl⟩ := hbelow
    obtain ⟨init, name, rfl⟩ := (List.eq_nil_or_concat' down).resolve_left hdown
    rw [← List.append_assoc] at hnames hpath
    have hinit : ∀ n ∈ here ++ init, IsComponent n := fun n hn =>
      hnames n (List.mem_append_left _ hn)
    rw [hclimbs, hpath, hroot, parent_render_concat hfront hinit (hnames name (by simp)),
      exists_climbs_of_below hfront hrootFront hinit, leading_render_front hfront hnames,
      leading_render_front hrootFront hhere]
    simp [hrelative]

end Path

open SpokenIndex.Path

namespace IndexPlan

/-- The index registers the folders of the walk, if the walk ends. -/
theorem foldersAbove_of_walksUp {plan : IndexPlan} {path : String} {folders : List String}
    (h : WalksUp plan.root path folders) : plan.foldersAbove path = folders := by
  cases h with
  | outside h => rw [foldersAbove, h]
  | inside h habove =>
      obtain ⟨way, hway⟩ := Option.ne_none_iff_exists'.mp h
      rw [foldersAbove, hway]
      simp only [climbs_iff.mp habove, Option.getD_some]

/-- **The walk above a path.**  It ends exactly if there is no way down from the root to the path,
or both begin with equally many slashes.  Wherever it ends it has come through the folders between
the two, each of them once and the deepest first, and they are what the index registers. -/
theorem walk_above (world : Surroundings) (root : String) (settings : IndexSettings)
    (extractor : Extractor) (cwd path : String) :
    let plan := forRoot world root settings extractor
    let p := canonical cwd path
    ((∃ folders, WalksUp plan.root p folders) ↔
      relative? p plan.root = none ∨ leading p.toList = leading plan.root.toList) ∧
    ∀ folders, WalksUp plan.root p folders →
      AreFoldersBetween cwd plan.root p folders ∧ folders.Nodup ∧
        (¬ IsStrictlyBelow plan.root p → folders = []) ∧ plan.foldersAbove p = folders := by
  intro plan p
  refine ⟨exists_walksUp_iff world.workDir root cwd path, fun folders hwalk => ?_⟩
  have hregistered := foldersAbove_of_walksUp hwalk
  have hbetween : AreFoldersBetween cwd plan.root p folders := by
    rw [← hregistered, foldersAbove_canonical rfl]
    exact areFoldersBetween_holders cwd plan.root path cwd
  exact ⟨hbetween, hbetween.nodup, hbetween.eq_nil, hregistered⟩

/-- The walk from a file three folders down, of which one is the root. -/
theorem walk_above_nested :
    let plan := forRoot (.calm .blank) "/r/." .standard fun _ _ => .ok []
    WalksUp plan.root (canonical "/" "r//a/b/x.ts") ["/r/a/b", "/r/a"] ∧
      AreFoldersBetween "/" plan.root (canonical "/" "r//a/b/x.ts") ["/r/a/b", "/r/a"] := by
  intro plan
  have hroot : plan.root = "/r" := by decide
  have hpath : canonical "/" "r//a/b/x.ts" = "/r/a/b/x.ts" := by decide
  have hwalk : WalksUp plan.root (canonical "/" "r//a/b/x.ts") ["/r/a/b", "/r/a"] := by
    rw [hroot, hpath]
    exact .inside (by decide)
      (.up (by decide) (.up (by decide) (.ended (by decide))))
  have hends :=
    walk_above (.calm .blank) "/r/." .standard (fun _ _ => .ok []) "/" "r//a/b/x.ts"
  exact ⟨hwalk, (hends.2 _ hwalk).1⟩

/-- With two slashes in front, a path has a way down from a root with one, and the walk above it
never ends: whatever number of steps it has taken, it is not over. -/
theorem walk_without_end :
    let r := canonical "/" "/x"
    let p := canonical "/" "//x/y/a.ts"
    ¬ IsStrictlyBelow r p ∧ (¬ ∃ folders, WalksUp r p folders) ∧
      ∀ n, ¬ IsOver r.toList (parent^[n] (parent p.toList)) := by
  intro r p
  have hway : relative? p r ≠ none := by decide
  have hslashes : leading p.toList ≠ leading r.toList := by decide
  have hends : ¬ ∃ folders, WalksUp r p folders := by
    rw [exists_walksUp_iff]
    exact not_or.mpr ⟨hway, hslashes⟩
  refine ⟨by decide, hends, fun n hover => hends ?_⟩
  obtain ⟨above, habove⟩ := exists_climbs_iff.mpr ⟨n, hover⟩
  exact ⟨_, .inside hway habove⟩

/-! ### Calls that come to an end -/

/-- The walk above a path ends, if the path is tracked; there is none above another. -/
def WalkEnds (plan : IndexPlan) (path : String) : Prop :=
  plan.isTracked path = true → ∃ folders, WalksUp plan.root path folders

/-- Every walk that a call begins ends: a creation walks up from its path, and a deletion from each
file that the tree is found to have. -/
def WalksEnd (plan : IndexPlan) (world : Surroundings) (c : Call) : Prop :=
  (c.kind = .create → plan.WalkEnds (canonical world.workDir c.path)) ∧
    (c.kind = .delete → ∀ paths, plan.listTree world = .ok paths →
      ∀ path ∈ paths, plan.WalkEnds (canonical world.workDir path))

/-- A call comes to an end, and leaves an index. -/
structure Handles (plan : IndexPlan) (world : Surroundings) (c : Call) (s after : IndexState) :
    Prop where
  ends : plan.WalksEnd world c
  leaves : (plan.handleCall world c s).1 = after

/-- A creation comes to an end if the walk above its path does. -/
theorem handles_create {plan : IndexPlan} {world : Surroundings} {path : String}
    {folders : List String} (s : IndexState)
    (h : WalksUp plan.root (canonical world.workDir path) folders) :
    plan.Handles world ⟨.create, path⟩ s (plan.handleCall world ⟨.create, path⟩ s).1 :=
  ⟨⟨fun _ _ => ⟨folders, h⟩, fun hkind => absurd hkind (by simp)⟩, rfl⟩

/-- A change begins no walk. -/
theorem handles_change (plan : IndexPlan) (world : Surroundings) (path : String) (s : IndexState) :
    plan.Handles world ⟨.change, path⟩ s (plan.handleCall world ⟨.change, path⟩ s).1 :=
  ⟨⟨fun hkind => absurd hkind (by simp), fun hkind => absurd hkind (by simp)⟩, rfl⟩

end IndexPlan

end SpokenIndex
