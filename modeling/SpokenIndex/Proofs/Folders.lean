/-
The folders above a path, all of them and in order.

The climb goes to the parent again and again, and what it passes through was so far only
known to lie below the root (`Proofs/Ancestors`).  Here nothing of it is missing: the
folders that hold a path are its components cut short, once at each place (`holders`), and
those that are registered are exactly the holders strictly below the root, deepest first.
A path that does not lie strictly below the root has none, and its way from the root
begins by going up, which is how the index finds out.

The climb has an end only if the path and the root begin with equally many slashes.
Where they do not, no holder lies below the root either.
-/
import SpokenIndex.Proofs.Descent

namespace SpokenIndex

namespace Path

open SpokenIndex.Text

variable {slashes : List Char} {here names : List (List Char)} {root path cwd : String}

/-- A list goes on from another: it begins with it and is not the same. -/
theorem goesOn_iff {names : List (List Char)} :
    (∃ way, way ≠ [] ∧ names = here ++ way) ↔ here <+: names ∧ here ≠ names := by
  constructor
  · intro hgiven
    obtain ⟨way, hway, rfl⟩ := hgiven
    exact ⟨List.prefix_append _ _, fun heq => hway (List.self_eq_append_right.mp heq)⟩
  · intro hgiven
    obtain ⟨⟨way, rfl⟩, hne⟩ := hgiven
    exact ⟨way, fun hnil => hne (by simp [hnil]), rfl⟩

/-! ### A way that goes up -/

theorem sharedLength_le (start target : List (List Char)) :
    sharedLength start target ≤ start.length := by
  induction start generalizing target with
  | nil => simp [sharedLength]
  | cons a as ih =>
      cases target with
      | nil => simp [sharedLength]
      | cons b bs =>
          by_cases hab : a = b
          · simpa [sharedLength, hab] using ih bs
          · simp [sharedLength, hab]

/-- What is shared in full is a prefix. -/
theorem prefix_of_sharedLength {start target : List (List Char)}
    (h : sharedLength start target = start.length) : start <+: target := by
  induction start generalizing target with
  | nil => exact List.nil_prefix
  | cons a as ih =>
      cases target with
      | nil => simp [sharedLength] at h
      | cons b bs =>
          by_cases hab : a = b
          · subst hab
            simp only [sharedLength, ↓reduceIte, List.length_cons, Nat.add_right_cancel_iff] at h
            exact List.cons_prefix_cons.mpr ⟨rfl, ih h⟩
          · simp [sharedLength, hab] at h

theorem leavesRoot_up (way : List (List Char)) :
    leavesRoot (joinWith ['/'] (['.', '.'] :: way)) = true := by
  cases way with
  | nil => rfl
  | cons name rest => simp [leavesRoot, joinWith]

/-- A path has a way down from the root exactly if its components go on from those of the root. -/
theorem relative?_eq_none_iff :
    relative? path root = none ↔
      ¬ ∃ way, way ≠ [] ∧ parts path.toList = parts root.toList ++ way := by
  rw [relative?, Option.map_eq_none_iff, below?, wayText]
  constructor
  · intro hnone hgiven
    obtain ⟨way, hway, hparts⟩ := hgiven
    have hcomponents : ∀ n ∈ way, IsComponent n := fun n hn =>
      isComponent_of_mem_parts path.toList n (hparts ▸ List.mem_append_right _ hn)
    obtain ⟨name, rest, rfl⟩ := List.exists_cons_of_ne_nil hway
    rw [hparts, wayBetween_append] at hnone
    simp [leavesRoot_joinWith hcomponents hway] at hnone
  · intro hno
    rcases Nat.lt_or_eq_of_le (sharedLength_le (parts root.toList) (parts path.toList)) with
      hless | hall
    · -- the way begins by going up
      obtain ⟨up, hup⟩ := Nat.exists_eq_add_of_lt hless
      have hway : wayBetween (parts root.toList) (parts path.toList) = ['.', '.'] ::
          (List.replicate up ['.', '.'] ++ (parts path.toList).drop
            (sharedLength (parts root.toList) (parts path.toList))) := by
        have hcount : (parts root.toList).length
            - sharedLength (parts root.toList) (parts path.toList) = up + 1 := by omega
        rw [wayBetween, hcount]
        rfl
      simp only [hway, leavesRoot_up, ↓reduceIte]
    · -- the path is the root
      obtain ⟨way, hway⟩ := prefix_of_sharedLength hall
      obtain rfl : way = [] := by
        by_contra hne
        exact hno ⟨way, hne, hway.symm⟩
      rw [← hway, wayBetween_append]
      rfl

/-- A path with a way down to it goes on from the root, by what is written there. -/
theorem of_relative?_eq_some {way : String} (h : relative? path root = some way) :
    ∃ down, down ≠ [] ∧ parts path.toList = parts root.toList ++ down ∧
      way.toList = joinWith ['/'] down := by
  have hbelow : relative? path root ≠ none := by simp [h]
  obtain ⟨down, hdown, hparts⟩ := not_not.mp (mt relative?_eq_none_iff.mpr hbelow)
  refine ⟨down, hdown, hparts, ?_⟩
  have hcomponents : ∀ n ∈ down, IsComponent n := fun n hn =>
    isComponent_of_mem_parts path.toList n (hparts ▸ List.mem_append_right _ hn)
  obtain ⟨name, rest, rfl⟩ := List.exists_cons_of_ne_nil hdown
  rw [relative?, below?, wayText, hparts, wayBetween_append] at h
  simp only [leavesRoot_joinWith hcomponents hdown, Bool.false_eq_true, ↓reduceIte,
    Option.map_some, Option.some.injEq] at h
  rw [← h, String.toList_ofList]

/-! ### The climb to the root -/

theorem length_render_concat (slashes : List Char) (names : List (List Char)) {name : List Char}
    (hname : name ≠ []) :
    (render slashes names).length < (render slashes (names ++ [name])).length := by
  have hpos : 0 < name.length := List.length_pos_iff.mpr hname
  by_cases hnames : names = []
  · subst hnames
    simpa [render, joinWith] using hpos
  · rw [render_concat _ _ hnames, List.length_append, List.length_cons]
    omega

/-- The beginnings of a list of components that go on from another, longest first. -/
def beyond (here names : List (List Char)) : List (List (List Char)) :=
  names.inits.reverse.filter fun start => decide (here <+: start ∧ here ≠ start)

theorem beyond_self (here : List (List Char)) : beyond here here = [] := by
  refine List.filter_eq_nil_iff.mpr fun start hstart => ?_
  rw [List.mem_reverse, List.mem_inits] at hstart
  rw [decide_eq_true_eq]
  intro hgiven
  exact hgiven.2 (hgiven.1.eq_of_length_le hstart.length_le)

/-- The folders of a path that is not below the root are not below it either. -/
theorem beyond_dropLast_eq_nil (h : ¬ (here <+: names ∧ here ≠ names)) :
    beyond here names.dropLast = [] := by
  refine List.filter_eq_nil_iff.mpr fun start hstart => ?_
  rw [List.mem_reverse, List.mem_inits] at hstart
  have hlong : start <+: names := hstart.trans (List.dropLast_prefix names)
  rw [decide_eq_true_eq]
  rintro ⟨hbegins, hne⟩
  refine h ⟨hbegins.trans hlong, ?_⟩
  rintro rfl
  exact hne (hbegins.eq_of_length_le hlong.length_le)

theorem beyond_concat (here init : List (List Char)) (name : List Char) :
    beyond here (here ++ init ++ [name])
      = (here ++ init ++ [name]) :: beyond here (here ++ init) := by
  have hinits : (here ++ init ++ [name]).inits.reverse
      = (here ++ init ++ [name]) :: (here ++ init).inits.reverse := by
    rw [List.inits_append, List.reverse_append]
    rfl
  have hbeyond : here <+: here ++ init ++ [name] ∧ here ≠ here ++ init ++ [name] := by
    rw [List.append_assoc]
    exact ⟨List.prefix_append _ _, by simp⟩
  rw [beyond, hinits, List.filter_cons, decide_eq_true hbeyond]
  rfl

/-- A climb that begins below the root goes through all folders on the way, deepest first. -/
theorem climb_eq_some (hfront : IsFront slashes) {way : List (List Char)}
    (h : ∀ n ∈ here ++ way, IsComponent n) :
    climb (render slashes here) (render slashes (here ++ way))
      = some ((beyond here (here ++ way)).map (render slashes)) := by
  -- The climb begins at the deepest name, so names are taken off the end.
  induction way using List.reverseRecOn with
  | nil =>
      rw [climb, List.append_nil, if_pos (Or.inr rfl), beyond_self]
      rfl
  | append_singleton init name ih =>
      rw [← List.append_assoc] at h ⊢
      have hinit : ∀ n ∈ here ++ init, IsComponent n := fun n hn =>
        h n (List.mem_append_left _ hn)
      have hname : IsComponent name := h name (by simp)
      have hshorter := length_render_concat slashes (here ++ init) hname.ne_nil
      have hne : render slashes (here ++ init ++ [name]) ≠ [] :=
        List.ne_nil_of_length_pos (Nat.zero_lt_of_lt hshorter)
      have hroot : render slashes (here ++ init ++ [name]) ≠ render slashes here := by
        intro heq
        have hparts := congrArg parts heq
        rw [parts_render_front hfront h,
          parts_render_front hfront fun n hn => hinit n (List.mem_append_left _ hn)] at hparts
        simp at hparts
      rw [climb, if_neg (not_or.mpr ⟨hne, hroot⟩), parent_render_concat hfront hinit hname,
        if_pos hshorter, ih hinit, beyond_concat]
      rfl

/-! ### The folders that hold a path -/

/-- The folders that hold a path, deepest first. -/
def holders (path : String) : List String :=
  (parts path.toList).dropLast.inits.reverse.map fun names =>
    String.ofList (render (leading path.toList) names)

theorem holders_of_render (hfront : IsFront slashes) (hnames : ∀ n ∈ names, IsComponent n)
    (hpath : path.toList = render slashes names) :
    holders path = names.dropLast.inits.reverse.map fun front =>
      String.ofList (render slashes front) := by
  rw [holders, hpath, leading_render_front hfront hnames, parts_render_front hfront hnames]

instance (root path : String) : Decidable (IsStrictlyBelow root path) :=
  decidable_of_iff (leading path.toList = leading root.toList ∧
    parts root.toList <+: parts path.toList ∧ parts root.toList ≠ parts path.toList)
    (and_congr_right fun _ => goesOn_iff.symm)

theorem isStrictlyBelow_render_iff (hfront : IsFront slashes)
    (h : ∀ n ∈ names, IsComponent n) :
    IsStrictlyBelow root (String.ofList (render slashes names)) ↔
      slashes = leading root.toList ∧ parts root.toList <+: names ∧
        parts root.toList ≠ names := by
  rw [IsStrictlyBelow, String.toList_ofList, leading_render_front hfront h,
    parts_render_front hfront h, goesOn_iff]

/-- What lies below a root is still below it further down. -/
theorem isStrictlyBelow_mono {init : List (List Char)} (hfront : IsFront slashes)
    (hnames : ∀ n ∈ names, IsComponent n) (hinit : init <+: names)
    (h : IsStrictlyBelow root (String.ofList (render slashes init))) :
    IsStrictlyBelow root (String.ofList (render slashes names)) := by
  rw [isStrictlyBelow_render_iff hfront fun n hn => hnames n (hinit.subset hn)] at h
  rw [isStrictlyBelow_render_iff hfront hnames]
  obtain ⟨hslashes, hbegins, hne⟩ := h
  refine ⟨hslashes, hbegins.trans hinit, ?_⟩
  rintro rfl
  exact hne (hbegins.eq_of_length_le hinit.length_le)

/-- The holders below a root are found among the components, if the slashes in front agree. -/
theorem filter_holders {rootSlashes : List Char} (hfront : IsFront slashes)
    (hrootFront : IsFront rootSlashes) (hnames : ∀ n ∈ names, IsComponent n)
    (hhere : ∀ n ∈ here, IsComponent n) (hpath : path.toList = render slashes names)
    (hroot : root.toList = render rootSlashes here) :
    ((holders path).filter fun folder => decide (IsStrictlyBelow root folder))
      = if slashes = rootSlashes then
          (beyond here names.dropLast).map fun start => String.ofList (render slashes start)
        else [] := by
  have hbelow : ∀ start ∈ names.dropLast.inits.reverse,
      (IsStrictlyBelow root (String.ofList (render slashes start)) ↔
        slashes = rootSlashes ∧ here <+: start ∧ here ≠ start) := by
    intro start hstart
    rw [List.mem_reverse, List.mem_inits] at hstart
    have hcomponents : ∀ n ∈ start, IsComponent n := fun n hn =>
      hnames n (List.mem_of_mem_dropLast (hstart.subset hn))
    rw [isStrictlyBelow_render_iff hfront hcomponents, hroot,
      leading_render_front hrootFront hhere, parts_render_front hrootFront hhere]
  have hfilter : (names.dropLast.inits.reverse.filter
        ((fun folder => decide (IsStrictlyBelow root folder)) ∘ fun start =>
          String.ofList (render slashes start)))
      = names.dropLast.inits.reverse.filter fun start =>
          decide (slashes = rootSlashes ∧ here <+: start ∧ here ≠ start) :=
    List.filter_congr fun start hstart => decide_eq_decide.mpr (hbelow start hstart)
  rw [holders_of_render hfront hnames hpath, List.filter_map, hfilter]
  by_cases hslashes : slashes = rootSlashes
  · simp only [hslashes, true_and, ↓reduceIte]
    rfl
  · simp [hslashes]

/-- A folder that holds an entry is on the way to it. -/
theorem prefix_of_mem_holders {start : String} {way way' : List String} {name : String}
    (hstart : canonical cwd start = start) (hway : ∀ n ∈ way, Node.IsName n)
    (h : ∀ n ∈ way' ++ [name], Node.IsName n)
    (hmem : under start way ∈ holders (under start (way' ++ [name]))) : way <+: way' := by
  obtain ⟨slashes, here, hfront, hall⟩ := exists_render_under hstart
  obtain ⟨hcomponents, hrender⟩ := hall way hway
  obtain ⟨hcomponents', hrender'⟩ := hall _ h
  rw [List.map_append, List.map_singleton, ← List.append_assoc] at hcomponents' hrender'
  rw [holders_of_render hfront hcomponents' hrender', List.dropLast_concat] at hmem
  obtain ⟨front, hbegins, heq⟩ := List.mem_map.mp hmem
  rw [List.mem_reverse, List.mem_inits] at hbegins
  have hfrontNames : ∀ n ∈ front, IsComponent n := fun n hn =>
    hcomponents' n (List.mem_append_left _ (hbegins.subset hn))
  have hparts := congrArg (fun holder : String => parts holder.toList) heq
  simp only [String.toList_ofList, hrender, parts_render_front hfront hfrontNames,
    parts_render_front hfront hcomponents] at hparts
  rw [hparts, List.prefix_append_right_inj, List.prefix_map_iff] at hbegins
  obtain ⟨front, hbegins, hmap⟩ := hbegins
  rwa [List.map_injective_iff.mpr (fun _ _ => String.toList_injective) hmap]

/-- The climb from a path to a root with other slashes in front never ends. -/
theorem climb_eq_none {rootSlashes : List Char} (hfront : IsFront slashes)
    (hrootFront : IsFront rootSlashes) (hhere : ∀ n ∈ here, IsComponent n)
    (h : ∀ n ∈ names, IsComponent n) (hslashes : slashes ≠ rootSlashes) :
    climb (render rootSlashes here) (render slashes names) = none := by
  refine Option.eq_none_iff_forall_ne_some.mpr fun folders hclimb => ?_
  obtain ⟨start, way, rfl, hmet, -⟩ := climb_render hfront h hclimb
  have hstart : ∀ n ∈ start, IsComponent n := fun n hn => h n (List.mem_append_left _ hn)
  have hleading := congrArg leading hmet
  rw [leading_render_front hrootFront hhere, leading_render_front hfront hstart] at hleading
  exact hslashes hleading.symm

end Path

open SpokenIndex.Path

/-- The folders that an index registers for a path are the holders of the path that lie strictly
below the root, deepest first. -/
theorem IndexPlan.foldersAbove_canonical {plan : IndexPlan} {rootDir root cwd path : String}
    (hplan : plan.root = canonical rootDir root) :
    plan.foldersAbove (canonical cwd path)
      = (holders (canonical cwd path)).filter fun folder =>
          decide (IsStrictlyBelow plan.root folder) := by
  obtain ⟨slashes, names, hfront, hnames, hpath⟩ := exists_canonical cwd path
  obtain ⟨rootSlashes, here, hrootFront, hhere, hroot⟩ := exists_canonical rootDir root
  rw [← hplan] at hroot
  have hgoesOn : relative? (canonical cwd path) plan.root = none ↔
      ¬ (here <+: names ∧ here ≠ names) := by
    rw [relative?_eq_none_iff, hpath, hroot, parts_render_front hfront hnames,
      parts_render_front hrootFront hhere, goesOn_iff]
  rw [filter_holders hfront hrootFront hnames hhere hpath hroot, foldersAbove, hpath, hroot]
  cases hrelative : relative? (canonical cwd path) plan.root with
  | none =>
      rw [beyond_dropLast_eq_nil (hgoesOn.mp hrelative), List.map_nil, ite_self]
  | some way =>
      have hbelow : here <+: names ∧ here ≠ names := by
        by_contra hno
        rw [hgoesOn.mpr hno] at hrelative
        simp at hrelative
      obtain ⟨down, hdown, rfl⟩ := goesOn_iff.mpr hbelow
      obtain ⟨init, name, rfl⟩ := (List.eq_nil_or_concat' down).resolve_left hdown
      rw [← List.append_assoc] at hnames ⊢
      have hinit : ∀ n ∈ here ++ init, IsComponent n := fun n hn =>
        hnames n (List.mem_append_left _ hn)
      simp only [parent_render_concat hfront hinit (hnames name (by simp)), List.dropLast_concat]
      -- The way says nothing of the slashes in front, which decide whether the climb ends.
      by_cases hslashes : slashes = rootSlashes
      · subst hslashes
        rw [climb_eq_some hfront hinit, if_pos rfl, Option.getD_some, List.map_map]
        rfl
      · rw [climb_eq_none hfront hrootFront hhere hinit hslashes, if_neg hslashes]
        rfl

/-- The folders that are registered for a path are the one that holds it and those registered for
that folder, none if it does not lie below the root. -/
theorem IndexPlan.foldersAbove_eq {plan : IndexPlan} {rootDir root cwd path : String}
    (hplan : plan.root = canonical rootDir root) (hpath : canonical cwd path = path) :
    plan.foldersAbove path
      = if IsStrictlyBelow plan.root (folder path) then
          folder path :: plan.foldersAbove (folder path)
        else [] := by
  obtain ⟨slashes, names, hfront, hnames, hrender⟩ := exists_canonical cwd path
  rw [hpath] at hrender
  have hinit : ∀ n ∈ names.dropLast, IsComponent n := fun n hn =>
    hnames n (List.mem_of_mem_dropLast hn)
  have hfolder : folder path = String.ofList (render slashes names.dropLast) := by
    rw [folder, hrender]
    rcases List.eq_nil_or_concat' names with rfl | ⟨init, name, rfl⟩
    · rw [parent_render_nil hfront, List.dropLast_nil]
    · rw [List.dropLast_concat] at hinit ⊢
      rw [parent_render_concat hfront hinit (hnames name (by simp))]
  have hcanonical : canonical cwd (folder path) = folder path := by
    rw [hfolder]
    exact canonical_of_render cwd hfront hinit String.toList_ofList
  rw [← hpath, foldersAbove_canonical hplan, hpath, holders_of_render hfront hnames hrender]
  by_cases hbelow : IsStrictlyBelow plan.root (folder path)
  · obtain ⟨front, last, hsplit⟩ : ∃ front last, names.dropLast = front ++ [last] := by
      refine (List.eq_nil_or_concat' _).resolve_left fun hnil => ?_
      rw [hfolder, hnil, isStrictlyBelow_render_iff hfront (by simp)] at hbelow
      exact hbelow.2.2 (List.prefix_nil.mp hbelow.2.1)
    rw [if_pos hbelow, ← hcanonical, foldersAbove_canonical hplan, hcanonical,
      holders_of_render hfront hinit (by rw [hfolder, String.toList_ofList]), hsplit,
      List.dropLast_concat, List.inits_append, List.reverse_append]
    rw [hfolder, hsplit] at hbelow ⊢
    exact List.filter_cons_of_pos (by simpa using hbelow)
  · rw [if_neg hbelow]
    refine List.filter_eq_nil_iff.mpr fun above habove => ?_
    obtain ⟨front, hbegins, rfl⟩ := List.mem_map.mp habove
    rw [List.mem_reverse, List.mem_inits] at hbegins
    rw [decide_eq_true_eq]
    intro h
    rw [hfolder] at hbelow
    exact hbelow (isStrictlyBelow_mono hfront hinit hbegins h)

end SpokenIndex
