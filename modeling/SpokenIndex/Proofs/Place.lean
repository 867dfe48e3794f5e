/-
What the path of a place says.

A place on a disk is a list of names, deepest first, and `Disk.placePath` writes it
as a path.  As long as its names are proper, nothing is lost by that: the path is
canonical, it reads back as its names, two places have one path only if they are
one, and the textual questions that the index asks of paths — the way down from a
root, the name in a folder, what lies at or beneath — are questions about lists of
names.
-/
import Mathlib
import SpokenIndex.Disk.Basic

namespace SpokenIndex

/-! ### Cutting at slashes

The cut of this library is the one of the standard library, so that what is known of
the latter can be used.
-/

theorem Text.splitWhen_eq_splitOnP (p : Char → Bool) (s : List Char) :
    Text.splitWhen p s = s.splitOnP p := by
  induction s with
  | nil => rfl
  | cons c rest ih =>
      rw [Text.splitWhen, List.splitOnP_cons_eq_if_modifyHead, ih]
      by_cases hc : p c = true
      · rw [if_pos hc, if_pos hc]
      · rw [if_neg hc, if_neg hc]
        cases hrest : rest.splitOnP p with
        | nil => exact absurd hrest (List.splitOnP_ne_nil p rest)
        | cons field fields => rfl

theorem Text.splitAt_joinWith {fields : List (List Char)} {sep : Char}
    (hsep : ∀ f ∈ fields, sep ∉ f) (hne : fields ≠ []) :
    Text.splitAt sep (Text.joinWith [sep] fields) = fields := by
  rw [Text.splitAt, Text.splitWhen_eq_splitOnP]
  exact List.splitOn_intercalate sep hsep hne

@[simp] theorem Text.joinWith_singleton (sep field : List Char) :
    Text.joinWith sep [field] = field := by simp [Text.joinWith]

theorem Text.joinWith_cons {sep field : List Char} {fields : List (List Char)}
    (hne : fields ≠ []) :
    Text.joinWith sep (field :: fields) = field ++ sep ++ Text.joinWith sep fields :=
  List.intercalate_cons_of_ne_nil hne

theorem Text.joinWith_append {sep : List Char} {a b : List (List Char)} (ha : a ≠ [])
    (hb : b ≠ []) : Text.joinWith sep (a ++ b)
      = Text.joinWith sep a ++ sep ++ Text.joinWith sep b := by
  induction a with
  | nil => exact absurd rfl ha
  | cons f rest ih =>
      by_cases hrest : rest = []
      · subst hrest
        rw [List.singleton_append, Text.joinWith_cons hb, Text.joinWith_singleton]
      · have hne : rest ++ b ≠ [] := by simp [hrest]
        rw [List.cons_append, Text.joinWith_cons hne, ih hrest, Text.joinWith_cons hrest]
        simp only [List.append_assoc]

theorem Text.joinWith_concat {sep field : List Char} {fields : List (List Char)}
    (hne : fields ≠ []) :
    Text.joinWith sep (fields ++ [field]) = Text.joinWith sep fields ++ sep ++ field := by
  rw [Text.joinWith_append hne (by simp), Text.joinWith_singleton]

/-- What is in a field is in the joined text. -/
theorem Text.mem_joinWith {sep field : List Char} {fields : List (List Char)} {c : Char}
    (hfield : field ∈ fields) (hc : c ∈ field) : c ∈ Text.joinWith sep fields := by
  induction fields with
  | nil => exact absurd hfield List.not_mem_nil
  | cons first rest ih =>
      by_cases hrest : rest = []
      · subst hrest
        obtain rfl := List.mem_singleton.mp hfield
        rwa [Text.joinWith_singleton]
      · rw [Text.joinWith_cons hrest]
        rcases List.mem_cons.mp hfield with rfl | hfield
        · exact List.mem_append_left _ (List.mem_append_left _ hc)
        · exact List.mem_append_right _ (ih hfield)

namespace Path

/-- A component that stands for itself on the way down. -/
structure IsComponent (name : List Char) : Prop where
  ne_nil : name ≠ []
  ne_dot : name ≠ ['.']
  ne_dots : name ≠ ['.', '.']
  no_slash : '/' ∉ name

theorem isComponent_of_isName {name : String} (h : Node.IsName name) :
    IsComponent name.toList := by
  obtain ⟨hempty, hdot, hdots, hslash⟩ := h
  refine ⟨fun hc => hempty ?_, fun hc => hdot ?_, fun hc => hdots ?_, hslash⟩ <;>
    exact String.toList_injective hc

theorem map_toList_isComponent {names : List String} (h : ∀ n ∈ names, Node.IsName n) :
    ∀ c ∈ names.map String.toList, IsComponent c := by
  intro c hc
  obtain ⟨n, hn, rfl⟩ := List.mem_map.mp hc
  exact isComponent_of_isName (h n hn)

variable {names : List (List Char)}

theorem pieces_slash_cons (s : List Char) : pieces ('/' :: s) = pieces s := by
  simp [pieces, Text.splitAt, Text.splitWhen]

theorem pieces_joinWith (h : ∀ n ∈ names, IsComponent n) :
    pieces (Text.joinWith ['/'] names) = names := by
  by_cases hne : names = []
  · subst hne
    rfl
  · rw [pieces, Text.splitAt_joinWith (fun n hn => (h n hn).no_slash) hne]
    refine List.filter_eq_self.mpr fun n hn => ?_
    simpa using (h n hn).ne_nil

/-- Walking down proper components meets nothing that goes up or stays. -/
theorem foldl_step (h : ∀ n ∈ names, IsComponent n) :
    ∀ here : List (List Char), names.foldl step here = names.reverse ++ here := by
  induction names with
  | nil => intro here; rfl
  | cons n rest ih =>
      intro here
      have hn : IsComponent n := h n (by simp)
      rw [List.foldl_cons, ih (fun m hm => h m (by simp [hm])), step, if_neg hn.ne_dot,
        if_neg hn.ne_dots]
      simp

theorem parts_render (h : ∀ n ∈ names, IsComponent n) : parts (render ['/'] names) = names := by
  rw [parts, render, List.singleton_append, pieces_slash_cons, pieces_joinWith h, foldl_step h]
  simp

theorem head?_joinWith_ne_slash (h : ∀ n ∈ names, IsComponent n) :
    (Text.joinWith ['/'] names).head? ≠ some '/' := by
  cases names with
  | nil => simp [Text.joinWith]
  | cons n rest =>
      have hn : IsComponent n := h n (by simp)
      obtain ⟨c, cs, rfl⟩ := List.exists_cons_of_ne_nil hn.ne_nil
      have hc : c ≠ '/' := fun hcon => hn.no_slash (by simp [hcon])
      cases rest <;> simpa [Text.joinWith] using hc

theorem leading_render (h : ∀ n ∈ names, IsComponent n) :
    leading (render ['/'] names) = ['/'] := by
  have hhead := head?_joinWith_ne_slash h
  rw [render, List.singleton_append]
  cases hj : Text.joinWith ['/'] names with
  | nil => rfl
  | cons c cs =>
      have hc : c ≠ '/' := by simpa [hj] using hhead
      unfold leading
      split <;> simp_all

/-- A path that is written without detours is its own normal form. -/
theorem normal_render (h : ∀ n ∈ names, IsComponent n) :
    normal (render ['/'] names) = render ['/'] names := by
  rw [normal, leading_render h, parts_render h]

theorem getLast?_joinWith_ne_slash (h : ∀ n ∈ names, IsComponent n) :
    (Text.joinWith ['/'] names).getLast? ≠ some '/' := by
  have hlast : ∀ n, IsComponent n → n.getLast? ≠ some '/' := fun n hn hc =>
    hn.no_slash (List.mem_of_getLast? hc)
  induction names using List.reverseRecOn with
  | nil => simp [Text.joinWith]
  | append_singleton init n _ =>
      have hn : IsComponent n := h n (by simp)
      by_cases hinit : init = []
      · subst hinit
        simpa using hlast n hn
      · rw [Text.joinWith_concat hinit, List.getLast?_append_of_ne_nil _ hn.ne_nil]
        exact hlast n hn

theorem joinWith_ne_nil (h : ∀ n ∈ names, IsComponent n) (hne : names ≠ []) :
    Text.joinWith ['/'] names ≠ [] := by
  intro hc
  have hback := pieces_joinWith h
  rw [hc] at hback
  exact hne (by rw [← hback]; rfl)

theorem getLast?_render_ne_slash (slashes : List Char) (h : ∀ n ∈ names, IsComponent n)
    (hne : names ≠ []) : (render slashes names).getLast? ≠ some '/' := by
  rw [render, List.getLast?_append_of_ne_nil _ (joinWith_ne_nil h hne)]
  exact getLast?_joinWith_ne_slash h

theorem render_singleton (slashes name : List Char) : render slashes [name] = slashes ++ name := by
  rw [render, Text.joinWith_singleton]

/-- One more component is written behind a slash. -/
theorem render_concat (slashes name : List Char) (hne : names ≠ []) :
    render slashes (names ++ [name]) = render slashes names ++ '/' :: name := by
  rw [render, Text.joinWith_concat hne, render]
  simp

/-- A path that is not absolute is put behind a slash, unless there is one. -/
theorem child_of_head?_ne {dir path : List Char} (hpath : path.head? ≠ some '/') :
    child dir path
      = if dir = [] ∨ dir.getLast? = some '/' then dir ++ path else dir ++ '/' :: path := by
  unfold child
  split
  · exact absurd rfl hpath
  · rfl

/-- Going down to a name puts the name at the end. -/
theorem child_render {name : List Char} (h : ∀ n ∈ names, IsComponent n)
    (hname : IsComponent name) :
    child (render ['/'] names) name = render ['/'] (names ++ [name]) := by
  have hhead : name.head? ≠ some '/' := fun hc => hname.no_slash (List.mem_of_head? hc)
  rw [child_of_head?_ne hhead]
  by_cases hne : names = []
  · subst hne
    simp [render, Text.joinWith]
  · have hlast := getLast?_render_ne_slash ['/'] h hne
    rw [if_neg fun hcon => hcon.elim (by simp [render]) hlast, render_concat _ _ hne]

/-- What a joined text continues with is a longer list of the same components. -/
theorem prefix_joinWith_iff {a b : List (List Char)} (ha : ∀ n ∈ a, IsComponent n)
    (hb : ∀ n ∈ b, IsComponent n) (hane : a ≠ []) :
    Text.joinWith ['/'] a ++ ['/'] <+: Text.joinWith ['/'] b ↔ ∃ x, x ≠ [] ∧ b = a ++ x := by
  constructor
  · intro hgiven
    obtain ⟨t, ht⟩ := hgiven
    have hbne : b ≠ [] := by
      intro heq
      obtain rfl := heq
      simp [Text.joinWith] at ht
    have hb' := Text.splitAt_joinWith (fun n hn => (hb n hn).no_slash) hbne
    have ha' := Text.splitAt_joinWith (fun n hn => (ha n hn).no_slash) hane
    rw [Text.splitAt, Text.splitWhen_eq_splitOnP, ← List.splitOn_eq_splitOnP] at ha' hb'
    rw [← ht, List.append_assoc, List.singleton_append, List.splitOn_append_cons_self, ha'] at hb'
    exact ⟨t.splitOn '/', List.splitOn_ne_nil _ _, hb'.symm⟩
  · intro hgiven
    obtain ⟨x, hx, rfl⟩ := hgiven
    rw [Text.joinWith_append hane hx]
    exact List.prefix_append _ _

/-! ### The way between two paths -/

theorem sharedLength_append (root : List (List Char)) :
    sharedLength root (root ++ names) = root.length := by
  induction root with
  | nil => cases names <;> rfl
  | cons n rest ih => simp [sharedLength, ih]

theorem wayBetween_append (root names : List (List Char)) :
    wayBetween root (root ++ names) = names := by
  simp [wayBetween, sharedLength_append]

/-- A way that begins with a proper component does not leave the root. -/
theorem leavesRoot_joinWith (h : ∀ n ∈ names, IsComponent n) (hne : names ≠ []) :
    leavesRoot (Text.joinWith ['/'] names) = false := by
  have hback := pieces_joinWith h
  have hfirst : ∀ s, pieces (Text.joinWith ['/'] names) = s → s.head? ≠ some ['.'] ∧
      s.head? ≠ some ['.', '.'] := by
    intro s heq
    obtain rfl := heq
    rw [hback]
    obtain ⟨n, rest, rfl⟩ := List.exists_cons_of_ne_nil hne
    have hn : IsComponent n := h n (by simp)
    exact ⟨by simpa using hn.ne_dot, by simpa using hn.ne_dots⟩
  unfold leavesRoot
  rw [Bool.or_eq_false_iff, Bool.or_eq_false_iff]
  refine ⟨⟨?_, ?_⟩, ?_⟩
  · refine beq_eq_false_iff_ne.mpr fun hc => ?_
    exact (hfirst _ rfl).1 (by rw [hc]; rfl)
  · refine beq_eq_false_iff_ne.mpr fun hc => ?_
    exact (hfirst _ rfl).2 (by rw [hc]; rfl)
  · by_contra hc
    rw [Bool.not_eq_false, List.isPrefixOf_iff_prefix] at hc
    obtain ⟨rest, hrest⟩ := hc
    refine (hfirst _ rfl).2 ?_
    rw [← hrest]
    simp [pieces, Text.splitAt, Text.splitWhen]

theorem below?_render {root : List (List Char)} (hroot : ∀ n ∈ root, IsComponent n)
    (h : ∀ n ∈ names, IsComponent n) (hne : names ≠ []) :
    below? (render ['/'] root) (render ['/'] (root ++ names))
      = some (Text.joinWith ['/'] names) := by
  have hall : ∀ n ∈ root ++ names, IsComponent n := by
    intro n hn
    rcases List.mem_append.mp hn with hn | hn
    · exact hroot n hn
    · exact h n hn
  have hway : wayText (render ['/'] root) (render ['/'] (root ++ names))
      = Text.joinWith ['/'] names := by
    rw [wayText, parts_render hroot, parts_render hall, wayBetween_append]
    cases names with
    | nil => exact absurd rfl hne
    | cons n rest => rfl
  rw [below?, hway]
  simp [leavesRoot_joinWith h hne]

end Path

/-! ### Paths of places -/

namespace Disk

open SpokenIndex.Path

variable {place base way : List String}

theorem placePath_toList (place : List String) :
    (placePath place).toList = render ['/'] (place.reverse.map String.toList) := by
  simp [placePath, render, Text.joinWith]

theorem components_of_names (h : ∀ n ∈ place, Node.IsName n) :
    ∀ c ∈ place.reverse.map String.toList, IsComponent c :=
  map_toList_isComponent fun n hn => h n (List.mem_reverse.mp hn)

theorem parts_placePath (h : ∀ n ∈ place, Node.IsName n) :
    parts (placePath place).toList = place.reverse.map String.toList := by
  rw [placePath_toList, parts_render (components_of_names h)]

/-- Two places with one path are one place. -/
theorem placePath_injective {a b : List String} (ha : ∀ n ∈ a, Node.IsName n)
    (hb : ∀ n ∈ b, Node.IsName n) (h : placePath a = placePath b) : a = b := by
  have hparts : a.reverse.map String.toList = b.reverse.map String.toList := by
    rw [← parts_placePath ha, ← parts_placePath hb, h]
  have hinj : Function.Injective (List.map String.toList) :=
    List.map_injective_iff.mpr fun _ _ => String.toList_injective
  exact List.reverse_injective (hinj hparts)

/-- The path of a place is canonical, whatever the working directory is. -/
theorem canonical_placePath (cwd : String) (h : ∀ n ∈ place, Node.IsName n) :
    canonical cwd (placePath place) = placePath place := by
  have habs : absolute cwd.toList (placePath place).toList = (placePath place).toList := by
    rw [placePath_toList]
    rfl
  rw [canonical, habs]
  refine String.toList_injective ?_
  rw [String.toList_ofList, placePath_toList, normal_render (components_of_names h)]

theorem relative?_placePath (hbase : ∀ n ∈ base, Node.IsName n)
    (hway : ∀ n ∈ way, Node.IsName n) (hne : way ≠ []) :
    relative? (placePath (way ++ base)) (placePath base)
      = some ("/".intercalate way.reverse) := by
  have hmap : (way ++ base).reverse.map String.toList
      = base.reverse.map String.toList ++ way.reverse.map String.toList := by simp
  rw [relative?, placePath_toList, placePath_toList, hmap,
    below?_render (components_of_names hbase) (components_of_names hway) (by simpa using hne)]
  refine congrArg some (String.toList_injective ?_)
  simp [Text.joinWith]

theorem relative?_placePath_self (hbase : ∀ n ∈ base, Node.IsName n) :
    relative? (placePath base) (placePath base) = none := by
  have hway : wayBetween (base.reverse.map String.toList) (base.reverse.map String.toList)
      = [] := by
    simpa using wayBetween_append (base.reverse.map String.toList) []
  rw [relative?, below?, wayText, parts_placePath hbase, hway]
  rfl

/-- The path of an entry of a folder. -/
theorem join_placePath {name : String} (h : Node.IsName name)
    (hplace : ∀ n ∈ place, Node.IsName n) :
    Path.join (placePath place) name = placePath (name :: place) := by
  refine String.toList_injective ?_
  rw [Path.join, String.toList_ofList, placePath_toList, placePath_toList,
    child_render (components_of_names hplace) (isComponent_of_isName h)]
  simp

/-- What is not at or beneath a path is not the path. -/
theorem ne_of_not_isAtOrBeneath {a b : String} (h : isAtOrBeneath a b = false) : a ≠ b := by
  intro heq
  obtain rfl := heq
  simp [isAtOrBeneath] at h

/-- A path lies at or beneath another exactly if its place does.  The top folder is left out,
since its path ends in the slash that would have to follow. -/
theorem isAtOrBeneath_placePath {a b : List String} (ha : ∀ n ∈ a, Node.IsName n)
    (hb : ∀ n ∈ b, Node.IsName n) (hne : a ≠ []) :
    isAtOrBeneath (placePath a) (placePath b) = true ↔ a <:+ b := by
  have hmap : ∀ x : List (List Char), b.reverse.map String.toList
      = a.reverse.map String.toList ++ x → a <:+ b := by
    intro x hx
    rw [List.map_eq_append_iff] at hx
    obtain ⟨l, r, hlr, hl, -⟩ := hx
    have hla : l = a.reverse :=
      List.map_injective_iff.mpr (fun _ _ => String.toList_injective) hl
    rw [← List.reverse_prefix]
    exact ⟨r, by rw [hlr, hla]⟩
  have hane : a.reverse.map String.toList ≠ [] := by simpa using hne
  have hprefix := prefix_joinWith_iff (components_of_names ha) (components_of_names hb) hane
  rw [isAtOrBeneath, Bool.or_eq_true, beq_iff_eq, List.isPrefixOf_iff_prefix, placePath_toList,
    placePath_toList, render, render, List.append_assoc, List.prefix_append_right_inj, hprefix]
  constructor
  · intro hgiven
    rcases hgiven with h | ⟨x, -, hx⟩
    · rw [placePath_injective hb ha h]
    · exact hmap x hx
  · intro hgiven
    obtain ⟨x, rfl⟩ := hgiven
    by_cases hx : x = []
    · subst hx
      exact Or.inl rfl
    · exact Or.inr ⟨x.reverse.map String.toList, by simpa using hx, by simp⟩

end Disk

end SpokenIndex
