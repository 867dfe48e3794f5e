/-
The path of what lies beneath a folder.

A walk makes its paths by putting one name after another behind the path that it begins
with.  That path is given by the caller and need not be the real path of the place it
leads to, so nothing can be said of it but how it goes on: after one slash the names
follow, with a slash between them.  So the names can be read off the path again, two
ways down are the same if their paths are, and what is beneath the path is beneath it as
a text too.
-/
import SpokenIndex.Proofs.Ancestors

namespace SpokenIndex

namespace Path

open SpokenIndex.Text

variable {dir name : List Char} {names : List String} {path : String}

/-- A folder's path up to where the name of an entry begins. -/
def opened (dir : List Char) : List Char :=
  if dir = [] ∨ dir.getLast? = some '/' then dir else dir ++ ['/']

theorem child_eq (hname : IsComponent name) : child dir name = opened dir ++ name := by
  have hslash : ∀ rest, name ≠ '/' :: rest := by
    intro rest heq
    exact hname.no_slash (heq ▸ List.mem_cons_self)
  unfold child opened
  split
  · rename_i rest
    exact absurd rfl (hslash rest)
  · split <;> simp

theorem opened_append (hname : IsComponent name) : opened (dir ++ name) = dir ++ name ++ ['/'] := by
  have hlast : (dir ++ name).getLast? ≠ some '/' := by
    rw [List.getLast?_append_of_ne_nil _ hname.ne_nil]
    exact fun hc => hname.no_slash (List.mem_of_getLast? hc)
  have hne : dir ++ name ≠ [] := by simp [hname.ne_nil]
  rw [opened, if_neg (not_or.mpr ⟨hne, hlast⟩)]

/-- The path of names that lead down from a path. -/
def under (path : String) (names : List String) : String :=
  names.foldl join path

@[simp] theorem under_nil (path : String) : under path [] = path := rfl

@[simp] theorem under_cons (path name : String) (names : List String) :
    under path (name :: names) = under (join path name) names := rfl

theorem toList_under (path : String) (hne : names ≠ []) (h : ∀ n ∈ names, Node.IsName n) :
    (under path names).toList
      = opened path.toList ++ joinWith ['/'] (names.map String.toList) := by
  induction names generalizing path with
  | nil => exact absurd rfl hne
  | cons name rest ih =>
      have hname : IsComponent name.toList := isComponent_of_isName (h name (by simp))
      have hjoin : (join path name).toList = opened path.toList ++ name.toList := by
        rw [join, String.toList_ofList, child_eq hname]
      rw [under_cons]
      by_cases hrest : rest = []
      · subst hrest
        rw [under_nil, hjoin]
        simp [joinWith]
      · have hmap : rest.map String.toList ≠ [] := by simpa using hrest
        rw [ih _ hrest fun n hn => h n (List.mem_cons_of_mem _ hn), hjoin, opened_append hname,
          List.map_cons, joinWith_cons hmap]
        simp only [List.append_assoc]

/-- The way down can be read off the path. -/
theorem under_injective {a b : List String} (ha : a ≠ []) (hb : b ≠ [])
    (hanames : ∀ n ∈ a, Node.IsName n) (hbnames : ∀ n ∈ b, Node.IsName n)
    (h : under path a = under path b) : a = b := by
  have htext := congrArg String.toList h
  rw [toList_under path ha hanames, toList_under path hb hbnames, List.append_right_inj] at htext
  have hpieces := congrArg pieces htext
  rw [pieces_joinWith (map_toList_isComponent hanames),
    pieces_joinWith (map_toList_isComponent hbnames)] at hpieces
  exact List.map_injective_iff.mpr (fun _ _ => String.toList_injective) hpieces

/-- Under a path that ends in a name, the names follow after one slash. -/
theorem prefix_under (hpath : path.toList ≠ []) (hlast : path.toList.getLast? ≠ some '/')
    (hne : names ≠ []) (h : ∀ n ∈ names, Node.IsName n) :
    path.toList ++ ['/'] <+: (under path names).toList := by
  rw [toList_under path hne h, opened, if_neg (not_or.mpr ⟨hpath, hlast⟩)]
  exact List.prefix_append _ _

/-- Under a canonical path, the names follow its own. -/
theorem toList_under_render {slashes : List Char} {here : List (List Char)}
    (hfront : IsFront slashes) (hhere : ∀ n ∈ here, IsComponent n)
    (hpath : path.toList = render slashes here) (h : ∀ n ∈ names, Node.IsName n) :
    (under path names).toList = render slashes (here ++ names.map String.toList) := by
  by_cases hne : names = []
  · subst hne
    simpa using hpath
  have hmap : names.map String.toList ≠ [] := by simpa using hne
  rw [toList_under path hne h, hpath, render, render]
  by_cases hstart : here = []
  · -- what stands in front ends in a slash
    subst hstart
    have hopened : opened (slashes ++ joinWith ['/'] []) = slashes := by
      rcases hfront with rfl | rfl <;> rfl
    rw [hopened, List.nil_append]
  · have hlast : (slashes ++ joinWith ['/'] here).getLast? ≠ some '/' :=
      getLast?_render_ne_slash slashes hhere hstart
    have hnonempty : slashes ++ joinWith ['/'] here ≠ [] :=
      List.append_ne_nil_of_right_ne_nil _ (joinWith_ne_nil hhere hstart)
    rw [opened, if_neg (not_or.mpr ⟨hnonempty, hlast⟩), joinWith_append hstart hmap]
    simp only [List.append_assoc]

theorem canonical_of_render {slashes : List Char} {here : List (List Char)} (cwd : String)
    (hfront : IsFront slashes) (hhere : ∀ n ∈ here, IsComponent n)
    (hpath : path.toList = render slashes here) : canonical cwd path = path := by
  have habs : absolute cwd.toList path.toList = path.toList := by
    rw [hpath]
    rcases hfront with rfl | rfl <;> rfl
  rw [canonical, habs, normal, hpath, leading_render_front hfront hhere,
    parts_render_front hfront hhere, ← hpath, String.ofList_toList]

section Canonical

variable {cwd start name : String} {way way' : List String} (hstart : canonical cwd start = start)
include hstart

/-- Under a canonical path, every path is written with its slashes and names, and then its own
names. -/
theorem exists_render_under :
    ∃ slashes here, IsFront slashes ∧ ∀ names : List String, (∀ n ∈ names, Node.IsName n) →
      (∀ n ∈ here ++ names.map String.toList, IsComponent n) ∧
        (under start names).toList = render slashes (here ++ names.map String.toList) := by
  obtain ⟨slashes, here, hfront, hhere, hrender⟩ := exists_canonical cwd start
  rw [hstart] at hrender
  refine ⟨slashes, here, hfront, fun names hnames => ⟨fun n hn => ?_, ?_⟩⟩
  · exact (List.mem_append.mp hn).elim (hhere n) (map_toList_isComponent hnames n)
  · exact toList_under_render hfront hhere hrender hnames

/-- What lies under a canonical path is canonical. -/
theorem canonical_under (h : ∀ n ∈ way, Node.IsName n) :
    canonical cwd (under start way) = under start way := by
  obtain ⟨slashes, here, hfront, hall⟩ := exists_render_under hstart
  obtain ⟨hnames, hrender⟩ := hall way h
  exact canonical_of_render cwd hfront hnames hrender

/-- From a canonical path the way down can be read off, also where there is none. -/
theorem under_injective_of_canonical (hway : ∀ n ∈ way, Node.IsName n)
    (hway' : ∀ n ∈ way', Node.IsName n) (h : under start way = under start way') : way = way' := by
  obtain ⟨slashes, here, hfront, hall⟩ := exists_render_under hstart
  obtain ⟨hnames, hrender⟩ := hall way hway
  obtain ⟨hnames', hrender'⟩ := hall way' hway'
  have hparts := congrArg parts (hrender.symm.trans ((congrArg String.toList h).trans hrender'))
  rw [parts_render_front hfront hnames, parts_render_front hfront hnames',
    List.append_cancel_left_eq] at hparts
  exact List.map_injective_iff.mpr (fun _ _ => String.toList_injective) hparts

/-- The folder of an entry is the path that the way leads to without the last name. -/
theorem folder_under (h : ∀ n ∈ way ++ [name], Node.IsName n) :
    folder (under start (way ++ [name])) = under start way := by
  obtain ⟨slashes, here, hfront, hall⟩ := exists_render_under hstart
  have hway : ∀ n ∈ way, Node.IsName n := fun n hn => h n (List.mem_append_left _ hn)
  obtain ⟨hcomponents, hrender⟩ := hall way hway
  have hname : IsComponent name.toList := isComponent_of_isName (h name (by simp))
  rw [folder, (hall _ h).2, List.map_append, List.map_singleton, ← List.append_assoc,
    parent_render_concat hfront hcomponents hname, ← hrender, String.ofList_toList]

end Canonical

end Path

/-- Names under the path of a place lead to the places beneath it. -/
theorem Disk.under_placePath {names place : List String} (hplace : ∀ n ∈ place, Node.IsName n)
    (h : ∀ n ∈ names, Node.IsName n) :
    Path.under (Disk.placePath place) names = Disk.placePath (names.reverse ++ place) := by
  induction names generalizing place with
  | nil => rfl
  | cons name rest ih =>
      have hname : Node.IsName name := h name (by simp)
      rw [Path.under_cons, join_placePath hname hplace,
        ih (by simpa using ⟨hname, hplace⟩) fun n hn => h n (List.mem_cons_of_mem _ hn),
        List.reverse_cons, List.append_assoc, List.singleton_append]

end SpokenIndex
