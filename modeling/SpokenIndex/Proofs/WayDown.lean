/-
The way down from a root, and back.

Both ends of a way may be written with `.`, `..` and slashes too many.  What decides is the
components of their canonical forms: there is a way down exactly if those of the path go on
from those of the root, and the way is what they go on by.  So siblings whose names begin
alike are told apart, and a name that begins with two dots is a name.

A way that is joined to the root again, as the root is written, leads back to the path.  The
root and the way meet at a slash, so the pieces of the two stand side by side
(`pieces_child`), and those of the way are walked down from where the root has led.

Paths that begin with two slashes have a root of their own, which a way does not tell; all
of this is about paths with one.
-/
import SpokenIndex.Proofs.Fields
import SpokenIndex.Proofs.Folders

namespace SpokenIndex.Path

open SpokenIndex.Text

variable {dir way s : List Char} {names : List (List Char)} {cwd path root : String}

/-! ### One slash in front -/

/-- An absolute path with one slash in front. -/
def IsSingle (s : List Char) : Prop :=
  s.head? = some '/' ∧ s.tail.head? ≠ some '/'

instance (s : List Char) : Decidable (IsSingle s) := inferInstanceAs (Decidable (_ ∧ _))

theorem IsSingle.ne_nil (h : IsSingle s) : s ≠ [] := by
  rintro rfl
  exact absurd h.1 (by simp)

theorem absolute_of_isSingle (h : IsSingle s) (cwd : List Char) : absolute cwd s = s := by
  obtain ⟨rest, rfl⟩ := List.head?_eq_some_iff.mp h.1
  rfl

theorem leading_of_isSingle (h : IsSingle s) : leading s = ['/'] := by
  obtain ⟨rest, rfl⟩ := List.head?_eq_some_iff.mp h.1
  cases rest with
  | nil => rfl
  | cons c rest =>
      have hc : c ≠ '/' := by simpa using h.2
      simp [leading, hc]

theorem isSingle_child (hdir : IsSingle dir) (hway : way.head? ≠ some '/') :
    IsSingle (child dir way) := by
  obtain ⟨rest, rfl⟩ := List.head?_eq_some_iff.mp hdir.1
  rw [child_of_head?_ne hway]
  cases rest with
  | nil => simpa [IsSingle] using hway
  | cons c rest =>
      have hc : c ≠ '/' := by simpa using hdir.2
      split_ifs <;> simpa [IsSingle] using hc

/-! ### Pieces side by side -/

theorem pieces_append_slash (a b : List Char) : pieces (a ++ '/' :: b) = pieces a ++ pieces b := by
  rw [pieces, splitAt_append_cons, List.filter_append, ← pieces, ← pieces]

theorem pieces_child (hdir : dir ≠ []) (hway : way.head? ≠ some '/') :
    pieces (child dir way) = pieces dir ++ pieces way := by
  rw [child_of_head?_ne hway]
  split_ifs with hslash
  · obtain ⟨front, rfl⟩ := List.getLast?_eq_some_iff.mp (hslash.resolve_left hdir)
    rw [List.append_assoc, List.singleton_append, pieces_append_slash, pieces_append_slash]
    simp [pieces, splitAt, splitWhen]
  · exact pieces_append_slash dir way

/-- A way of proper components leads down from wherever a path leads. -/
theorem parts_child_joinWith (hdir : dir ≠ []) (hnames : ∀ n ∈ names, IsComponent n) :
    parts (child dir (joinWith ['/'] names)) = parts dir ++ names := by
  rw [parts, pieces_child hdir (head?_joinWith_ne_slash hnames), pieces_joinWith hnames,
    List.foldl_append, foldl_step hnames, List.reverse_append, List.reverse_reverse, parts]

/-! ### There and back -/

/-- The components of the canonical form of a path. -/
def components (cwd path : String) : List (List Char) :=
  pieces (canonical cwd path).toList

theorem components_eq_parts (hpath : IsSingle path.toList) (cwd : String) :
    components cwd path = parts path.toList := by
  rw [components, canonical, String.toList_ofList, absolute_of_isSingle hpath, normal,
    leading_of_isSingle hpath, render, List.singleton_append, pieces_slash_cons,
    pieces_joinWith (isComponent_of_mem_parts path.toList)]

theorem relativeIn?_of_isSingle (hpath : IsSingle path.toList) (hroot : IsSingle root.toList) :
    relativeIn? cwd path root = relative? path root := by
  have hne : path.isEmpty = false := by
    rw [← Bool.not_eq_true, String.isEmpty_iff]
    rintro rfl
    exact hpath.ne_nil rfl
  rw [relativeIn?, hne, absolute_of_isSingle hpath, absolute_of_isSingle hroot]
  rfl

/-- **A path has a way down from a root exactly if its components go on from those of the root;
the way is the components that are left, and joined to the root it leads to the path.** -/
theorem relativeIn?_components (cwd : String) {path root : String} (hpath : IsSingle path.toList)
    (hroot : IsSingle root.toList) :
    (relativeIn? cwd path root = none ↔
      ¬ (components cwd root <+: components cwd path ∧
        components cwd root ≠ components cwd path)) ∧
    ∀ way, relativeIn? cwd path root = some way →
      way.toList = joinWith ['/'] ((components cwd path).drop (components cwd root).length) ∧
      canonical cwd (join root way) = canonical cwd path := by
  rw [relativeIn?_of_isSingle hpath hroot, components_eq_parts hpath, components_eq_parts hroot]
  refine ⟨by rw [relative?_eq_none_iff, goesOn_iff], fun way hway => ?_⟩
  obtain ⟨down, hdown, hparts, htext⟩ := of_relative?_eq_some hway
  have hcomponents : ∀ n ∈ down, IsComponent n := fun n hn =>
    isComponent_of_mem_parts path.toList n (hparts ▸ List.mem_append_right _ hn)
  refine ⟨by rw [htext, hparts, List.drop_left], ?_⟩
  have hjoin : (join root way).toList = child root.toList (joinWith ['/'] down) := by
    rw [join, String.toList_ofList, htext]
  have hsingle : IsSingle (join root way).toList := by
    rw [hjoin]
    exact isSingle_child hroot (head?_joinWith_ne_slash hcomponents)
  rw [canonical, canonical, absolute_of_isSingle hsingle, absolute_of_isSingle hpath, normal,
    normal, leading_of_isSingle hsingle, leading_of_isSingle hpath, hjoin,
    parts_child_joinWith hroot.ne_nil hcomponents, hparts]

/-- Names that begin with dots, slashes too many, and a root that is written with a detour. -/
theorem relativeIn?_components_detour :
    IsSingle "/r/./..b//c/../.d/".toList ∧ IsSingle "/r/x/..//".toList ∧
    relativeIn? "/w" "/r/./..b//c/../.d/" "/r/x/..//" = some "..b/.d" ∧
    canonical "/w" (join "/r/x/..//" "..b/.d") = canonical "/w" "/r/./..b//c/../.d/" ∧
    relativeIn? "/w" "/rx/b" "/r" = none := by
  have hpath : IsSingle "/r/./..b//c/../.d/".toList := by decide
  have hroot : IsSingle "/r/x/..//".toList := by decide
  have hway : relativeIn? "/w" "/r/./..b//c/../.d/" "/r/x/..//" = some "..b/.d" := by
    decide
  have hsibling : ¬ (components "/w" "/r" <+: components "/w" "/rx/b" ∧
      components "/w" "/r" ≠ components "/w" "/rx/b") := by decide
  exact ⟨hpath, hroot, hway, ((relativeIn?_components "/w" hpath hroot).2 _ hway).2,
    (relativeIn?_components "/w" (by decide) (by decide)).1.mpr hsibling⟩

end SpokenIndex.Path
