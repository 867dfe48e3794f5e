/-
The files that are tracked, among all files that are listed.

A tree is walked in two ways: for the listing of all its files and for those that are
tracked.  Both walks enter the same folders, those that the exclude glob does not cover,
and the second lists a file exactly if the first does and the include glob matches it.
So the tracked files are picked out of the listing, and stand in the order of the listing.

What the listing holds is said without a walk: the leaves beneath the root, each once,
that are neither excluded themselves nor beneath an excluded folder.  Links are leaves
unless they lead to a folder, and are not followed.  A folder that cannot be read is come
to by both walks and shows neither of them anything, also if it is the root.
-/
import SpokenIndex.Index.Tracking
import SpokenIndex.Listing
import SpokenIndex.Proofs.Folders
import SpokenIndex.Proofs.Links
import SpokenIndex.Proofs.Walk

namespace SpokenIndex

open Disk SpokenIndex.Path

/-- Paths are the listing of a tree without what is excluded: the leaves that names lead down to
from the root through folders that can be read, each once, where neither the leaf nor a folder on
the way is excluded. -/
structure Disk.IsListingOf (disk : Disk) (root : String) (place : List String)
    (excludeGlob : Option String) (listed : List String) : Prop where
  nodup : listed.Nodup
  mem_iff : ∀ path, path ∈ listed ↔ ∃ names, disk.IsLeaf (names.reverse ++ place) ∧
    disk.ReadsTo place names ∧ path = under root names ∧
    Glob.isMatch excludeGlob ("/".intercalate names) = false ∧
      ∀ above, above ≠ [] → above <+: names → above ≠ names →
        Glob.coversFolder excludeGlob ("/".intercalate above) = false

/-- A root is not below itself. -/
theorem Path.relative?_self (root : String) : relative? root root = none := by
  rw [relative?_eq_none_iff]
  rintro ⟨way, hway, heq⟩
  exact hway (List.self_eq_append_right.mp heq)

variable {disk : Disk} {root path : String} {place names : List String}
  {es : List (String × Node)} {excludeGlob : Option String}

/-- A walk enters the folders on the way to a leaf, said of the folders themselves. -/
theorem Walker.entersTo_iff_forall {w : Walker} :
    w.EntersTo path names ↔ ∀ above, above ≠ [] → above <+: names → above ≠ names →
      ∀ before name, above = before ++ [name] → w.enters (under path above) name = true := by
  constructor
  · rintro h above - ⟨after, rfl⟩ hne before name rfl
    refine h before name after (by simp) fun hafter => hne ?_
    rw [hafter, List.append_nil]
  · rintro h before name after rfl hafter
    refine h (before ++ [name]) (by simp) ⟨after, by simp⟩ (fun heq => hafter ?_) before name rfl
    simpa using heq

namespace ListingPlan

variable {plan : ListingPlan}

theorem ignores_eq (hpatterns : plan.ignorePatterns = excludeGlob.toList) (way : String) :
    plan.ignores way = Glob.isMatch excludeGlob way := by
  cases excludeGlob <;> simp [ignores, hpatterns, Glob.isMatch]

theorem ignoresFolder_eq (hpatterns : plan.ignorePatterns = excludeGlob.toList) (way : String) :
    plan.ignoresFolder way = Glob.coversFolder excludeGlob way := by
  cases excludeGlob <;> simp [ignoresFolder, hpatterns, Glob.coversFolder, Glob.isMatch]

/-- The way down to a leaf is known from its path. -/
theorem relative?_under_resolve (root : String) (hne : names ≠ [])
    (hnames : ∀ n ∈ names, Node.IsName n) :
    relative? (under (disk.resolve root) names) (disk.resolve root)
      = some ("/".intercalate names) := by
  have hplace := isName_of_mem_realNames disk root
  rw [resolve, under_placePath hplace hnames,
    relative?_placePath hplace (fun n hn => hnames n (List.mem_reverse.mp hn)) (by simpa using hne),
    List.reverse_reverse]

/-- **What a listing holds.**  The files that are listed beneath a root are the leaves that are not
excluded and that no folder hides: none of those on the way is excluded, and all can be read. -/
theorem isListingOf_filesBeneath (hpatterns : plan.ignorePatterns = excludeGlob.toList)
    (hlocate : disk.locate true (disk.resolve root) = .ok place)
    (hat : disk.at? place = some (.folder es)) (hwf : (Node.folder es).WellFormed) :
    disk.IsListingOf (disk.resolve root) place excludeGlob
      (plan.filesBeneath disk (disk.resolve root)).1 := by
  rw [filesBeneath]
  by_cases hreads : disk.reads place = true
  · obtain ⟨listed, hwalk, hnodup, hmem⟩ :=
      mem_walk (plan.walker (disk.resolve root)) hlocate hat hreads hwf
    rw [hwalk]
    refine ⟨hnodup, fun path => (hmem path).trans (exists_congr fun names => ?_)⟩
    refine and_congr_right fun hleaf => and_congr_right fun _ => ?_
    obtain ⟨hne, hnames⟩ := hleaf.isName hat hwf
    -- Leaf and folders are judged by their ways down from the root.
    have henters : (plan.walker (disk.resolve root)).EntersTo (disk.resolve root) names ↔
        ∀ above, above ≠ [] → above <+: names → above ≠ names →
          Glob.coversFolder excludeGlob ("/".intercalate above) = false := by
      rw [Walker.entersTo_iff_forall]
      refine forall_congr' fun above => forall_congr' fun habove => forall_congr' fun hbegins =>
        forall_congr' fun _ => ?_
      have hway : relative? (under (disk.resolve root) above) (disk.resolve root)
          = some ("/".intercalate above) :=
        relative?_under_resolve root habove fun n hn => hnames n (hbegins.subset hn)
      have hjudged : ∀ name,
          (plan.walker (disk.resolve root)).enters (under (disk.resolve root) above) name
            = !Glob.coversFolder excludeGlob ("/".intercalate above) := by
        intro name
        rw [← ignoresFolder_eq hpatterns]
        simp only [walker, hway, Option.getD_some]
      simp only [hjudged, Bool.not_eq_eq_eq_not, Bool.not_true]
      constructor
      · intro h
        obtain ⟨before, name, rfl⟩ := (List.eq_nil_or_concat' above).resolve_left habove
        exact h before name rfl
      · exact fun h before name _ => h
    have hlists : (plan.walker (disk.resolve root)).lists (under (disk.resolve root) names)
        = !Glob.isMatch excludeGlob ("/".intercalate names) := by
      rw [← ignores_eq hpatterns]
      simp only [walker, relative?_under_resolve root hne hnames, Option.any_some]
    rw [henters]
    constructor
    · rintro ⟨hopen, rfl, hlisted⟩
      rw [hlists, Bool.not_eq_eq_eq_not, Bool.not_true] at hlisted
      exact ⟨rfl, hlisted, hopen⟩
    · rintro ⟨rfl, hkept, hopen⟩
      exact ⟨hopen, rfl, by rw [hlists, hkept]; rfl⟩
  · -- Nothing lies beneath a root that cannot be read, for the walk and for the description.
    rw [walk_eq _ hlocate hat, if_neg hreads]
    refine ⟨List.nodup_nil, fun path => iff_of_false List.not_mem_nil ?_⟩
    rintro ⟨names, hleaf, hway, -⟩
    obtain ⟨hne, -⟩ := hleaf.isName hat hwf
    exact hreads (hway [] names rfl hne)

end ListingPlan

namespace Tracking

variable {t : Tracking} {plan : ListingPlan}

/-- A path matches the include glob. -/
def includes (t : Tracking) (path : String) : Bool :=
  (relative? path t.root).any (Glob.isMatch (some t.includeGlob))

/-- The walker for tracked files is the one for all files, told to keep what is included. -/
theorem walker_eq_only (hpatterns : plan.ignorePatterns = t.excludeGlob.toList) :
    t.walker = (plan.walker t.root).only t.includes := by
  have henters : ∀ path name,
      t.walker.enters path name = (plan.walker t.root).enters path name := by
    intro path name
    simp only [walker, passesOver, ListingPlan.walker, ListingPlan.ignoresFolder_eq hpatterns]
  have hlists : ∀ path, t.walker.lists path
      = ((plan.walker t.root).lists path && t.includes path) := by
    intro path
    simp only [walker, tracks, ListingPlan.walker, includes]
    cases relative? path t.root with
    | none => rfl
    | some way => simp only [Option.any_some, ListingPlan.ignores_eq hpatterns]
  rw [Walker.only, ← funext hlists, ← funext fun path => funext (henters path)]

end Tracking

/-- **The two walks of a tree agree.**  For a root that leads to a folder, the tracked files are
those files of the listing that the include glob matches, in the order of the listing.  The listing
holds each leaf once that is not excluded and not beneath an excluded folder or one that cannot be
read, and no other path. -/
theorem enumerate_eq_filter_list (disk : Disk) (root includeGlob : String)
    (excludeGlob : Option String) (lifetime now : Binary64) (cache : ListingCache)
    (hdisk : disk.top.WellFormed) (hroot : disk.isFolder (disk.resolve root) = true) :
    let t : Tracking := ⟨disk.resolve root, includeGlob, excludeGlob⟩
    let plan := ListingPlan.forRoots disk [root] lifetime excludeGlob.toList
    let listed := (plan.list disk now false cache).1
    t.enumerate disk = .ok (listed.filter t.includes) ∧
    ∃ place, disk.locate true t.root = .ok place ∧
      disk.IsListingOf t.root place excludeGlob listed := by
  intro t plan listed
  obtain ⟨place, es, hlocate, hat⟩ := isFolder_iff.mp hroot
  have hwf : (Node.folder es).WellFormed := hdisk.of_descend hat
  have hwalker : t.walker = (plan.walker t.root).only t.includes := Tracking.walker_eq_only rfl
  have hlisted : listed = (plan.filesBeneath disk t.root).1 := by
    show (plan.allFiles disk).1 = _
    rw [ListingPlan.allFiles, show plan.roots = [t.root] from rfl, List.foldl_cons, List.foldl_nil]
    rfl
  have hstart : t.passesOverStart t.root = false := by
    rw [Tracking.passesOverStart, relative?_self]
    rfl
  refine ⟨?_, place, hlocate, ?_⟩
  · rw [Tracking.enumerate, if_pos hroot, Tracking.filesBeneath, hwalker, walk_only, hlisted,
      ListingPlan.filesBeneath]
    cases disk.walk (plan.walker t.root) t.root with
    | ok files => simp only [Except.map, hstart, Bool.false_eq_true, ↓reduceIte]
    | error fault => rfl
  · rw [hlisted]
    exact ListingPlan.isListingOf_filesBeneath rfl hlocate hat hwf

/-- A tree with a link to a file, a link to a folder, a folder of built files, and a folder that
cannot be read. -/
def linkedTree : Disk where
  top := .folder [("r", .folder [("lib", .link "src"),
    ("src", .folder [("c.ts", .file .empty), ("d.ts", .link "c.ts"), ("notes.md", .file .empty)]),
    ("build", .folder [("e.ts", .file .empty)]),
    ("private", .folder [("f.ts", .file .empty)])])]
  unreadable := [["private", "r"]]

/-- The link to the file counts as a file, the link to the folder is passed over and the folder that
cannot be read shows nothing, by both. -/
theorem enumerate_eq_filter_list_links :
    let t : Tracking := ⟨linkedTree.resolve "/r", "**/*.ts", some "build/**"⟩
    let plan := ListingPlan.forRoots linkedTree ["/r"] .zero ["build/**"]
    let listed := (plan.list linkedTree .zero false .none).1
    linkedTree.top.WellFormed ∧ linkedTree.isFolder (linkedTree.resolve "/r") = true ∧
      t.enumerate linkedTree = .ok (listed.filter t.includes) ∧ listed.Nodup ∧
      listed = ["/r/src/c.ts", "/r/src/d.ts", "/r/src/notes.md"] := by
  intro t plan listed
  have hdisk : linkedTree.top.WellFormed := by decide
  have hroot : linkedTree.isFolder (linkedTree.resolve "/r") = true := by cbv
  obtain ⟨hagree, _, -, hlisting⟩ := enumerate_eq_filter_list linkedTree "/r" "**/*.ts"
    (some "build/**") .zero .zero .none hdisk hroot
  refine ⟨hdisk, hroot, hagree, hlisting.nodup, ?_⟩
  have hresolve : linkedTree.resolve "/r" = "/r" := by cbv
  have hlocate : linkedTree.locate true "/r" = .ok ["r"] := by cbv
  have hlib : linkedTree.leadsToFolder ["r"] "src" = true := by cbv
  have hd : linkedTree.leadsToFolder ["src", "r"] "c.ts" = false := by cbv
  have hplan : plan = ⟨["/r"], .zero, ["build/**"]⟩ := by
    show ListingPlan.forRoots _ _ _ _ = _
    rw [ListingPlan.forRoots, List.map_singleton, hresolve]
  have hwalk : linkedTree.walk (plan.walker "/r") "/r"
      = .ok ["/r/src/c.ts", "/r/src/d.ts", "/r/src/notes.md"] := by
    rw [hplan, walk, hlocate]
    show Except.ok (linkedTree.walkNode _ (.folder [("lib", .link "src"),
      ("src", .folder [("c.ts", .file .empty), ("d.ts", .link "c.ts"), ("notes.md", .file .empty)]),
      ("build", .folder [("e.ts", .file .empty)]),
      ("private", .folder [("f.ts", .file .empty)])]) _ _) = _
    simp only [walkNode, walkEntries, hlib, hd]
    decide +kernel
  show (plan.allFiles linkedTree).1 = _
  rw [ListingPlan.allFiles, show plan.roots = ["/r"] by rw [hplan], List.foldl_cons, List.foldl_nil,
    ListingPlan.filesBeneath, hwalk]
  rfl

end SpokenIndex
