/-
Files by glob and files by extension.

Which files are listed and reported is decided by the include glob, and which of them are
indexed by their extension.  The glob and the extensions that are given by default are made
of the same ten endings: the glob expands to one pattern for each of them, any folders, any
text and the ending.  So a path is selected exactly if its base name has one of the endings,
as it is written there.

An ending of a name is its extension, with one exception: dots at the front of a name begin
no extension, so a name of dots and an ending has none.  Such a name is selected and not
tracked.  The other difference is that an extension is looked up in lowercase, and so a
name can be tracked whose ending is written with capitals, which no pattern matches.  Apart
from these two, both ask the same of a path.
-/
import SpokenIndex.Proofs.Folders
import SpokenIndex.Proofs.LeadingFolders
import SpokenIndex.Proofs.Watched

namespace SpokenIndex

open SpokenIndex.Text

/-! ### Endings and extensions -/

namespace Path

variable {ext name tail front : List Char}

theorem splitExtension_of_not_mem (h : '.' ∉ name) : splitExtension name = (name, []) := by
  have hnone : name.reverse.dropWhile (· ≠ '.') = [] := by
    refine List.dropWhile_eq_nil_iff.mpr fun c hc => ?_
    simpa using fun heq : c = '.' => h (heq ▸ List.mem_reverse.mp hc)
  rw [splitExtension, hnone]

/-- A name is cut before its last dot, unless nothing but dots stand before that. -/
theorem splitExtension_append (front : List Char) (htail : '.' ∉ tail) :
    splitExtension (front ++ '.' :: tail)
      = if front.all (· == '.') then (front ++ '.' :: tail, []) else (front, '.' :: tail) := by
  rw [splitExtension, dropWhile_reverse htail]
  simp

/-- A name with a dot is what stands before its last dot and what follows it. -/
theorem exists_last_dot (h : '.' ∈ name) :
    ∃ front tail, name = front ++ '.' :: tail ∧ '.' ∉ tail := by
  obtain ⟨tail, front, hsplit, htail⟩ := List.eq_append_cons_of_mem (List.mem_reverse.mpr h)
  refine ⟨front.reverse, tail.reverse, ?_, by simpa using htail⟩
  rw [← List.reverse_reverse name, hsplit]
  simp

/-- A name ends in its extension. -/
theorem extension_suffix (name : List Char) : (splitExtension name).2 <:+ name := by
  by_cases hdot : '.' ∈ name
  · obtain ⟨front, tail, rfl, htail⟩ := exists_last_dot hdot
    rw [splitExtension_append front htail]
    split
    · exact List.nil_suffix
    · exact List.suffix_append _ _
  · rw [splitExtension_of_not_mem hdot]
    exact List.nil_suffix

/-- A dot and what follows it up to the end of a name. -/
def IsEnding (ext : List Char) : Prop :=
  ∃ tail, ext = '.' :: tail ∧ '.' ∉ tail

/-- An ending that nothing but dots stands before. -/
def IsBare (ext name : List Char) : Prop :=
  ∃ dots, (∀ c ∈ dots, c = '.') ∧ name = dots ++ ext

theorem extension_of_isBare (hext : IsEnding ext) (h : IsBare ext name) :
    (splitExtension name).2 = [] := by
  obtain ⟨tail, rfl, htail⟩ := hext
  obtain ⟨dots, hdots, rfl⟩ := h
  rw [splitExtension_append dots htail, if_pos (by simpa using hdots)]

/-- A name ends in what is its extension, or what nothing but dots stands before. -/
theorem ending_suffix_iff (hext : IsEnding ext) :
    ext <:+ name ↔ (splitExtension name).2 = ext ∨ IsBare ext name := by
  constructor
  · intro h
    obtain ⟨tail, rfl, htail⟩ := hext
    obtain ⟨front, rfl⟩ := h
    rw [splitExtension_append front htail]
    by_cases hdots : front.all (· == '.') = true
    · exact Or.inr ⟨front, by simpa using hdots, rfl⟩
    · rw [if_neg hdots]
      exact Or.inl rfl
  · intro h
    rcases h with rfl | ⟨dots, -, rfl⟩
    · exact extension_suffix name
    · exact List.suffix_append _ _

/-! ### The end of a path -/

/-- What has no slash and ends a text ends what follows a slash in it. -/
theorem suffix_append_slash_iff (hext : '/' ∉ ext) (front : List Char) :
    ext <:+ front ++ '/' :: name ↔ ext <:+ name := by
  constructor
  · intro h
    rcases List.suffix_or_suffix_of_suffix h (List.suffix_append front ('/' :: name)) with h | h
    · rcases List.suffix_cons_iff.mp h with rfl | h
      · exact absurd List.mem_cons_self hext
      · exact h
    · exact absurd (h.subset List.mem_cons_self) hext
  · intro h
    exact (h.trans (List.suffix_cons '/' name)).trans (List.suffix_append _ _)

theorem suffix_joinWith_iff (hext : '/' ∉ ext) (init : List (List Char)) :
    ext <:+ joinWith ['/'] (init ++ [name]) ↔ ext <:+ name := by
  by_cases hinit : init = []
  · subst hinit
    simp
  · rw [joinWith_concat hinit, List.append_assoc, List.singleton_append,
      suffix_append_slash_iff hext]

/-- The base name of a path is its last component. -/
theorem base_render_concat {slashes : List Char} {init : List (List Char)}
    (hfront : IsFront slashes) (hname : IsComponent name) :
    base (render slashes (init ++ [name])) = name := by
  have hbase : ∀ front, base (front ++ '/' :: name) = name := by
    intro front
    rw [base, List.reverse_append, List.reverse_cons, List.append_assoc,
      List.takeWhile_append_of_pos fun c hc => by
        simpa using fun heq : c = '/' => hname.no_slash (heq ▸ List.mem_reverse.mp hc),
      List.singleton_append, List.takeWhile_cons_of_neg (by simp)]
    simp
  by_cases hinit : init = []
  · subst hinit
    rw [List.nil_append, render_singleton]
    rcases hfront with rfl | rfl
    · exact hbase []
    · exact hbase ['/']
  · rw [render_concat _ _ hinit, hbase]

variable {path root way : String}

/-- The way down to a path ends as the base name of the path. -/
theorem suffix_way_iff (hpath : path.toList.head? = some '/') (cwd : String)
    (hway : relative? path root = some way) (hext : '/' ∉ ext) :
    ext <:+ way.toList ↔ ext <:+ base (canonical cwd path).toList := by
  obtain ⟨down, hdown, hparts, htext⟩ := of_relative?_eq_some hway
  obtain ⟨init, name, rfl⟩ := (List.eq_nil_or_concat' down).resolve_left hdown
  have hname : IsComponent name :=
    isComponent_of_mem_parts path.toList name (by simp [hparts])
  have habsolute : absolute cwd.toList path.toList = path.toList := by
    obtain ⟨rest, hrest⟩ := List.head?_eq_some_iff.mp hpath
    rw [hrest]
    rfl
  have hcanonical : (canonical cwd path).toList
      = render (leading path.toList) ((parts root.toList ++ init) ++ [name]) := by
    rw [canonical, String.toList_ofList, habsolute, normal, hparts, List.append_assoc]
  rw [htext, suffix_joinWith_iff hext, hcanonical,
    base_render_concat (isFront_leading path.toList) hname]

end Path

/-! ### Any text and an ending -/

namespace Glob

variable {ending path : List Char}

/-- A character that stands for itself in a pattern. -/
def IsOrdinary (c : Char) : Prop :=
  c ≠ '*' ∧ c ≠ '?' ∧ c ≠ '['

instance (c : Char) : Decidable (IsOrdinary c) :=
  inferInstanceAs (Decidable (_ ∧ _))

theorem pieces_ordinary (h : ∀ c ∈ ending, IsOrdinary c) : pieces ending = ending.map .exactly := by
  induction ending with
  | nil => rw [pieces]; rfl
  | cons c rest ih =>
      obtain ⟨hstar, hmark, hset⟩ := h c List.mem_cons_self
      rw [pieces.eq_5 c rest hstar hmark hset, ih fun d hd => h d (List.mem_cons_of_mem _ hd),
        List.map_cons]

theorem piecesMatch_map_exactly :
    piecesMatch (ending.map .exactly) path = true ↔ path = ending := by
  induction ending generalizing path with
  | nil => simp [piecesMatch]
  | cons c rest ih =>
      rw [List.map_cons, piecesMatch_exactly]
      simp [ih]

/-- Any text and an ending match what ends so. -/
theorem wildcardMatch_ending (h : ∀ c ∈ ending, IsOrdinary c) :
    wildcardMatch ('*' :: ending) path = true ↔ ending <:+ path := by
  have hpieces : pieces ('*' :: ending) = .anyText :: ending.map .exactly := by
    rw [pieces, pieces_ordinary h]
  rw [wildcardMatch, hpieces, piecesMatch, someSuffix_iff]
  simp [piecesMatch_map_exactly]

/-- Folders in front of the text make no difference. -/
theorem matchesPlain_ending (h : ∀ c ∈ ending, IsOrdinary c) :
    matchesPlain path ('*' :: '*' :: '/' :: '*' :: ending) = true ↔ ending <:+ path := by
  have hplain : ∀ rest, matchesPlain rest ('*' :: ending) = true ↔ ending <:+ rest := by
    intro rest
    rw [matchesPlain.eq_2 _ _ fun more heq => ?_, wildcardMatch_ending h]
    have hstar := h '*' (by rw [(List.cons.inj heq).2]; exact List.mem_cons_self)
    exact hstar.1 rfl
  rw [matchesPlain_folders_iff]
  constructor
  · intro hgiven
    obtain ⟨rest, rfl | hrest, hmatch⟩ := hgiven
    · exact (hplain rest).mp hmatch
    · exact (((hplain rest).mp hmatch).trans (List.suffix_cons '/' rest)).trans hrest
  · intro hends
    exact ⟨path, Or.inl rfl, (hplain path).mpr hends⟩

end Glob

/-! ### What is selected and what is tracked -/

namespace IndexSettings

/-- Each extension that is tracked by default is an ending in lowercase, with no slash and with no
character that stands for others in a pattern. -/
theorem standard_extension {ext : String} (h : ext ∈ standard.trackedExtensions) :
    Path.IsEnding ext.toList ∧ lowercase ext = ext ∧ '/' ∉ ext.toList ∧
      ∀ c ∈ ext.toList, Glob.IsOrdinary c := by
  have hall : ∀ ext ∈ standard.trackedExtensions,
      (ext.toList.head? = some '.' ∧ '.' ∉ ext.toList.tail) ∧ lowercase ext = ext ∧
        '/' ∉ ext.toList ∧ (ext.toList.all fun c => decide (Glob.IsOrdinary c)) = true := by
    decide
  obtain ⟨⟨hhead, htail⟩, hlower, hslash, hliteral⟩ := hall ext h
  obtain ⟨tail, htext⟩ := List.head?_eq_some_iff.mp hhead
  refine ⟨⟨tail, htext, by simpa [htext] using htail⟩, hlower, hslash, fun c hc => ?_⟩
  exact of_decide_eq_true (List.all_eq_true.mp hliteral c hc)

/-- The include glob stands for any folders, any text and one of the tracked extensions. -/
theorem expand_standard :
    Glob.expand standard.includeGlob.toList
      = standard.trackedExtensions.map fun ext => '*' :: '*' :: '/' :: '*' :: ext.toList := by
  decide

theorem isMatch_standard_iff (way : String) :
    Glob.isMatch (some standard.includeGlob) way = true ↔
      ∃ ext ∈ standard.trackedExtensions, ext.toList <:+ way.toList := by
  have hne : standard.includeGlob.toList ≠ [] := by decide
  rw [Glob.isMatch, Glob.globMatch_iff, expand_standard]
  simp only [hne, ne_eq, not_false_eq_true, true_and, List.mem_map, exists_exists_and_eq_and]
  refine exists_congr fun ext => and_congr_right fun hext => ?_
  exact Glob.matchesPlain_ending (standard_extension hext).2.2.2

end IndexSettings

namespace IndexPlan

open SpokenIndex.Path

variable {plan : IndexPlan} {cwd path root way : String}

/-- Whether the base name of a path is an extension that is tracked by default, with nothing but
dots before it. -/
def HasBareName (path : String) : Prop :=
  ∃ ext ∈ IndexSettings.standard.trackedExtensions, IsBare ext.toList (baseName path).toList

/-- Whether the extension of a path is tracked by default in lowercase, but not as it is
written. -/
def HasCapitalExtension (path : String) : Prop :=
  lowercase (extension path) ∈ IndexSettings.standard.trackedExtensions ∧
    extension path ∉ IndexSettings.standard.trackedExtensions

/-- A path is selected if its extension is tracked as it is written, or it has no extension for the
dots that its name begins with. -/
theorem isMatch_way_iff (hpath : path.toList.head? = some '/') (cwd : String)
    (hway : relative? path root = some way) :
    Glob.isMatch (some IndexSettings.standard.includeGlob) way = true ↔
      extension (canonical cwd path) ∈ IndexSettings.standard.trackedExtensions ∨
        HasBareName (canonical cwd path) := by
  have hends : ∀ ext ∈ IndexSettings.standard.trackedExtensions, (ext.toList <:+ way.toList ↔
      extension (canonical cwd path) = ext ∨
        IsBare ext.toList (baseName (canonical cwd path)).toList) := by
    intro ext hext
    obtain ⟨hending, -, hslash, -⟩ := IndexSettings.standard_extension hext
    rw [suffix_way_iff hpath cwd hway hslash, ending_suffix_iff hending, extension, baseName,
      String.toList_ofList, ← String.toList_inj, String.toList_ofList]
  rw [IndexSettings.isMatch_standard_iff]
  constructor
  · intro hgiven
    obtain ⟨ext, hext, hsuffix⟩ := hgiven
    rcases (hends ext hext).mp hsuffix with rfl | hbare
    · exact Or.inl hext
    · exact Or.inr ⟨ext, hext, hbare⟩
  · intro hgiven
    rcases hgiven with hext | ⟨ext, hext, hbare⟩
    · exact ⟨_, hext, (hends _ hext).mpr (Or.inl rfl)⟩
    · exact ⟨ext, hext, (hends ext hext).mpr (Or.inr hbare)⟩

theorem isTracked_standard_iff (hplan : plan.settings = .standard) :
    plan.isTracked path = true ↔
      lowercase (extension path) ∈ IndexSettings.standard.trackedExtensions := by
  rw [isTracked, hplan, List.contains_iff_mem]

/-- A name of dots and an ending has no extension, and so its path is not tracked. -/
theorem not_tracked_of_hasBareName (h : HasBareName path) :
    lowercase (extension path) ∉ IndexSettings.standard.trackedExtensions := by
  obtain ⟨ext, hext, hbare⟩ := h
  have hnone : extension path = "" := by
    rw [baseName, String.toList_ofList] at hbare
    rw [extension, extension_of_isBare (IndexSettings.standard_extension hext).1 hbare]
  rw [hnone]
  decide

/-- **Selected and tracked.**  Below a root, the include glob that is given by default selects the
paths that are tracked, with two exceptions.  A name of dots and one of the endings is selected and
not tracked, and a name whose ending is one of them only in lowercase is tracked and not
selected. -/
theorem selected_iff_tracked (plan : IndexPlan) (hplan : plan.settings = .standard) (cwd : String)
    (hpath : path.toList.head? = some '/') (hway : relative? path root = some way) :
    let p := canonical cwd path
    let selected := Glob.isMatch (some plan.settings.includeGlob) way = true
    let tracked := plan.isTracked p = true
    ((selected ↔ tracked) ↔ ¬ HasBareName p ∧ ¬ HasCapitalExtension p) ∧
      (HasBareName p → selected ∧ ¬ tracked) ∧ (HasCapitalExtension p → tracked ∧ ¬ selected) := by
  intro p selected tracked
  have hselected : selected ↔ extension p ∈ IndexSettings.standard.trackedExtensions ∨
      HasBareName p := by
    show Glob.isMatch (some plan.settings.includeGlob) way = true ↔ _
    rw [hplan]
    exact isMatch_way_iff hpath cwd hway
  have htracked : tracked ↔ lowercase (extension p) ∈ IndexSettings.standard.trackedExtensions :=
    isTracked_standard_iff hplan
  have hbare : HasBareName p → selected ∧ ¬ tracked := fun h =>
    ⟨hselected.mpr (Or.inr h), fun ht => not_tracked_of_hasBareName h (htracked.mp ht)⟩
  have hcapital : HasCapitalExtension p → tracked ∧ ¬ selected := by
    intro h
    refine ⟨htracked.mpr h.1, fun hs => ?_⟩
    exact (hselected.mp hs).elim h.2 fun hname => not_tracked_of_hasBareName hname h.1
  refine ⟨⟨fun hagree => ?_, fun hno => ⟨fun hs => ?_, fun ht => ?_⟩⟩, hbare, hcapital⟩
  · exact ⟨fun h => (hbare h).2 (hagree.mp (hbare h).1),
      fun h => (hcapital h).2 (hagree.mpr (hcapital h).1)⟩
  · have hext := (hselected.mp hs).resolve_right hno.1
    rwa [htracked, (IndexSettings.standard_extension hext).2.1]
  · by_contra hs
    exact hno.2 ⟨htracked.mp ht, fun hext => hs (hselected.mpr (Or.inl hext))⟩

/-- An index with the settings that are given by default. -/
def standardPlan : IndexPlan :=
  forRoot (.calm .blank) "/r" .standard fun _ _ => .ok []

/-- A name with several dots, reached by a detour. -/
theorem selected_iff_tracked_detour :
    standardPlan.settings = .standard ∧ "/r/a/../b/.x.d.ts".toList.head? = some '/' ∧
      relative? "/r/a/../b/.x.d.ts" "/r//" = some "b/.x.d.ts" ∧
      (Glob.isMatch (some standardPlan.settings.includeGlob) "b/.x.d.ts" = true ↔
        standardPlan.isTracked (canonical "/" "/r/a/../b/.x.d.ts") = true) := by
  have hpath : "/r/a/../b/.x.d.ts".toList.head? = some '/' := by decide
  have hway : relative? "/r/a/../b/.x.d.ts" "/r//" = some "b/.x.d.ts" := by decide
  have hagree := (selected_iff_tracked standardPlan rfl "/" hpath hway).1
  have htracked : standardPlan.isTracked (canonical "/" "/r/a/../b/.x.d.ts") = true := by
    decide
  refine ⟨rfl, hpath, hway, hagree.mpr ⟨fun hbare => ?_, fun hcapital => ?_⟩⟩
  · exact not_tracked_of_hasBareName hbare ((isTracked_standard_iff rfl).mp htracked)
  · exact hcapital.2 (by decide)

/-- Capitals in its ending keep a tracked file from being selected, and a file that is named like an
ending is selected and not tracked. -/
theorem tracked_and_selected_differ :
    relative? "/r/A.TS" "/r" = some "A.TS" ∧
      standardPlan.isTracked (canonical "/" "/r/A.TS") = true ∧
      Glob.isMatch (some standardPlan.settings.includeGlob) "A.TS" = false ∧
    relative? "/r/.ts" "/r" = some ".ts" ∧
      standardPlan.isTracked (canonical "/" "/r/.ts") = false ∧
      Glob.isMatch (some standardPlan.settings.includeGlob) ".ts" = true := by
  have hcapitals : ¬ Glob.isMatch (some IndexSettings.standard.includeGlob) "A.TS" = true := by
    rw [IndexSettings.isMatch_standard_iff]
    decide
  have hbare : Glob.isMatch (some IndexSettings.standard.includeGlob) ".ts" = true := by
    rw [IndexSettings.isMatch_standard_iff]
    decide
  exact ⟨by decide, by decide, Bool.eq_false_iff.mpr hcapitals,
    by decide, by decide, hbare⟩

end IndexPlan

end SpokenIndex
