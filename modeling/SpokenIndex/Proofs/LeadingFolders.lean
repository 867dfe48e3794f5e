/-
What `**/` in front of a glob stands for.

It stands for any number of leading folders, none included: the glob behind it is matched with
the path or with what comes after one of its slashes.  The rule is built in twice.  As
wildcards, two stars and a slash pass over everything up to some slash, so a path that has no
slash is lost by them; and the reading without the prefix is tried besides, again and again
as long as the pattern begins with it.

The two together keep the rule for any number of prefixes, which is an induction on the pattern
behind the first one.  A match that the second reading finds behind a slash is found by the
first from the whole path.  Groups make no difference, since the prefix has no brace and
stays in front of everything that the glob expands to.
-/
import SpokenIndex.Glob.Basic
import SpokenIndex.Proofs.Braces

namespace SpokenIndex.Glob

variable {path pattern glob rest : List Char}

/-! ### As wildcards -/

theorem pieces_folders (pattern : List Char) :
    pieces ('*' :: '*' :: '/' :: pattern)
      = .anyText :: .anyText :: .exactly '/' :: pieces pattern := by
  have hslash : pieces ('/' :: pattern) = .exactly '/' :: pieces pattern := by
    rw [pieces] <;> simp
  rw [pieces, pieces, hslash]

theorem piecesMatch_exactly {ps : List Piece} {c : Char} {s : List Char} :
    piecesMatch (.exactly c :: ps) s = true ↔
      ∃ rest, s = c :: rest ∧ piecesMatch ps rest = true := by
  cases s with
  | nil => simp [piecesMatch]
  | cons d s => simp [piecesMatch, Piece.accepts, and_assoc]

/-- As wildcards, the prefix passes over the path up to some slash. -/
theorem wildcardMatch_folders :
    wildcardMatch ('*' :: '*' :: '/' :: pattern) path = true ↔
      ∃ rest, '/' :: rest <:+ path ∧ wildcardMatch pattern rest = true := by
  unfold wildcardMatch
  rw [pieces_folders]
  simp only [piecesMatch, someSuffix_iff, piecesMatch_exactly]
  constructor
  · intro h
    obtain ⟨t, ht, u, hu, rest, rfl, hmatch⟩ := h
    exact ⟨rest, hu.trans ht, hmatch⟩
  · intro h
    obtain ⟨rest, hrest, hmatch⟩ := h
    exact ⟨path, List.suffix_refl _, _, hrest, rest, rfl, hmatch⟩

/-! ### In a pattern without groups -/

/-- A path, or what comes after one of its slashes. -/
def IsTail (rest path : List Char) : Prop :=
  rest = path ∨ '/' :: rest <:+ path

theorem matchesPlain_folders :
    matchesPlain path ('*' :: '*' :: '/' :: pattern) = true ↔
      wildcardMatch ('*' :: '*' :: '/' :: pattern) path = true ∨
        matchesPlain path pattern = true := by
  rw [matchesPlain, Bool.or_eq_true]

/-- What the wildcards match is matched. -/
theorem matchesPlain_of_wildcardMatch (h : wildcardMatch pattern path = true) :
    matchesPlain path pattern = true := by
  unfold matchesPlain
  split
  · rw [h, Bool.true_or]
  · exact h

/-- A match behind a slash is a match of the whole path with the prefix. -/
theorem matchesPlain_of_behind (hrest : '/' :: rest <:+ path)
    (h : matchesPlain rest pattern = true) :
    matchesPlain path ('*' :: '*' :: '/' :: pattern) = true := by
  have hwildcards : ∀ pattern, wildcardMatch pattern rest = true →
      matchesPlain path ('*' :: '*' :: '/' :: pattern) = true := by
    intro pattern hmatch
    rw [matchesPlain_folders]
    exact Or.inl (wildcardMatch_folders.mpr ⟨rest, hrest, hmatch⟩)
  induction pattern using matchesPlain.induct with
  | case1 pattern ih =>
      rcases matchesPlain_folders.mp h with hmatch | hmatch
      · exact hwildcards _ hmatch
      · rw [matchesPlain_folders]
        exact Or.inr (ih hmatch)
  | case2 pattern hpattern =>
      rw [matchesPlain.eq_2 _ _ hpattern] at h
      exact hwildcards pattern h

theorem matchesPlain_folders_iff :
    matchesPlain path ('*' :: '*' :: '/' :: pattern) = true ↔
      ∃ rest, IsTail rest path ∧ matchesPlain rest pattern = true := by
  constructor
  · intro h
    rcases matchesPlain_folders.mp h with hmatch | hmatch
    · obtain ⟨rest, hrest, hmatch⟩ := wildcardMatch_folders.mp hmatch
      exact ⟨rest, Or.inr hrest, matchesPlain_of_wildcardMatch hmatch⟩
    · exact ⟨path, Or.inl rfl, hmatch⟩
  · intro h
    obtain ⟨rest, rfl | hrest, hmatch⟩ := h
    · exact matchesPlain_folders.mpr (Or.inr hmatch)
    · exact matchesPlain_of_behind hrest hmatch

/-! ### In a glob -/

theorem globMatch_iff :
    globMatch glob path = true ↔
      glob ≠ [] ∧ ∃ pattern ∈ expand glob, matchesPlain path pattern = true := by
  simp [globMatch]

theorem globMatch_folders_iff (hglob : glob ≠ []) :
    globMatch ('*' :: '*' :: '/' :: glob) path = true ↔
      ∃ rest, IsTail rest path ∧ globMatch glob rest = true := by
  have hexpand : expand ('*' :: '*' :: '/' :: glob)
      = (expand glob).map fun pattern => '*' :: '*' :: '/' :: pattern :=
    expand_append (show '{' ∉ ['*', '*', '/'] by decide) glob
  simp only [globMatch_iff, hexpand, List.mem_map, exists_exists_and_eq_and,
    matchesPlain_folders_iff]
  constructor
  · intro h
    obtain ⟨-, pattern, hpattern, rest, hrest, hmatch⟩ := h
    exact ⟨rest, hrest, hglob, pattern, hpattern, hmatch⟩
  · intro h
    obtain ⟨rest, hrest, -, pattern, hpattern, hmatch⟩ := h
    exact ⟨List.cons_ne_nil _ _, pattern, hpattern, rest, hrest, hmatch⟩

/-- **What `**/` stands for.**  A glob with that prefix matches a path exactly if the glob itself
matches the path or what comes after one of the slashes of the path. -/
theorem isMatch_anyFolders {glob : String} (hglob : glob ≠ "") (path : String) :
    isMatch (some ("**/" ++ glob)) path = true ↔
      ∃ rest, (rest = path ∨ ∃ folders, path = folders ++ "/" ++ rest) ∧
        isMatch (some glob) rest = true := by
  have htail : ∀ rest : String, IsTail rest.toList path.toList ↔
      rest = path ∨ ∃ folders, path = folders ++ "/" ++ rest := by
    intro rest
    refine or_congr String.toList_inj ⟨fun h => ?_, fun h => ?_⟩
    · obtain ⟨folders, hfolders⟩ := h
      refine ⟨String.ofList folders, String.toList_injective ?_⟩
      simp [← hfolders]
    · obtain ⟨folders, rfl⟩ := h
      exact ⟨folders.toList, by simp⟩
  have hne : glob.toList ≠ [] := by simpa using hglob
  show globMatch ("**/" ++ glob).toList path.toList = true ↔ _
  rw [String.toList_append]
  show globMatch ('*' :: '*' :: '/' :: glob.toList) path.toList = true ↔ _
  rw [globMatch_folders_iff hne]
  constructor
  · intro h
    obtain ⟨rest, hrest, hmatch⟩ := h
    refine ⟨String.ofList rest, (htail _).mp ?_, ?_⟩
    · rwa [String.toList_ofList]
    · show globMatch glob.toList (String.ofList rest).toList = true
      rwa [String.toList_ofList]
  · intro h
    obtain ⟨rest, hrest, hmatch⟩ := h
    exact ⟨rest.toList, (htail rest).mpr hrest, hmatch⟩

/-- The glob behind the prefix is a group in braces, with a second prefix in it. -/
theorem isMatch_anyFolders_nested :
    "\x7b**/,lib/\x7da*.ts" ≠ "" ∧
      isMatch (some ("**/" ++ "\x7b**/,lib/\x7da*.ts")) "src/x/ab.ts" = true := by
  have hglob : "\x7b**/,lib/\x7da*.ts" ≠ "" := by decide
  refine ⟨hglob, (isMatch_anyFolders hglob _).mpr ⟨"x/ab.ts", Or.inr ⟨"src", rfl⟩, ?_⟩⟩
  cbv

end SpokenIndex.Glob
