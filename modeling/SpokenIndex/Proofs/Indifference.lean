/-
An answer does not depend on what it does not refer to.

Take from an index all entries of some paths.  If the answer to a transcript has none of
these paths, it is the answer without them too.  A removed entry may have been a
candidate at every step, so this is shown step by step, both scans running side by side:
what is selected at a step is kept, and a selection from what is kept is the same.

One step needs more than that.  A word whose best candidate has a claimed path has no
match at all, so that candidate need not be in the answer.  But its path is: it was
claimed by a match.
-/
import SpokenIndex.Proofs.Resolution
import SpokenIndex.Proofs.Watched

namespace SpokenIndex

/-- An index without the entries of some paths.  Nothing is said of folders, which no transcript
refers to. -/
structure Mappings.Without (gone : String → Bool) (index rest : Mappings) : Prop where
  files : rest.files = index.files.removeWhere fun _ path => gone path
  components : rest.components = index.components.removeWhere fun _ path => gone path
  functions : rest.functions = index.functions.removeWhere fun _ path => gone path

/-- The entries of some paths only. -/
def Mappings.onlyPaths (paths : List String) (m : Mappings) : Mappings where
  files := m.files.removeWhere fun _ path => !paths.contains path
  folders := m.folders.removeWhere fun _ path => !paths.contains path
  components := m.components.removeWhere fun _ path => !paths.contains path
  functions := m.functions.removeWhere fun _ path => !paths.contains path

theorem Mappings.onlyPaths_without (paths : List String) (m : Mappings) :
    m.Without (fun path => !paths.contains path) (m.onlyPaths paths) :=
  ⟨rfl, rfl, rfl⟩

theorem IndexPlan.handleDelete_without (plan : IndexPlan) (world : Surroundings) (path : String)
    (s : IndexState) :
    s.mappings.Without (Path.isAtOrBeneath (Path.canonical world.workDir path))
      (plan.handleDelete world path s).1.mappings := by
  rw [handleDelete, rebuildFolders]
  cases plan.listTree world <;> exact ⟨rfl, rfl, rfl⟩

namespace Matching

open SpokenIndex.Text

variable {settings : MatcherSettings} {index rest : Mappings} {gone : String → Bool}
  {claimed : List String} {spans : List Nat} {ts : List Token} {after : List Slot}
  {word : List Char} {transcript : String}

theorem candidatesOf_removeWhere (kind : ArtifactKind) (map : NameMap) :
    candidatesOf kind (map.removeWhere fun _ path => gone path)
      = (candidatesOf kind map).filter fun c => !gone c.path := by
  rw [candidatesOf, candidatesOf, List.filter_map]
  rfl

section Without

variable (hrest : index.Without gone rest)
include hrest

theorem phraseCandidates_of_without :
    phraseCandidates rest = (phraseCandidates index).filter fun c => !gone c.path := by
  rw [phraseCandidates, hrest.components, hrest.files, candidatesOf_removeWhere,
    candidatesOf_removeWhere, phraseCandidates, List.filter_append]

theorem wordCandidates_of_without (withFunctions : Bool) :
    wordCandidates rest withFunctions
      = (wordCandidates index withFunctions).filter fun c => !gone c.path := by
  rw [wordCandidates, wordCandidates, hrest.components, hrest.files, hrest.functions]
  simp only [candidatesOf_removeWhere, List.filter_append]
  cases withFunctions <;> rfl

/-! ### One step -/

theorem matchSpan_of_without
    (h : ∀ n m, matchSpan index claimed spans ts = some (n, m) → gone m.path = false) :
    matchSpan rest claimed spans ts = matchSpan index claimed spans ts := by
  induction spans with
  | nil => rfl
  | cons n more ih =>
      simp only [matchSpan, List.findSome?_cons] at h ih ⊢
      by_cases hlength : n ≤ ts.length
      · rw [if_pos hlength] at h ⊢
        rw [if_pos hlength, matchPhrase_of_filter (phraseCandidates_of_without hrest)]
        · cases hmatch : matchPhrase index claimed (phraseOf (ts.take n)) with
          | some m => rfl
          | none =>
              rw [hmatch] at h
              exact ih h
        · intro m hmatch
          exact h n m (by rw [hmatch]; rfl)
      · rw [if_neg hlength] at h ⊢
        rw [if_neg hlength]
        exact ih h

theorem matchFresh_of_without (hclaimed : ∀ path ∈ claimed, gone path = false)
    (h : ∀ m, matchFresh settings index claimed word = some m → gone m.path = false) :
    matchFresh settings rest claimed word = matchFresh settings index claimed word := by
  simp only [matchFresh] at h ⊢
  by_cases htried : isTried settings word = true
  · rw [if_pos htried] at h
    rw [if_pos htried, if_pos htried, matchWord_of_filter (wordCandidates_of_without hrest)]
    intro m hmatch
    by_cases hfree : m.path ∈ claimed
    · exact hclaimed m.path hfree
    · exact h m (Option.filter_eq_some_iff.mpr ⟨hmatch, by simpa using hfree⟩)
  · rw [if_neg htried, if_neg htried]

/-! ### Both scans -/

theorem scanPhrases_of_without
    (h : ∀ m ∈ phraseMatches (scanPhrases index spans claimed ts), gone m.path = false) :
    scanPhrases rest spans claimed ts = scanPhrases index spans claimed ts := by
  fun_induction scanPhrases index spans claimed ts with
  | case1 => rw [scanPhrases]
  | case2 claimed t more n m hspan ih =>
      rw [List.cons_append, phraseMatches_head, phraseMatches_tails] at h
      have hsame : matchSpan rest claimed spans (t :: more) = some (n, m) := by
        rw [← hspan]
        refine matchSpan_of_without hrest fun k found hfound => ?_
        obtain ⟨-, rfl⟩ := Prod.mk.inj (Option.some.inj (hspan.symm.trans hfound))
        exact h m List.mem_cons_self
      rw [scanPhrases, hsame]
      simp only [ih fun found hfound => h found (List.mem_cons_of_mem _ hfound)]
  | case3 claimed t more hspan ih =>
      have hsame : matchSpan rest claimed spans (t :: more) = none := by
        rw [← hspan]
        refine matchSpan_of_without hrest fun k found hfound => ?_
        simp [hspan] at hfound
      rw [scanPhrases, hsame]
      simp only [ih h]

theorem scanWords_of_without (hclaimed : ∀ path ∈ claimed, gone path = false)
    (h : ∀ m ∈ wordMatches (scanWords settings index claimed after), gone m.path = false) :
    scanWords settings rest claimed after = scanWords settings index claimed after := by
  fun_induction scanWords settings index claimed after with
  | case1 => rfl
  | case2 claimed slot more m hmatch ih =>
      rw [wordMatches_some] at h
      have hkept : gone m.path = false := h m List.mem_cons_self
      obtain ⟨t, hopen, hfresh⟩ := Option.bind_eq_some_iff.mp hmatch
      have hsame : matchFresh settings rest claimed t.word = some m := by
        rw [matchFresh_of_without hrest hclaimed, hfresh]
        intro found hfound
        obtain rfl := Option.some.inj (hfresh.symm.trans hfound)
        exact hkept
      rw [scanWords, hopen, Option.bind_some, hsame]
      simp only
      rw [ih _ fun found hfound => h found (List.mem_cons_of_mem _ hfound)]
      intro path hpath
      rcases List.mem_cons.mp hpath with rfl | hpath
      · exact hkept
      · exact hclaimed path hpath
  | case3 claimed slot more hmatch ih =>
      have hsame :
          (slot.openToken?.bind fun t => matchFresh settings rest claimed t.word) = none := by
        cases hopen : slot.openToken? with
        | none => rfl
        | some t =>
            rw [hopen, Option.bind_some] at hmatch
            rw [Option.bind_some, matchFresh_of_without hrest hclaimed, hmatch]
            intro found hfound
            simp [hmatch] at hfound
      rw [scanWords, hsame]
      simp only
      rw [ih hclaimed h]

/-- The answer stays when no match has a path that goes. -/
theorem resolve_of_without
    (h : ∀ m ∈ (resolve settings index transcript).found, gone m.path = false) :
    resolve settings rest transcript = resolve settings index transcript := by
  have hphrases : phraseSlots rest transcript = phraseSlots index transcript :=
    scanPhrases_of_without hrest fun m hm => h m (mem_found.mpr (Or.inl hm))
  have hslots : slots settings rest transcript = slots settings index transcript := by
    change scanWords settings rest ((phraseMatches (phraseSlots rest transcript)).map (·.path))
        (phraseSlots rest transcript)
      = scanWords settings index ((phraseMatches (phraseSlots index transcript)).map (·.path))
        (phraseSlots index transcript)
    rw [hphrases]
    refine scanWords_of_without hrest (fun path hpath => ?_) fun m hm =>
      h m (mem_found.mpr (Or.inr hm))
    obtain ⟨m, hm, rfl⟩ := List.mem_map.mp hpath
    exact h m (mem_found.mpr (Or.inl hm))
  rw [resolve, resolve, hslots]

end Without

/-! ### What an answer does not refer to -/

/-- **Deleting what is not referred to.**  A deletion at or beneath which no match lies leaves the
answer as it is, and so does the removal of all entries whose paths are not in the answer. -/
theorem resolve_of_unmentioned (plan : IndexPlan) (world : Surroundings) (path : String)
    (s : IndexState) (settings : MatcherSettings) (transcript : String) :
    ((∀ m ∈ (resolve settings s.mappings transcript).found,
        Path.isAtOrBeneath (Path.canonical world.workDir path) m.path = false) →
      resolve settings (plan.handleDelete world path s).1.mappings transcript
        = resolve settings s.mappings transcript) ∧
    resolve settings (s.mappings.onlyPaths (resolve settings s.mappings transcript).paths)
        transcript
      = resolve settings s.mappings transcript := by
  constructor
  · intro hunmentioned
    exact resolve_of_without (plan.handleDelete_without world path s) hunmentioned
  · refine resolve_of_without (Mappings.onlyPaths_without _ _) fun m hm => ?_
    have hpath : m.path ∈ (resolve settings s.mappings transcript).paths :=
      List.mem_map.mpr ⟨m, hm, rfl⟩
    simpa using hpath

/-- An index of three files, one of which declares a component. -/
def threeFiles : IndexState where
  mappings :=
    { files := .ofList [("card.tsx", "/r/Card.tsx"), ("card", "/r/Card.tsx"),
        ("cards.css", "/r/Cards.css"), ("cards", "/r/Cards.css"),
        ("user-profile.ts", "/r/user-profile.ts"), ("user-profile", "/r/user-profile.ts")]
      folders := .empty
      components := .ofList [("Card", "/r/Card.tsx")]
      functions := .empty }
  initialized := true
  subscribed := true

/-- A file that an answer passes over although the spoken word is almost its name. -/
theorem resolve_of_unmentioned_cards :
    (∀ m ∈ (resolve .standard threeFiles.mappings "show the user profile card").found,
      Path.isAtOrBeneath (Path.canonical "/" "/r/Cards.css") m.path = false) ∧
    resolve .standard
        (wholeTextPlan.handleDelete (.calm .blank) "/r/Cards.css" threeFiles).1.mappings
        "show the user profile card"
      = resolve .standard threeFiles.mappings "show the user profile card" := by
  have hunmentioned : ∀ m ∈
      (resolve .standard threeFiles.mappings "show the user profile card").found,
      Path.isAtOrBeneath (Path.canonical "/" "/r/Cards.css") m.path = false := by
    decide +kernel
  exact ⟨hunmentioned, (resolve_of_unmentioned wholeTextPlan (.calm .blank) "/r/Cards.css"
    threeFiles .standard "show the user profile card").1 hunmentioned⟩

end Matching

end SpokenIndex
