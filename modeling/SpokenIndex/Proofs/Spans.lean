/-
Longer phrases match nothing new.

Phrases are tried over two tokens, and over three where two had no match.  A phrase has a
match if it is contained in the form of an unclaimed name, and what contains a phrase
contains the beginning of it.  So where two tokens have no match three have none either,
whatever was claimed before, and the scan finds what it would find with phrases of two
tokens alone.
-/
import SpokenIndex.Proofs.Indifference
import SpokenIndex.Proofs.Place

namespace SpokenIndex.Matching

open SpokenIndex.Text

variable {index : Mappings} {claimed : List String} {phrase part : List Char} {ts : List Token}
  {spans more : List Nat} {n : Nat}

/-! ### When a phrase has no match -/

theorem matchPhrase_eq_none_iff :
    matchPhrase index claimed phrase = none ↔
      ∀ c ∈ phraseCandidates index, c.path ∉ claimed → ¬ phrase <:+: phraseForm c.name.toList := by
  rw [matchPhrase]
  constructor
  · intro h c hc hfree hinfix
    split at h
    · simp at h
    · have hnone := List.find?_eq_none.mp (Option.map_eq_none_iff.mp h) c
        (mem_unclaimed_iff.mpr ⟨hc, hfree⟩)
      exact hnone (hasInfix_iff.mpr hinfix)
  · intro h
    have hnone : ∀ c ∈ (phraseCandidates index).filter (fun c => !claimed.contains c.path),
        ¬ phrase <:+: phraseForm c.name.toList := by
      intro c hc
      obtain ⟨hcandidate, hfree⟩ := mem_unclaimed_iff.mp hc
      exact h c hcandidate hfree
    -- A candidate that is the phrase contains it, so none is passed over by looking there first.
    split
    · rename_i c hfind
      have hequal := List.find?_some hfind
      rw [beq_iff_eq] at hequal
      exact absurd (hequal ▸ List.infix_refl _) (hnone c (List.mem_of_find?_eq_some hfind))
    · rw [Option.map_eq_none_iff, List.find?_eq_none]
      intro c hc hcontains
      exact hnone c hc (hasInfix_iff.mp hcontains)

/-- What contains a phrase contains every part of it. -/
theorem matchPhrase_eq_none_of_infix (hpart : part <:+: phrase)
    (h : matchPhrase index claimed part = none) : matchPhrase index claimed phrase = none := by
  rw [matchPhrase_eq_none_iff] at h ⊢
  intro c hc hfree hinfix
  exact h c hc hfree (hpart.trans hinfix)

theorem phraseOf_begins {ts us : List Token} (h : ts <+: us) : phraseOf ts <+: phraseOf us := by
  obtain ⟨rest, rfl⟩ := h
  rw [phraseOf, phraseOf, List.map_append]
  by_cases hts : ts.map (·.word) = []
  · rw [hts]
    exact List.nil_prefix
  · by_cases hrest : rest.map (·.word) = []
    · rw [hrest, List.append_nil]
    · rw [joinWith_append hts hrest, List.append_assoc]
      exact List.prefix_append _ _

/-! ### The scan for phrases -/

/-- Where a number of tokens has no match, more of them have none. -/
theorem matchSpan_eq_none_of_le {k : Nat} (hle : n ≤ k)
    (h : matchSpan index claimed [n] ts = none) : matchSpan index claimed [k] ts = none := by
  simp only [matchSpan, List.findSome?_singleton] at h ⊢
  by_cases hk : k ≤ ts.length
  · rw [if_pos (Nat.le_trans hle hk), Option.map_eq_none_iff] at h
    rw [if_pos hk, Option.map_eq_none_iff]
    exact matchPhrase_eq_none_of_infix
      (phraseOf_begins (List.take_prefix_take_left hle)).isInfix h
  · rw [if_neg hk]

theorem matchSpan_cons :
    matchSpan index claimed (n :: spans) ts
      = (matchSpan index claimed [n] ts).or (matchSpan index claimed spans ts) := by
  rw [matchSpan, List.findSome?_cons, matchSpan, List.findSome?_singleton]
  split <;> rename_i heq <;> rw [heq] <;> rfl

/-- Lengths that are tried after a shorter one are tried in vain. -/
theorem matchSpan_cons_of_le (hmore : ∀ k ∈ more, n ≤ k) :
    matchSpan index claimed (n :: more) ts = matchSpan index claimed [n] ts := by
  rw [matchSpan_cons]
  cases hshort : matchSpan index claimed [n] ts with
  | some found => rfl
  | none =>
      rw [Option.none_or]
      induction more with
      | nil => rfl
      | cons k rest ih =>
          rw [matchSpan_cons, ih fun j hj => hmore j (List.mem_cons_of_mem _ hj),
            matchSpan_eq_none_of_le (hmore k List.mem_cons_self) hshort]
          rfl

theorem scanPhrases_cons_of_le (hmore : ∀ k ∈ more, n ≤ k) :
    scanPhrases index (n :: more) claimed ts = scanPhrases index [n] claimed ts := by
  fun_induction scanPhrases index [n] claimed ts with
  | case1 => rw [scanPhrases]
  | case2 claimed t rest k m hspan ih =>
      rw [scanPhrases, matchSpan_cons_of_le hmore, hspan]
      simp only [ih]
  | case3 claimed t rest hspan ih =>
      rw [scanPhrases, matchSpan_cons_of_le hmore, hspan]
      simp only [ih]

/-! ### Answers -/

/-- The slots of a transcript, with phrases of the given lengths only. -/
def slotsOver (spans : List Nat) (settings : MatcherSettings) (index : Mappings)
    (transcript : String) : List (Slot × Option Match) :=
  let phrases := scanPhrases index spans [] (tokens transcript.toList)
  scanWords settings index ((phraseMatches phrases).map (·.path)) phrases

/-- A transcript resolved with phrases of the given lengths only. -/
def resolveOver (spans : List Nat) (settings : MatcherSettings) (index : Mappings)
    (transcript : String) : Resolution :=
  let slots := slotsOver spans settings index transcript
  { annotated := " ".intercalate (slots.filterMap fun (slot, word) => piece? slot word)
    found := sortStable (fun a b => b.score.rank ≤ a.score.rank) (discovered slots) }

theorem resolveOver_phraseSpans (settings : MatcherSettings) (index : Mappings)
    (transcript : String) :
    resolveOver phraseSpans settings index transcript = resolve settings index transcript := rfl

/-- **Two words are enough.**  An answer is the one that phrases of two tokens give, and wherever
two tokens have no match the three that begin there have none. -/
theorem resolve_two_words (settings : MatcherSettings) (index : Mappings) (transcript : String) :
    resolve settings index transcript = resolveOver [2] settings index transcript ∧
    ∀ (claimed : List String) (ts : List Token),
      matchSpan index claimed [2] ts = none → matchSpan index claimed [3] ts = none := by
  constructor
  · have hscan : scanPhrases index phraseSpans [] (tokens transcript.toList)
        = scanPhrases index [2] [] (tokens transcript.toList) :=
      scanPhrases_cons_of_le (by decide)
    rw [← resolveOver_phraseSpans]
    simp only [resolveOver, slotsOver, hscan]
  · intro claimed ts h
    exact matchSpan_eq_none_of_le (by decide) h

/-- Three words of which the last two are a phrase that is claimed already. -/
theorem resolve_two_words_claimed :
    matchSpan threeFiles.mappings ["/r/user-profile.ts"] [2]
        (tokens "the user profile card".toList) = none ∧
    matchSpan threeFiles.mappings ["/r/user-profile.ts"] [3]
        (tokens "the user profile card".toList) = none ∧
    resolve .standard threeFiles.mappings "the user profile card"
      = resolveOver [2] .standard threeFiles.mappings "the user profile card" := by
  have hnone : matchSpan threeFiles.mappings ["/r/user-profile.ts"] [2]
      (tokens "the user profile card".toList) = none := by
    decide
  obtain ⟨hsame, hlonger⟩ :=
    resolve_two_words .standard threeFiles.mappings "the user profile card"
  exact ⟨hnone, hlonger _ _ hnone, hsame⟩

end SpokenIndex.Matching
