/-
What holds of every answer.

Two scans go over the tokens of a transcript, each from left to right, and both claim
the paths that they match.  That no path is matched twice is the same argument for
both: what is matched was not claimed, and is claimed from then on.  The second scan
begins with what the first has claimed, so the two together claim each path once.

How many matches there are is counted in slots.  A phrase has a tail, which the second
scan passes over, and only its head is looked at again; so each match has a slot of its
own, those of phrases a tail and those of words a slot that is no tail.
-/
import SpokenIndex.Proofs.Selection

namespace SpokenIndex.Matching

open SpokenIndex.Text

variable {settings : MatcherSettings} {index : Mappings} {claimed paths : List String}
  {spans : List Nat} {ts : List Token} {t : Token} {slot : Slot} {after : List Slot} {m : Match}
  {n : Nat} {word : List Char} {path : String}

/-! ### Claimed once -/

/-- Paths that are claimed one after another, each for the first time. -/
def ClaimedOnce (claimed paths : List String) : Prop :=
  paths.Nodup ∧ ∀ path ∈ paths, path ∉ claimed

theorem ClaimedOnce.nil : ClaimedOnce claimed [] :=
  ⟨List.nodup_nil, fun _ h => absurd h List.not_mem_nil⟩

/-- A free path is claimed, and the others after it. -/
theorem ClaimedOnce.cons (hfree : path ∉ claimed) (h : ClaimedOnce (path :: claimed) paths) :
    ClaimedOnce claimed (path :: paths) := by
  obtain ⟨hnodup, hnew⟩ := h
  refine ⟨List.nodup_cons.mpr ⟨fun hin => hnew path hin List.mem_cons_self, hnodup⟩, ?_⟩
  intro other hother hclaimed
  rcases List.mem_cons.mp hother with rfl | hother
  · exact hfree hclaimed
  · exact hnew other hother (List.mem_cons_of_mem _ hclaimed)

/-! ### The scan for phrases -/

@[simp] theorem phraseMatches_head :
    phraseMatches (.head t m :: after) = m :: phraseMatches after := rfl

@[simp] theorem phraseMatches_plain : phraseMatches (.plain t :: after) = phraseMatches after := rfl

@[simp] theorem phraseMatches_tails :
    phraseMatches (ts.map Slot.tail ++ after) = phraseMatches after := by
  induction ts with
  | nil => rfl
  | cons t rest ih => exact ih

/-- A phrase is matched over one of the lengths, which the tokens have. -/
theorem matchSpan_cases (h : matchSpan index claimed spans ts = some (n, m)) :
    n ∈ spans ∧ n ≤ ts.length ∧ matchPhrase index claimed (phraseOf (ts.take n)) = some m := by
  obtain ⟨k, hk, hmatch⟩ := List.exists_of_findSome?_eq_some h
  split at hmatch
  · rename_i hlength
    obtain ⟨found, hfound, heq⟩ := Option.map_eq_some_iff.mp hmatch
    obtain ⟨rfl, rfl⟩ := Prod.mk.inj heq
    exact ⟨hk, hlength, hfound⟩
  · simp at hmatch

/-- Every token has its slot. -/
theorem length_scanPhrases : (scanPhrases index spans claimed ts).length = ts.length := by
  fun_induction scanPhrases index spans claimed ts with
  | case1 => rfl
  | case2 claimed t rest n m hspan ih =>
      simp only [List.length_cons, List.length_append, List.length_map, List.length_take, ih,
        List.length_drop]
      omega
  | case3 claimed t rest hspan ih => simp only [List.length_cons, ih]

theorem claimedOnce_scanPhrases :
    ClaimedOnce claimed ((phraseMatches (scanPhrases index spans claimed ts)).map (·.path)) := by
  fun_induction scanPhrases index spans claimed ts with
  | case1 => exact .nil
  | case2 claimed t rest n m hspan ih =>
      obtain ⟨-, -, hmatch⟩ := matchSpan_cases hspan
      obtain ⟨c, -, hfree, hm⟩ := matchPhrase_cases hmatch
      have hpath : m.path ∉ claimed := by
        rcases hm with rfl | rfl <;> exact hfree
      rw [List.cons_append, phraseMatches_head, phraseMatches_tails]
      exact .cons hpath ih
  | case3 claimed t rest hspan ih => exact ih

/-- The match of a phrase is that of a candidate, with one of two scores. -/
theorem of_mem_phraseMatches (h : m ∈ phraseMatches (scanPhrases index spans claimed ts)) :
    ∃ c ∈ phraseCandidates index, m = c.toMatch .exact ∨ m = c.toMatch .onBoundary := by
  fun_induction scanPhrases index spans claimed ts with
  | case1 => exact absurd h List.not_mem_nil
  | case2 claimed t rest n found hspan ih =>
      rw [List.cons_append, phraseMatches_head, phraseMatches_tails] at h
      rcases List.mem_cons.mp h with rfl | h
      · obtain ⟨-, -, hmatch⟩ := matchSpan_cases hspan
        obtain ⟨c, hc, -, hm⟩ := matchPhrase_cases hmatch
        exact ⟨c, hc, hm⟩
      · exact ih h
  | case3 claimed t rest hspan ih => exact ih h

/-- Whether a slot is passed over by the scan for words. -/
def Slot.isTail (slot : Slot) : Bool :=
  slot.openToken?.isNone

/-- Every phrase has a tail if all lengths are two at least. -/
theorem length_phraseMatches_le (hspans : ∀ n ∈ spans, 2 ≤ n) :
    (phraseMatches (scanPhrases index spans claimed ts)).length
      ≤ (scanPhrases index spans claimed ts).countP Slot.isTail := by
  fun_induction scanPhrases index spans claimed ts with
  | case1 => exact Nat.le_refl _
  | case2 claimed t rest n m hspan ih =>
      obtain ⟨hn, hlength, -⟩ := matchSpan_cases hspan
      have htwo : 2 ≤ n := hspans n hn
      have htails : ((rest.take (n - 1)).map Slot.tail).countP Slot.isTail = n - 1 := by
        rw [List.countP_eq_length.mpr]
        · simp only [List.length_map, List.length_take]
          rw [List.length_cons] at hlength
          omega
        · intro slot hslot
          obtain ⟨t, -, rfl⟩ := List.mem_map.mp hslot
          rfl
      rw [List.cons_append, phraseMatches_head, phraseMatches_tails, List.length_cons,
        List.countP_cons, List.countP_append, htails]
      omega
  | case3 claimed t rest hspan ih =>
      rw [phraseMatches_plain, List.countP_cons]
      omega

/-! ### The scan for words -/

/-- The matches of the words, left to right. -/
def wordMatches (slots : List (Slot × Option Match)) : List Match :=
  slots.filterMap Prod.snd

@[simp] theorem wordMatches_some {rest : List (Slot × Option Match)} :
    wordMatches ((slot, some m) :: rest) = m :: wordMatches rest := rfl

@[simp] theorem wordMatches_none {rest : List (Slot × Option Match)} :
    wordMatches ((slot, none) :: rest) = wordMatches rest := rfl

/-- The match of a slot is fresh: it is what its word matches, and its path is free. -/
theorem matchFresh_cases (h : matchFresh settings index claimed word = some m) :
    matchWord settings index word = some m ∧ m.path ∉ claimed := by
  rw [matchFresh] at h
  split at h
  · obtain ⟨hmatch, hfree⟩ := Option.filter_eq_some_iff.mp h
    exact ⟨hmatch, by simpa using hfree⟩
  · simp at h

theorem map_fst_scanWords : (scanWords settings index claimed after).map Prod.fst = after := by
  fun_induction scanWords settings index claimed after with
  | case1 => rfl
  | case2 claimed slot rest m hmatch ih => rw [List.map_cons, ih]
  | case3 claimed slot rest hmatch ih => rw [List.map_cons, ih]

theorem claimedOnce_scanWords :
    ClaimedOnce claimed ((wordMatches (scanWords settings index claimed after)).map (·.path)) := by
  fun_induction scanWords settings index claimed after with
  | case1 => exact .nil
  | case2 claimed slot rest m hmatch ih =>
      obtain ⟨t, -, hfresh⟩ := Option.bind_eq_some_iff.mp hmatch
      exact .cons (matchFresh_cases hfresh).2 ih
  | case3 claimed slot rest hmatch ih => exact ih

/-- A slot with a match is open, and the match was fresh when the scan came to it. -/
theorem of_mem_scanWords (h : (slot, some m) ∈ scanWords settings index claimed after) :
    ∃ t before, slot.openToken? = some t ∧ matchFresh settings index before t.word = some m := by
  fun_induction scanWords settings index claimed after with
  | case1 => exact absurd h List.not_mem_nil
  | case2 claimed first rest found hmatch ih =>
      rcases List.mem_cons.mp h with heq | h
      · obtain ⟨rfl, hfound⟩ := Prod.mk.inj heq
        obtain rfl := Option.some.inj hfound
        obtain ⟨t, hopen, hfresh⟩ := Option.bind_eq_some_iff.mp hmatch
        exact ⟨t, claimed, hopen, hfresh⟩
      · exact ih h
  | case3 claimed first rest hmatch ih =>
      rcases List.mem_cons.mp h with heq | h
      · simp at heq
      · exact ih h

/-- The match of a word is that of a candidate that scores above the threshold. -/
theorem of_mem_wordMatches (h : m ∈ wordMatches (scanWords settings index claimed after)) :
    ∃ c withFunctions, c ∈ wordCandidates index withFunctions ∧ ∃ score, m = c.toMatch score ∧
      settings.acceptThreshold < score.value := by
  obtain ⟨⟨slot, word⟩, hslot, hword⟩ := List.mem_filterMap.mp h
  obtain rfl : word = some m := hword
  obtain ⟨t, before, -, hfresh⟩ := of_mem_scanWords hslot
  obtain ⟨c, hc, hscore⟩ := matchWord_cases (matchFresh_cases hfresh).1
  exact ⟨c, _, hc, hscore⟩

/-- Words are matched at slots that are no tails. -/
theorem length_wordMatches_le :
    (wordMatches (scanWords settings index claimed after)).length + after.countP Slot.isTail
      ≤ after.length := by
  fun_induction scanWords settings index claimed after with
  | case1 => exact Nat.le_refl _
  | case2 claimed slot rest m hmatch ih =>
      obtain ⟨t, hopen, -⟩ := Option.bind_eq_some_iff.mp hmatch
      have hslot : ¬ slot.isTail = true := by simp [Slot.isTail, hopen]
      rw [wordMatches_some, List.countP_cons_of_neg hslot, List.length_cons, List.length_cons]
      omega
  | case3 claimed slot rest hmatch ih =>
      rw [wordMatches_none, List.countP_cons, List.length_cons]
      split <;> omega

/-! ### Both scans -/

variable {transcript : String}

/-- The slots of a transcript after the scan for phrases. -/
def phraseSlots (index : Mappings) (transcript : String) : List Slot :=
  scanPhrases index phraseSpans [] (tokens transcript.toList)

theorem discovered_slots :
    discovered (slots settings index transcript)
      = phraseMatches (phraseSlots index transcript)
        ++ wordMatches (slots settings index transcript) := by
  rw [discovered, slots, map_fst_scanWords]
  rfl

theorem mem_found :
    m ∈ (resolve settings index transcript).found ↔
      m ∈ phraseMatches (phraseSlots index transcript) ∨
        m ∈ wordMatches (slots settings index transcript) := by
  rw [resolve, mem_sortStable, discovered_slots, List.mem_append]

/-- The scan for words goes on claiming where the scan for phrases has stopped. -/
theorem nodup_discovered :
    ((discovered (slots settings index transcript)).map (·.path)).Nodup := by
  have hphrases : ClaimedOnce []
      ((phraseMatches (phraseSlots index transcript)).map (·.path)) := claimedOnce_scanPhrases
  have hwords : ClaimedOnce ((phraseMatches (phraseSlots index transcript)).map (·.path))
      ((wordMatches (slots settings index transcript)).map (·.path)) :=
    claimedOnce_scanWords
  rw [discovered_slots, List.map_append, List.nodup_append]
  refine ⟨hphrases.1, hwords.1, fun a ha b hb heq => ?_⟩
  exact hwords.2 b hb (heq ▸ ha)

theorem length_discovered_le :
    (discovered (slots settings index transcript)).length
      ≤ (words transcript.toList).length := by
  have hphrases : (phraseMatches (phraseSlots index transcript)).length
      ≤ (phraseSlots index transcript).countP Slot.isTail := length_phraseMatches_le (by decide)
  have hwords : (wordMatches (slots settings index transcript)).length
        + (phraseSlots index transcript).countP Slot.isTail
      ≤ (phraseSlots index transcript).length := length_wordMatches_le
  have hslots : (phraseSlots index transcript).length = (words transcript.toList).length := by
    rw [phraseSlots, length_scanPhrases, tokens, List.length_map]
  rw [discovered_slots, List.length_append]
  omega

/-- Every match is that of an entry of the index. -/
theorem isEntry_of_mem_found (h : m ∈ (resolve settings index transcript).found) :
    ∃ c : Candidate, c.IsEntry index ∧ m = c.toMatch m.score := by
  rcases mem_found.mp h with h | h
  · obtain ⟨c, hc, hm⟩ := of_mem_phraseMatches h
    refine ⟨c, isEntry_of_mem_phraseCandidates hc, ?_⟩
    rcases hm with rfl | rfl <;> rfl
  · obtain ⟨c, withFunctions, hc, score, rfl, -⟩ := of_mem_wordMatches h
    exact ⟨c, isEntry_of_mem_wordCandidates hc, rfl⟩

/-- What holds of an answer: it has each path once, what was discovered in order of the scores and
else in order of discovery, no more matches than words, and each of them from an entry of the
index, found in one of the two scans. -/
structure IsAnswer (settings : MatcherSettings) (index : Mappings) (transcript : String)
    (r : Resolution) : Prop where
  distinct : r.paths.Nodup
  complete : r.found.Perm (discovered (slots settings index transcript))
  descending : r.found.Pairwise fun a b => b.score.value ≤ a.score.value
  stable : ∀ score, r.found.filter (·.score == score)
    = (discovered (slots settings index transcript)).filter (·.score == score)
  few : r.found.length ≤ (words transcript.toList).length
  indexed : ∀ m ∈ r.found, ∃ name, Candidate.IsEntry index ⟨name, m.path, m.kind⟩ ∧
    m.name = displayName name m.path m.kind
  scanned : ∀ m ∈ r.found,
    m ∈ phraseMatches (phraseSlots index transcript) ∧
        (m.score.tenths = 10 ∨ m.score.tenths = 9) ∨
      m ∈ wordMatches (slots settings index transcript) ∧
        settings.acceptThreshold < m.score.value

/-- **What is answered.**  Whatever the settings, the index and the transcript are. -/
theorem resolve_isAnswer (settings : MatcherSettings) (index : Mappings) (transcript : String) :
    IsAnswer settings index transcript (resolve settings index transcript) where
  distinct := by
    have hperm := sortStable_perm (fun a b : Match => decide (b.score.rank ≤ a.score.rank))
      (discovered (slots settings index transcript))
    exact (hperm.map _).nodup_iff.mpr nodup_discovered
  complete := sortStable_perm _ _
  descending := by
    have hsorted : (resolve settings index transcript).found.Pairwise fun a b =>
        decide (b.score.rank ≤ a.score.rank) = true := by
      refine pairwise_sortStable (fun a b => ?_) (fun a b c hab hbc => ?_) _
      · rw [decide_eq_true_iff, decide_eq_true_iff]
        exact Nat.le_total _ _
      · exact decide_eq_true (Nat.le_trans (of_decide_eq_true hbc) (of_decide_eq_true hab))
    refine hsorted.imp fun {a b} hle => Binary64.not_lt.mp fun hlt => ?_
    exact Nat.not_lt.mpr (of_decide_eq_true hle) (Score.value_lt_iff.mp hlt)
  stable score := by
    refine filter_sortStable (fun a b ha hb => ?_) _
    rw [eq_of_beq ha, eq_of_beq hb]
    exact decide_eq_true (Nat.le_refl _)
  few := by
    rw [resolve, (sortStable_perm _ _).length_eq]
    exact length_discovered_le
  indexed m hm := by
    obtain ⟨c, hentry, hmatch⟩ := isEntry_of_mem_found hm
    rw [hmatch]
    exact ⟨c.name, hentry, rfl⟩
  scanned m hm := by
    rcases mem_found.mp hm with hm | hm
    · obtain ⟨c, -, hscore⟩ := of_mem_phraseMatches hm
      refine Or.inl ⟨hm, ?_⟩
      rcases hscore with rfl | rfl
      · exact Or.inl rfl
      · exact Or.inr rfl
    · obtain ⟨c, -, -, score, rfl, habove⟩ := of_mem_wordMatches hm
      exact Or.inr ⟨hm, habove⟩

end SpokenIndex.Matching
