/-
Tokens with nothing to compare.

Names are compared with a token on letters and digits alone.  A text that has none of them,
such as a row of dots or a word in another script, is silent.  A silent token is equal to
every silent name, with the highest score, and scores nothing against any other.  So what a
silent token is matched with is a silent name, if the threshold lets anything through, and
nothing where there is no such name.

A phrase has no silent token at all.  The forms of names that phrases are looked for in have
letters, digits and blanks only, and a token has no blanks, so that every token of a phrase
that is found is made of letters and digits.
-/
import SpokenIndex.Proofs.Annotation
import SpokenIndex.Proofs.Lowering
import SpokenIndex.Proofs.Scoring

namespace SpokenIndex.Matching

open SpokenIndex.Text

variable {settings : MatcherSettings} {index : Mappings} {ts : List Token} {t : Token} {m : Match}
  {i : Nat} {threshold : Binary64} {candidates : List Candidate} {c : Candidate}
  {word name phrase : List Char} {transcript : String}

/-! ### Silent texts -/

/-- A text has no letter or digit on which it could be compared. -/
def IsSilent (s : List Char) : Prop :=
  plainForm s = []

instance (s : List Char) : Decidable (IsSilent s) := inferInstanceAs (Decidable (_ = _))

theorem not_isSilent_iff {s : List Char} : ¬ IsSilent s ↔ ∃ c ∈ s, isPlain c = true := by
  simp [IsSilent, plainForm]

/-- A silent token is equal to a silent name and has nothing in common with another. -/
theorem scoreOf_of_isSilent (h : IsSilent word) :
    scoreOf word name = if IsSilent name then .exact else .noMatch := by
  rw [IsSilent] at h
  rw [scoreOf_eq, h, if_pos rfl]
  exact if_congr eq_comm rfl rfl

/-! ### A silent word -/

/-- A candidate above the threshold is enough for there to be a best one. -/
theorem isSome_bestCandidate (hc : c ∈ candidates) (habove : threshold < (c.scoreFor word).value) :
    (bestCandidate threshold word candidates).isSome := by
  rw [bestCandidate_eq]
  cases hlead : leader? word candidates with
  | none =>
      have hnone : candidates = [] := List.argmax_eq_none.mp hlead
      simp [hnone] at hc
  | some top =>
      have hle : ¬ (top.scoreFor word).rank < (c.scoreFor word).rank :=
        List.not_lt_of_mem_argmax (f := fun c => (c.scoreFor word).rank) hc hlead
      have hin : threshold < (top.scoreFor word).value := by
        by_contra hbelow
        exact Score.not_above_of_not_lt hle hbelow habove
      rw [Option.bind_some, if_pos hin]
      rfl

/-- A silent word is matched with a silent name, and with the highest score. -/
theorem matchWord_of_isSilent (hthreshold : Binary64.zero ≤ settings.acceptThreshold)
    (hword : IsSilent word) (h : matchWord settings index word = some m) :
    settings.acceptThreshold < Score.exact.value ∧
      ∃ c ∈ wordEntries settings index word,
        IsSilent (lower c.name.toList) ∧ m = c.toMatch .exact := by
  obtain ⟨⟨c, score⟩, hbest, rfl⟩ := Option.map_eq_some_iff.mp h
  rw [wordCandidates_eq] at hbest
  obtain ⟨hmem, hscore, habove⟩ := bestCandidate_cases hbest
  rw [Candidate.scoreFor, scoreOf_of_isSilent hword] at hscore
  by_cases hname : IsSilent (lower c.name.toList)
  · rw [if_pos hname] at hscore
    subst hscore
    exact ⟨habove, c, hmem, hname, rfl⟩
  · rw [if_neg hname] at hscore
    subst hscore
    exact absurd hthreshold (Int.not_le.mpr habove)

/-- A silent word is matched exactly if there is a silent name and something scores high enough. -/
theorem isSome_matchWord_iff (hthreshold : Binary64.zero ≤ settings.acceptThreshold)
    (hword : IsSilent word) :
    (matchWord settings index word).isSome ↔
      settings.acceptThreshold < Score.exact.value ∧
        ∃ c ∈ wordEntries settings index word,
          IsSilent (lower c.name.toList) := by
  constructor
  · intro h
    obtain ⟨m, hm⟩ := Option.isSome_iff_exists.mp h
    obtain ⟨habove, c, hc, hname, -⟩ := matchWord_of_isSilent hthreshold hword hm
    exact ⟨habove, c, hc, hname⟩
  · intro hgiven
    obtain ⟨habove, c, hc, hname⟩ := hgiven
    have hscore : c.scoreFor word = .exact := by
      rw [Candidate.scoreFor, scoreOf_of_isSilent hword, if_pos hname]
    rw [matchWord, Option.isSome_map, wordCandidates_eq]
    exact isSome_bestCandidate hc (hscore ▸ habove)

/-- The match of the word at a position is the one that the token there has on its own. -/
theorem matchWord_of_wordAt (ht : (tokens transcript.toList)[i]? = some t)
    (h : wordAt (slots settings index transcript) i = some m) :
    matchWord settings index t.word = some m := by
  obtain ⟨slot, hslot, -⟩ := isTail_of_wordAt h
  obtain ⟨u, before, hopen, hfresh⟩ := of_mem_scanWords (List.mem_of_getElem? hslot)
  have htoken : slot.token = t :=
    Option.some.inj ((getElem?_tokens (getElem?_phraseSlots hslot)).symm.trans ht)
  rw [← htoken, Slot.token_of_openToken? hopen]
  exact (matchFresh_cases hfresh).1

/-! ### The tokens of a phrase -/

/-- A name has letters, digits and blanks left when phrases are compared with it. -/
theorem isPlain_or_isBlank_of_mem_phraseForm {c : Char} (h : c ∈ phraseForm name) :
    isPlain c = true ∨ isBlank c = true := by
  obtain ⟨d, -, rfl⟩ := List.mem_map.mp h
  by_cases hkept : (isPlain d || isBlank d) = true
  · rw [if_pos hkept]
    exact Bool.or_eq_true_iff.mp hkept
  · rw [if_neg hkept]
    exact Or.inr (by decide)

/-- A phrase that has a match is contained in the form of a name. -/
theorem IsPhraseMatch.exists_infix {free : String → Prop} (h : IsPhraseMatch index free phrase m) :
    ∃ c ∈ phraseEntries index, phrase <:+: phraseForm c.name.toList := by
  have hmem : ∀ {p : Candidate → Prop} {c : Candidate}, IsFirst p (phraseEntries index) c →
      c ∈ phraseEntries index := by
    intro p c hfirst
    obtain ⟨-, before, after, hsplit, -⟩ := hfirst
    exact hsplit ▸ List.mem_append_right _ List.mem_cons_self
  rcases h with ⟨c, hfirst, -⟩ | ⟨-, c, hfirst, -⟩
  · exact ⟨c, hmem hfirst, hfirst.1.2 ▸ List.infix_refl _⟩
  · exact ⟨c, hmem hfirst, hfirst.1.2⟩

/-- A token is not empty and has no blank in lowercase either. -/
theorem word_of_mem_tokens (h : t ∈ tokens transcript.toList) :
    t.word ≠ [] ∧ ∀ c ∈ t.word, isBlank c = false := by
  obtain ⟨w, hw, rfl⟩ := List.mem_map.mp h
  obtain ⟨hne, hvisible⟩ := ne_nil_and_not_blank_of_mem_words hw
  exact ⟨fun hnil => hne (lower_eq_nil_iff.mp hnil), isBlank_of_mem_lower hvisible⟩

/-- A token in a phrase that has a match is made of letters and digits. -/
theorem isPlain_of_phrase {free : String → Prop} (h : IsPhraseMatch index free (phraseOf ts) m)
    (ht : t ∈ ts) (hvisible : ∀ c ∈ t.word, isBlank c = false) :
    ∀ c ∈ t.word, isPlain c = true := by
  intro c hc
  obtain ⟨d, -, hwithin⟩ := h.exists_infix
  have hin : c ∈ phraseOf ts := mem_joinWith (List.mem_map.mpr ⟨t, ht, rfl⟩) hc
  rcases isPlain_or_isBlank_of_mem_phraseForm (hwithin.subset hin) with hplain | hblank
  · exact hplain
  · rw [hvisible c hc] at hblank
    exact absurd hblank Bool.false_ne_true

/-- A span is made of the tokens at its positions. -/
theorem Span.mem_tokens {span : Span} (hcovers : span.Covers i) (ht : ts[i]? = some t) :
    t ∈ (ts.drop span.start).take span.size := by
  obtain ⟨hstart, hstop⟩ := hcovers
  rw [Span.stop] at hstop
  refine List.mem_of_getElem? (i := i - span.start) ?_
  rw [List.getElem?_take_of_lt (by omega), List.getElem?_drop, Nat.add_sub_cancel' hstart]
  exact ht

/-! ### Silent tokens -/

/-- **A silent token is matched with a silent name only.**  A token that is matched as a word has a
letter or digit, or its match is a name that has none either and scores 1.  On its own a token
without letters and digits is matched exactly if there is such a name and 1 is above the threshold.
Every token of a phrase is made of letters and digits alone. -/
theorem silent_tokens (settings : MatcherSettings)
    (hthreshold : Binary64.zero ≤ settings.acceptThreshold) (index : Mappings)
    (transcript : String) :
    (∀ i t m, (tokens transcript.toList)[i]? = some t →
      wordAt (slots settings index transcript) i = some m →
        (∃ c ∈ t.word, isPlain c = true) ∨
          ∃ c ∈ wordEntries settings index t.word,
            IsSilent (lower c.name.toList) ∧ m = c.toMatch .exact) ∧
    (∀ word, IsSilent word →
      ((matchWord settings index word).isSome ↔
        settings.acceptThreshold < Score.exact.value ∧
          ∃ c ∈ wordEntries settings index word,
            IsSilent (lower c.name.toList))) ∧
    ∀ i t, (tokens transcript.toList)[i]? = some t →
      ∀ span ∈ spansOf (phraseSlots index transcript), span.Covers i →
        t.word ≠ [] ∧ ∀ c ∈ t.word, isPlain c = true := by
  refine ⟨fun i t m ht hm => ?_, fun word hword => isSome_matchWord_iff hthreshold hword,
    fun i t ht span hspan hcovers => ?_⟩
  · by_cases hsilent : IsSilent t.word
    · obtain ⟨-, hnamed⟩ := matchWord_of_isSilent hthreshold hsilent (matchWord_of_wordAt ht hm)
      exact Or.inr hnamed
    · exact Or.inl (not_isSilent_iff.mp hsilent)
  · have hscan := isGreedyScan_phraseSlots index transcript
    obtain ⟨hne, hvisible⟩ := word_of_mem_tokens (List.mem_of_getElem? ht)
    exact ⟨hne, isPlain_of_phrase (hscan.sound span hspan) (Span.mem_tokens hcovers ht) hvisible⟩

/-- An index of one file, which has its name in another script. -/
def silentIndex : Mappings :=
  { Mappings.empty with files := .ofList [("日本.md", "/r/日本.md"), ("日本", "/r/日本.md")] }

/-- A word of another script is matched with a name of that script, whatever both say. -/
theorem silent_tokens_script :
    Binary64.zero ≤ MatcherSettings.standard.acceptThreshold ∧
    IsSilent (lower "東京都".toList) ∧
    (matchWord .standard silentIndex (lower "東京都".toList)).isSome := by
  have hthreshold : Binary64.zero ≤ MatcherSettings.standard.acceptThreshold := by decide +kernel
  have hsilent : IsSilent (lower "東京都".toList) := by decide
  obtain ⟨-, halone, -⟩ := silent_tokens .standard hthreshold silentIndex "東京都"
  exact ⟨hthreshold, hsilent, (halone _ hsilent).mpr (by decide +kernel)⟩

/-- Dots and a word of another script have no letter or digit, and both are matched. -/
theorem silent_tokens_are_matched :
    IsSilent (lower "...".toList) ∧ IsSilent (lower "東京都".toList) ∧
    wordAt (slots .standard silentIndex "...") 0
      = some ⟨"日本.md", "/r/日本.md", .file, .exact⟩ ∧
    wordAt (slots .standard silentIndex "東京都") 0
      = some ⟨"日本.md", "/r/日本.md", .file, .exact⟩ := by
  decide +kernel

end SpokenIndex.Matching
