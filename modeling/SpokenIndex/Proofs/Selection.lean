/-
What is selected for a phrase and for a word.

A phrase takes the first unclaimed candidate that equals it, else the first that
contains it.  A word goes through the candidates with the best one so far in hand, and
what it holds in the end can be said without the walk.  The leader is the first
candidate with the highest score; it is the answer if it scores above the threshold.
Only if it is a file does the first symbol with its score and its path speak for it.

Selections are made from lists of candidates, and candidates that were not selected can
be taken from the list without changing the selection.  That is where the rule for
symbols matters: whoever speaks for a leader has the leader's path, so of the
candidates of one path either all stay or all go.
-/
import Mathlib
import SpokenIndex.Matching.Transcript

namespace SpokenIndex

/-- Scores are ordered as the numbers that they stand for. -/
theorem Score.value_lt_iff {a b : Score} : a.value < b.value ↔ a.rank < b.rank := by
  cases a <;> cases b <;> decide +kernel

theorem Score.value_le_iff {a b : Score} : a.value ≤ b.value ↔ a.rank ≤ b.rank := by
  rw [← Binary64.not_lt, Score.value_lt_iff, Nat.not_lt]

/-- A score that is no higher than another is below a threshold with it. -/
theorem Score.not_above_of_not_lt {threshold : Binary64} {a b : Score} (h : ¬ a.rank < b.rank)
    (ha : ¬ threshold < a.value) : ¬ threshold < b.value := by
  intro hb
  have hle := Binary64.not_lt.mp fun hlt => h (Score.value_lt_iff.mp hlt)
  exact ha (Int.lt_of_lt_of_le hb hle)

namespace Matching

open SpokenIndex.Text

variable {index : Mappings} {settings : MatcherSettings} {claimed : List String}
  {phrase word : List Char} {candidates : List Candidate} {c top : Candidate} {m : Match}
  {score : Score} {threshold : Binary64} {gone : String → Bool}

@[simp] theorem Candidate.path_toMatch (c : Candidate) (score : Score) :
    (c.toMatch score).path = c.path := rfl

/-! ### What an index offers -/

/-- A candidate is an entry of the mapping for its kind; no mapping makes candidates of folders. -/
def Candidate.IsEntry (index : Mappings) (c : Candidate) : Prop :=
  match c.kind with
  | .file => (c.name, c.path) ∈ index.files.entries
  | .folder => False
  | .component => (c.name, c.path) ∈ index.components.entries
  | .function => (c.name, c.path) ∈ index.functions.entries

theorem mem_candidatesOf {kind : ArtifactKind} {map : NameMap} :
    c ∈ candidatesOf kind map ↔ c.kind = kind ∧ (c.name, c.path) ∈ map.entries := by
  obtain ⟨name, path, k⟩ := c
  simp only [candidatesOf, List.mem_map, Candidate.mk.injEq, Prod.exists]
  constructor
  · intro hgiven
    obtain ⟨n, p, hmem, rfl, rfl, rfl⟩ := hgiven
    exact ⟨rfl, hmem⟩
  · intro hgiven
    obtain ⟨rfl, hmem⟩ := hgiven
    exact ⟨name, path, hmem, rfl, rfl, rfl⟩

theorem isEntry_of_mem_phraseCandidates (h : c ∈ phraseCandidates index) : c.IsEntry index := by
  rw [phraseCandidates, List.mem_append, mem_candidatesOf, mem_candidatesOf] at h
  rcases h with ⟨hkind, hmem⟩ | ⟨hkind, hmem⟩ <;> simpa only [Candidate.IsEntry, hkind] using hmem

theorem isEntry_of_mem_wordCandidates {withFunctions : Bool}
    (h : c ∈ wordCandidates index withFunctions) : c.IsEntry index := by
  rw [wordCandidates, List.mem_append, List.mem_append, mem_candidatesOf, mem_candidatesOf] at h
  rcases h with (⟨hkind, hmem⟩ | ⟨hkind, hmem⟩) | h
  · simpa only [Candidate.IsEntry, hkind] using hmem
  · simpa only [Candidate.IsEntry, hkind] using hmem
  · cases withFunctions with
    | false => simp at h
    | true =>
        rw [if_pos rfl, mem_candidatesOf] at h
        obtain ⟨hkind, hmem⟩ := h
        simpa only [Candidate.IsEntry, hkind] using hmem

/-- What a phrase may refer to: the components, and behind them the files. -/
def phraseEntries (index : Mappings) : List Candidate :=
  index.components.entries.map (fun e => ⟨e.1, e.2, .component⟩)
    ++ index.files.entries.map fun e => ⟨e.1, e.2, .file⟩

theorem phraseCandidates_eq (index : Mappings) : phraseCandidates index = phraseEntries index := rfl

theorem mem_phraseEntries_iff :
    c ∈ phraseEntries index ↔
      (c.kind = .component ∧ (c.name, c.path) ∈ index.components.entries) ∨
        c.kind = .file ∧ (c.name, c.path) ∈ index.files.entries := by
  rw [← phraseCandidates_eq, phraseCandidates, List.mem_append, mem_candidatesOf, mem_candidatesOf]

/-- What a word may refer to: the files, behind them the components, and behind these the functions
if the word is longer than the settings ask for. -/
def wordEntries (settings : MatcherSettings) (index : Mappings) (word : List Char) :
    List Candidate :=
  index.files.entries.map (fun e => ⟨e.1, e.2, .file⟩)
    ++ index.components.entries.map (fun e => ⟨e.1, e.2, .component⟩)
    ++ if settings.functionMinLength < word.length then
        index.functions.entries.map fun e => ⟨e.1, e.2, .function⟩
      else []

theorem wordCandidates_eq (settings : MatcherSettings) (index : Mappings) (word : List Char) :
    wordCandidates index (considersFunctions settings word) = wordEntries settings index word := by
  rw [wordCandidates, considersFunctions, wordEntries]
  simp only [decide_eq_true_eq]
  rfl

/-! ### A phrase -/

theorem mem_unclaimed_iff :
    c ∈ (phraseCandidates index).filter (fun c => !claimed.contains c.path) ↔
      c ∈ phraseCandidates index ∧ c.path ∉ claimed := by
  simp

/-- A phrase is matched with an unclaimed candidate, and with one of two scores. -/
theorem matchPhrase_cases (h : matchPhrase index claimed phrase = some m) :
    ∃ c ∈ phraseCandidates index, c.path ∉ claimed ∧
      (m = c.toMatch .exact ∨ m = c.toMatch .onBoundary) := by
  rw [matchPhrase] at h
  split at h
  · rename_i c hfind
    obtain ⟨hc, hfree⟩ := mem_unclaimed_iff.mp (List.mem_of_find?_eq_some hfind)
    exact ⟨c, hc, hfree, Or.inl (Option.some.inj h).symm⟩
  · obtain ⟨c, hfind, rfl⟩ := Option.map_eq_some_iff.mp h
    obtain ⟨hc, hfree⟩ := mem_unclaimed_iff.mp (List.mem_of_find?_eq_some hfind)
    exact ⟨c, hc, hfree, Or.inr rfl⟩

/-- A search that finds what is kept finds the same among what is kept. -/
theorem find?_filter_of_kept {α : Type} {p keep : α → Bool} {l : List α}
    (h : ∀ a, l.find? p = some a → keep a = true) : (l.filter keep).find? p = l.find? p := by
  induction l with
  | nil => rfl
  | cons a rest ih =>
      by_cases hp : p a = true
      · have hkeep : keep a = true := h a (List.find?_cons_of_pos hp)
        rw [List.filter_cons_of_pos hkeep, List.find?_cons_of_pos hp, List.find?_cons_of_pos hp]
      · rw [List.find?_cons_of_neg hp] at h ⊢
        by_cases hkeep : keep a = true
        · rw [List.filter_cons_of_pos hkeep, List.find?_cons_of_neg hp, ih h]
        · rw [List.filter_cons_of_neg hkeep, ih h]

/-- The match of a phrase stays when candidates of other paths are taken away. -/
theorem matchPhrase_of_filter {rest : Mappings}
    (hrest : phraseCandidates rest = (phraseCandidates index).filter fun c => !gone c.path)
    (h : ∀ m, matchPhrase index claimed phrase = some m → gone m.path = false) :
    matchPhrase rest claimed phrase = matchPhrase index claimed phrase := by
  simp only [matchPhrase] at h ⊢
  rw [hrest, List.filter_comm]
  generalize (phraseCandidates index).filter (fun c => !claimed.contains c.path) = unclaimed at h ⊢
  have hexact : ∀ c, unclaimed.find? (fun c => phraseForm c.name.toList == phrase) = some c →
      (!gone c.path) = true := by
    intro c hfind
    rw [hfind] at h
    have hkept := h _ rfl
    simpa using hkept
  rw [find?_filter_of_kept hexact]
  cases hfind : unclaimed.find? fun c => phraseForm c.name.toList == phrase with
  | some c => rfl
  | none =>
      rw [hfind] at h
      rw [find?_filter_of_kept]
      intro c hcontains
      have hkept := h _ (by rw [hcontains]; rfl)
      simpa using hkept

/-! ### A word -/

/-- The score of a candidate for a word. -/
def Candidate.scoreFor (c : Candidate) (word : List Char) : Score :=
  scoreOf word (lower c.name.toList)

/-- The first candidate with the highest score. -/
def leader? (word : List Char) (candidates : List Candidate) : Option Candidate :=
  candidates.argmax fun c => (c.scoreFor word).rank

/-- Whether a candidate is a symbol with the score and the path of a file. -/
def speaksFor (word : List Char) (top c : Candidate) : Bool :=
  c.scoreFor word == top.scoreFor word && top.kind == .file && c.kind != .file
    && c.path == top.path

/-- The candidate that is answered for a leader. -/
def spokesman (word : List Char) (candidates : List Candidate) (top : Candidate) : Candidate :=
  (candidates.find? (speaksFor word top)).getD top

theorem path_eq_of_speaksFor (h : speaksFor word top c = true) : c.path = top.path := by
  simp only [speaksFor, Bool.and_eq_true, beq_iff_eq] at h
  exact h.2

theorem scoreFor_eq_of_speaksFor (h : speaksFor word top c = true) :
    c.scoreFor word = top.scoreFor word := by
  simp only [speaksFor, Bool.and_eq_true, beq_iff_eq] at h
  exact h.1.1.1

theorem path_spokesman : (spokesman word candidates top).path = top.path := by
  rw [spokesman]
  cases hfind : candidates.find? (speaksFor word top) with
  | none => rfl
  | some c => exact path_eq_of_speaksFor (List.find?_some hfind)

theorem scoreFor_spokesman :
    (spokesman word candidates top).scoreFor word = top.scoreFor word := by
  rw [spokesman]
  cases hfind : candidates.find? (speaksFor word top) with
  | none => rfl
  | some c => exact scoreFor_eq_of_speaksFor (List.find?_some hfind)

theorem spokesman_mem (h : top ∈ candidates) : spokesman word candidates top ∈ candidates := by
  rw [spokesman]
  cases hfind : candidates.find? (speaksFor word top) with
  | none => exact h
  | some c => exact List.mem_of_find?_eq_some hfind

/-- No symbol speaks for a candidate that scores higher than all before it. -/
theorem spokesman_concat_self
    (h : ∀ d ∈ candidates, (d.scoreFor word).rank < (c.scoreFor word).rank) :
    spokesman word (candidates ++ [c]) c = c := by
  have hnone : (candidates ++ [c]).find? (speaksFor word c) = none := by
    refine List.find?_eq_none.mpr fun d hd hspeaks => ?_
    simp only [speaksFor, Bool.and_eq_true, beq_iff_eq, bne_iff_ne] at hspeaks
    obtain ⟨⟨⟨hscore, hfile⟩, hkind⟩, -⟩ := hspeaks
    rcases List.mem_append.mp hd with hd | hd
    · have hlt := h d hd
      rw [hscore] at hlt
      exact Nat.lt_irrefl _ hlt
    · rw [List.mem_singleton.mp hd] at hkind
      exact hkind hfile
  rw [spokesman, hnone]
  rfl

/-- One more candidate speaks for a leader only if none did before. -/
theorem spokesman_concat :
    spokesman word (candidates ++ [c]) top =
      if supersedes (some (spokesman word candidates top, top.scoreFor word)) c (c.scoreFor word)
      then c else spokesman word candidates top := by
  rw [spokesman, spokesman, List.find?_append]
  cases hfind : candidates.find? (speaksFor word top) with
  | some d =>
      have hspeaks := List.find?_some hfind
      simp only [speaksFor, Bool.and_eq_true, bne_iff_ne] at hspeaks
      have hkind : d.kind ≠ .file := hspeaks.1.2
      simp [supersedes, hkind]
  | none =>
      change ((none : Option Candidate).or ([c].find? (speaksFor word top))).getD top
        = if speaksFor word top c then c else top
      by_cases hspeaks : speaksFor word top c = true
      · simp [hspeaks]
      · simp [hspeaks]

/-- The first candidate in hand has to score above the threshold. -/
theorem better_none :
    better threshold word none c =
      if threshold < (c.scoreFor word).value then some (c, c.scoreFor word) else none := by
  by_cases h : threshold < (c.scoreFor word).value
  · rw [if_pos h, better, if_pos]
    · rfl
    · exact Bool.or_eq_true_iff.mpr (Or.inl (decide_eq_true h))
  · rw [if_neg h, better, if_neg]
    simpa [beats, supersedes, Candidate.scoreFor] using h

/-- A later candidate has to score higher than the one in hand, or to take its place. -/
theorem better_some :
    better threshold word (some (top, score)) c =
      if score.rank < (c.scoreFor word).rank ∨
          supersedes (some (top, score)) c (c.scoreFor word) = true then
        some (c, c.scoreFor word)
      else some (top, score) := by
  have hbeats : beats threshold (some (top, score)) (c.scoreFor word) = true
      ↔ score.rank < (c.scoreFor word).rank := by
    rw [← Score.value_lt_iff]
    exact decide_eq_true_iff
  exact if_congr (by rw [Bool.or_eq_true_iff, ← hbeats]; rfl) rfl rfl

/-- **The best candidate.**  The leader decides whether there is an answer and with which score. -/
theorem bestCandidate_eq :
    bestCandidate threshold word candidates =
      (leader? word candidates).bind fun top =>
        if threshold < (top.scoreFor word).value then
          some (spokesman word candidates top, top.scoreFor word)
        else none := by
  induction candidates using List.reverseRecOn with
  | nil => rfl
  | append_singleton init c ih =>
      have hstep : bestCandidate threshold word (init ++ [c])
          = better threshold word (bestCandidate threshold word init) c := by
        rw [bestCandidate, List.foldl_append]
        rfl
      rw [hstep, ih, leader?, leader?, List.argmax_concat]
      cases hlead : init.argmax fun c => (c.scoreFor word).rank with
      | none =>
          obtain rfl := List.argmax_eq_none.mp hlead
          rw [Option.bind_none, better_none, Option.bind_some,
            spokesman_concat_self fun d hd => absurd hd List.not_mem_nil]
      | some top =>
          rw [Option.bind_some]
          dsimp only
          by_cases hhigher : (top.scoreFor word).rank < (c.scoreFor word).rank
          · -- a new leader, which nobody in the list so far can speak for
            have hself : spokesman word (init ++ [c]) c = c := by
              refine spokesman_concat_self fun d hd => Nat.lt_of_le_of_lt ?_ hhigher
              exact List.le_of_mem_argmax (f := fun c => (c.scoreFor word).rank) hd hlead
            rw [if_pos hhigher, Option.bind_some, hself]
            by_cases hin : threshold < (top.scoreFor word).value
            · have hbeyond : threshold < (c.scoreFor word).value :=
                Int.lt_trans hin (Score.value_lt_iff.mpr hhigher)
              rw [if_pos hin, if_pos hbeyond, better_some, if_pos (Or.inl hhigher)]
            · rw [if_neg hin, better_none]
          · rw [if_neg hhigher, Option.bind_some]
            by_cases hin : threshold < (top.scoreFor word).value
            · rw [if_pos hin, if_pos hin, better_some, spokesman_concat]
              by_cases hplace : supersedes
                  (some (spokesman word init top, top.scoreFor word)) c (c.scoreFor word) = true
              · have hscore : c.scoreFor word = top.scoreFor word := by
                  simp only [supersedes, Bool.and_eq_true, beq_iff_eq] at hplace
                  exact hplace.1.1.1
                rw [if_pos (Or.inr hplace), if_pos hplace, hscore]
              · rw [if_neg (not_or.mpr ⟨hhigher, hplace⟩), if_neg hplace]
            · have hbelow := Score.not_above_of_not_lt hhigher hin
              rw [if_neg hin, if_neg hin, better_none, if_neg hbelow]

/-- The best candidate is one of the candidates, and its score is above the threshold. -/
theorem bestCandidate_cases (h : bestCandidate threshold word candidates = some (c, score)) :
    c ∈ candidates ∧ score = c.scoreFor word ∧ threshold < score.value := by
  rw [bestCandidate_eq] at h
  obtain ⟨top, hlead, hanswer⟩ := Option.bind_eq_some_iff.mp h
  split at hanswer
  · rename_i hin
    obtain ⟨rfl, rfl⟩ := Prod.mk.inj (Option.some.inj hanswer)
    exact ⟨spokesman_mem (List.argmax_mem hlead), scoreFor_spokesman.symm, hin⟩
  · simp at hanswer

/-- A leader that is kept leads what is kept. -/
theorem leader?_filter {keep : Candidate → Bool} (hlead : leader? word candidates = some top)
    (hkeep : keep top = true) : leader? word (candidates.filter keep) = some top := by
  unfold leader? at hlead ⊢
  induction candidates with
  | nil => simp at hlead
  | cons d rest ih =>
      rw [List.argmax_cons] at hlead
      cases hrest : rest.argmax fun c => (c.scoreFor word).rank with
      | none =>
          obtain rfl := List.argmax_eq_none.mp hrest
          obtain rfl : d = top := Option.some.inj hlead
          rw [List.filter_cons_of_pos hkeep]
          rfl
      | some best =>
          rw [hrest] at hlead ih
          dsimp only at hlead
          by_cases hlower : (d.scoreFor word).rank < (best.scoreFor word).rank
          · rw [if_pos hlower] at hlead
            obtain rfl := Option.some.inj hlead
            by_cases hd : keep d = true
            · rw [List.filter_cons_of_pos hd, List.argmax_cons, ih rfl]
              exact if_pos hlower
            · rw [List.filter_cons_of_neg hd, ih rfl]
          · -- `best` need not be kept, but whoever leads the rest of what is kept is no higher
            rw [if_neg hlower] at hlead
            obtain rfl := Option.some.inj hlead
            rw [List.filter_cons_of_pos hkeep, List.argmax_cons]
            cases hkept : (rest.filter keep).argmax fun c => (c.scoreFor word).rank with
            | none => rfl
            | some other =>
                have hother : other ∈ rest := List.mem_of_mem_filter (List.argmax_mem hkept)
                have hle : (other.scoreFor word).rank ≤ (best.scoreFor word).rank :=
                  List.le_of_mem_argmax (f := fun c => (c.scoreFor word).rank) hother hrest
                exact if_neg fun hlt => hlower (Nat.lt_of_lt_of_le hlt hle)

/-- The best candidate stays when candidates of other paths are taken away. -/
theorem bestCandidate_filter
    (h : ∀ c score, bestCandidate threshold word candidates = some (c, score) →
      gone c.path = false) :
    bestCandidate threshold word (candidates.filter fun c => !gone c.path)
      = bestCandidate threshold word candidates := by
  rw [bestCandidate_eq] at h ⊢
  rw [bestCandidate_eq]
  cases hlead : leader? word candidates with
  | none =>
      obtain rfl := List.argmax_eq_none.mp hlead
      rfl
  | some top =>
      rw [hlead, Option.bind_some] at h
      rw [Option.bind_some]
      by_cases hin : threshold < (top.scoreFor word).value
      · rw [if_pos hin] at h ⊢
        have hkept : gone top.path = false := by
          have hspokesman := h _ _ rfl
          rwa [path_spokesman] at hspokesman
        have hspeaks : (candidates.filter fun c => !gone c.path).find? (speaksFor word top)
            = candidates.find? (speaksFor word top) := by
          refine find?_filter_of_kept fun c hfind => ?_
          rw [path_eq_of_speaksFor (List.find?_some hfind), hkept]
          rfl
        rw [leader?_filter hlead (by simp [hkept]), Option.bind_some, if_pos hin, spokesman,
          hspeaks, spokesman]
      · rw [if_neg hin]
        cases hkept : leader? word (candidates.filter fun c => !gone c.path) with
        | none => rfl
        | some other =>
            have hother : other ∈ candidates := List.mem_of_mem_filter (List.argmax_mem hkept)
            have hle : ¬ (top.scoreFor word).rank < (other.scoreFor word).rank :=
              List.not_lt_of_mem_argmax (f := fun c => (c.scoreFor word).rank) hother hlead
            exact if_neg (Score.not_above_of_not_lt hle hin)

/-- The match of a word is that of a candidate that scores above the threshold. -/
theorem matchWord_cases (h : matchWord settings index word = some m) :
    ∃ c, c ∈ wordCandidates index (considersFunctions settings word) ∧ ∃ score,
      m = c.toMatch score ∧ settings.acceptThreshold < score.value := by
  obtain ⟨⟨c, score⟩, hbest, rfl⟩ := Option.map_eq_some_iff.mp h
  obtain ⟨hmem, -, habove⟩ := bestCandidate_cases hbest
  exact ⟨c, hmem, score, rfl, habove⟩

/-- The match of a word stays when candidates of other paths are taken away. -/
theorem matchWord_of_filter {rest : Mappings}
    (hrest : ∀ withFunctions, wordCandidates rest withFunctions
      = (wordCandidates index withFunctions).filter fun c => !gone c.path)
    (h : ∀ m, matchWord settings index word = some m → gone m.path = false) :
    matchWord settings rest word = matchWord settings index word := by
  rw [matchWord, matchWord, hrest, bestCandidate_filter]
  intro c score hbest
  exact h (c.toMatch score) (Option.map_eq_some_iff.mpr ⟨_, hbest, rfl⟩)

/-! ### The word and its leader -/

variable {before after : List Candidate}

/-- A candidate leads those before it and behind it: no other scores higher, and none before it as
high. -/
structure Leads (word : List Char) (before : List Candidate) (top : Candidate)
    (after : List Candidate) : Prop where
  before_lt : ∀ c ∈ before, (c.scoreFor word).value < (top.scoreFor word).value
  after_le : ∀ c ∈ after, (c.scoreFor word).value ≤ (top.scoreFor word).value

/-- The leader of a list is the candidate that leads it. -/
theorem exists_leads (h : leader? word candidates = some top) :
    ∃ before after, candidates = before ++ top :: after ∧ Leads word before top after := by
  unfold leader? at h
  induction candidates using List.reverseRecOn generalizing top with
  | nil => simp at h
  | append_singleton init c ih =>
      rw [List.argmax_concat] at h
      cases hlead : init.argmax fun c => (c.scoreFor word).rank with
      | none =>
          obtain rfl := List.argmax_eq_none.mp hlead
          obtain rfl : c = top := by simpa using h
          exact ⟨[], [], rfl, by simp, by simp⟩
      | some best =>
          rw [hlead] at h
          dsimp only at h
          by_cases hhigher : (best.scoreFor word).rank < (c.scoreFor word).rank
          · rw [if_pos hhigher] at h
            obtain rfl := Option.some.inj h
            refine ⟨init, [], rfl, fun d hd => ?_, by simp⟩
            have hle : (d.scoreFor word).rank ≤ (best.scoreFor word).rank :=
              List.le_of_mem_argmax (f := fun c => (c.scoreFor word).rank) hd hlead
            exact Score.value_lt_iff.mpr (Nat.lt_of_le_of_lt hle hhigher)
          · rw [if_neg hhigher] at h
            obtain rfl := Option.some.inj h
            obtain ⟨before, after, rfl, hleads⟩ := ih hlead
            refine ⟨before, after ++ [c], by simp, hleads.before_lt, fun d hd => ?_⟩
            rcases List.mem_append.mp hd with hd | hd
            · exact hleads.after_le d hd
            · rw [List.mem_singleton.mp hd]
              exact Score.value_le_iff.mpr (Nat.not_lt.mp hhigher)

/-- Whoever leads a list has the highest score of all. -/
theorem Leads.value_le (h : Leads word before top after) (hc : c ∈ before ++ top :: after) :
    (c.scoreFor word).value ≤ (top.scoreFor word).value := by
  rcases List.mem_append.mp hc with hc | hc
  · exact Int.le_of_lt (h.before_lt c hc)
  · rcases List.mem_cons.mp hc with rfl | hc
    · exact Binary64.le_refl _
    · exact h.after_le c hc

/-- The candidate that is answered for the leader of a list: the leader itself, but for a file the
first symbol behind it with the same score and the same path. -/
def answerFor (word : List Char) (top : Candidate) (after : List Candidate) : Candidate :=
  if top.kind = .file then
    (after.find? fun c =>
      decide (c.kind ≠ .file ∧ c.scoreFor word = top.scoreFor word ∧ c.path = top.path)).getD top
  else top

/-- Who speaks for a leader stands behind it. -/
theorem Leads.spokesman_eq (h : Leads word before top after) :
    spokesman word (before ++ top :: after) top = answerFor word top after := by
  have hbefore : before.find? (speaksFor word top) = none := by
    refine List.find?_eq_none.mpr fun d hd hspeaks => ?_
    simp only [speaksFor, Bool.and_eq_true, beq_iff_eq] at hspeaks
    have hlt := h.before_lt d hd
    rw [hspeaks.1.1.1] at hlt
    exact Binary64.lt_irrefl _ hlt
  have htop : speaksFor word top top = false := by
    simp [speaksFor]
  rw [spokesman, List.find?_append, hbefore, Option.none_or,
    List.find?_cons_of_neg (by simp [htop]), answerFor]
  by_cases hfile : top.kind = .file
  · have hsame : speaksFor word top = fun c =>
        decide (c.kind ≠ .file ∧ c.scoreFor word = top.scoreFor word ∧ c.path = top.path) := by
      funext c
      rw [Bool.eq_iff_iff]
      simp only [speaksFor, hfile, Bool.and_eq_true, beq_iff_eq, bne_iff_ne, decide_eq_true_eq]
      tauto
    rw [if_pos hfile, hsame]
  · have hnone : after.find? (speaksFor word top) = none := by
      refine List.find?_eq_none.mpr fun d _ hspeaks => ?_
      simp only [speaksFor, Bool.and_eq_true, beq_iff_eq] at hspeaks
      exact hfile hspeaks.1.1.2
    rw [if_neg hfile, hnone]
    rfl

/-- **The match of a word.**  Nothing is matched exactly if there is no candidate or the highest
score is not above the threshold.  Otherwise the first candidate with the highest score leads, and
the match is the one that is answered for it, with that score. -/
theorem word_goes_to_leader (settings : MatcherSettings) (index : Mappings) (word : List Char) :
    let candidates := wordEntries settings index word
    (matchWord settings index word = none ↔
      candidates = [] ∨ ∃ top ∈ candidates,
        (∀ c ∈ candidates, (c.scoreFor word).value ≤ (top.scoreFor word).value) ∧
          ¬ settings.acceptThreshold < (top.scoreFor word).value) ∧
    (candidates = [] ∨ ∃ before top after, candidates = before ++ top :: after ∧
      Leads word before top after ∧
        matchWord settings index word =
          if settings.acceptThreshold < (top.scoreFor word).value then
            some ((answerFor word top after).toMatch (top.scoreFor word))
          else none) := by
  intro candidates
  have hmatch : matchWord settings index word
      = (bestCandidate settings.acceptThreshold word candidates).map fun b => b.1.toMatch b.2 := by
    rw [matchWord, wordCandidates_eq]
  cases hlead : leader? word candidates with
  | none =>
      have hnone : candidates = [] := List.argmax_eq_none.mp hlead
      rw [hmatch, bestCandidate_eq, hlead]
      simp [hnone]
  | some top =>
      obtain ⟨before, after, hsplit, hleads⟩ := exists_leads hlead
      have hanswer : matchWord settings index word =
          if settings.acceptThreshold < (top.scoreFor word).value then
            some ((answerFor word top after).toMatch (top.scoreFor word))
          else none := by
        rw [hmatch, bestCandidate_eq, hlead, Option.bind_some, hsplit, hleads.spokesman_eq]
        split <;> rfl
      have hhighest : ∀ c ∈ candidates,
          (c.scoreFor word).value ≤ (top.scoreFor word).value :=
        fun c hc => hleads.value_le (hsplit ▸ hc)
      have hmem : top ∈ candidates := List.argmax_mem hlead
      refine ⟨?_, Or.inr ⟨before, top, after, hsplit, hleads, hanswer⟩⟩
      rw [hanswer]
      constructor
      · intro hnone
        refine Or.inr ⟨top, hmem, hhighest, fun habove => ?_⟩
        simp [habove] at hnone
      · rintro (hnone | ⟨other, hother, hmax, hbelow⟩)
        · simp [hnone] at hmem
        · -- Two candidates with the highest score have the same score.
          refine if_neg fun habove => hbelow ?_
          exact Int.lt_of_lt_of_le habove (hmax top hmem)

/-- An index of a file that is named as its component, and of a function of that name elsewhere. -/
def namesakeIndex : Mappings :=
  { Mappings.empty with
    files := .ofList [("card.tsx", "/r/card.tsx"), ("card", "/r/card.tsx")]
    components := .ofList [("Card", "/r/card.tsx")]
    functions := .ofList [("card", "/r/deck.ts")] }

/-- The second name of the file leads, and the component speaks for it.  The function is not looked
at, for the word is short. -/
theorem word_goes_to_leader_namesake :
    let word := "card".toList
    let candidates : List Candidate := [⟨"card.tsx", "/r/card.tsx", .file⟩,
      ⟨"card", "/r/card.tsx", .file⟩, ⟨"Card", "/r/card.tsx", .component⟩]
    let found : Match := ⟨"Card (card.tsx)", "/r/card.tsx", .component, .exact⟩
    matchWord .standard namesakeIndex word = some found ∧
      ∃ before top after, candidates = before ++ top :: after ∧ Leads word before top after ∧
        some found = if MatcherSettings.standard.acceptThreshold < (top.scoreFor word).value then
            some ((answerFor word top after).toMatch (top.scoreFor word))
          else none := by
  intro word candidates found
  have hcandidates : wordEntries .standard namesakeIndex word = candidates := by decide
  have hmatch : matchWord .standard namesakeIndex word = some found := by decide +kernel
  obtain ⟨-, hnone | hleads⟩ := word_goes_to_leader .standard namesakeIndex word
  · rw [hcandidates] at hnone
    exact absurd hnone (List.cons_ne_nil _ _)
  · rw [hcandidates, hmatch] at hleads
    exact ⟨hmatch, hleads⟩

end Matching

end SpokenIndex
