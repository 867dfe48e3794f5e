/-
A word with marks of punctuation behind it.

Marks are no letters or digits, so a token with marks behind it has the score of the bare
token for every name.  But before a token is compared it has to pass: it must be no stop
word and long enough, and longer still for functions to be considered.  The token that is
asked about there still has its marks, so that `the,` is no stop word.

Where a token gets is its passage, and that is all of an answer that marks can change: a
transcript of one word is answered by a search that is told the passage of the token and
compares the bare word.
-/
import SpokenIndex.Proofs.Lowering
import SpokenIndex.Proofs.Scoring
import SpokenIndex.Proofs.Indifference

namespace SpokenIndex.Matching

open SpokenIndex.Text

variable {settings : MatcherSettings} {index : Mappings} {claimed : List String}
  {lengths : List Nat} {t : Token} {threshold : Binary64} {candidates : List Candidate}
  {word other marks s : List Char}

/-! ### Scores -/

theorem isPlain_of_isMark {c : Char} (hc : isMark c = true) : isPlain c = false :=
  isMark_forall (P := fun c => isPlain c = false) (by decide) hc

/-- Marks are left out of every form that is compared. -/
theorem filter_append_marks {keep : Char → Bool} (hmarks : ∀ c ∈ marks, isMark c = true)
    (hkeep : ∀ c, isMark c = true → keep c = false) :
    (word ++ marks).filter keep = word.filter keep := by
  have hnone : marks.filter keep = [] := by
    rw [List.filter_eq_nil_iff]
    intro c hc
    simp [hkeep c (hmarks c hc)]
  rw [List.filter_append, hnone, List.append_nil]

theorem scoreOf_append_marks (hmarks : ∀ c ∈ marks, isMark c = true) (name : List Char) :
    scoreOf (word ++ marks) name = scoreOf word name := by
  have hplain : plainForm (word ++ marks) = plainForm word :=
    filter_append_marks hmarks fun c hc => isPlain_of_isMark hc
  have hhyphen : hyphenForm (word ++ marks) = hyphenForm word := by
    refine filter_append_marks hmarks fun c hc => ?_
    have hne : c ≠ '-' := by
      rintro rfl
      exact absurd hc (by decide)
    simp [isPlain_of_isMark hc, hne]
  rw [scoreOf, scoreOf, hplain, hhyphen]

/-! ### Passages -/

/-- How far a token gets before it is compared. -/
structure Passage where
  /-- It is no stop word and not too short. -/
  tried : Bool
  /-- It is long enough for functions. -/
  withFunctions : Bool
  deriving DecidableEq, Repr

/-- The passage of a token. -/
def passage (settings : MatcherSettings) (token : List Char) : Passage :=
  ⟨isTried settings token, considersFunctions settings token⟩

/-- The match of a word that gets as far as a passage says. -/
def matchThrough (settings : MatcherSettings) (index : Mappings) (passage : Passage)
    (word : List Char) : Option Match :=
  if passage.tried then
    (bestCandidate settings.acceptThreshold word
      (wordCandidates index passage.withFunctions)).map fun (c, score) => c.toMatch score
  else none

/-- With nothing claimed, a word is matched through its own passage. -/
theorem matchFresh_nil (settings : MatcherSettings) (index : Mappings) (word : List Char) :
    matchFresh settings index [] word
      = matchThrough settings index (passage settings word) word := by
  have hfree : (matchWord settings index word).filter (fun m => !([] : List String).contains m.path)
      = matchWord settings index word := by
    cases matchWord settings index word <;> rfl
  rw [matchFresh, hfree]
  rfl

/-- Words with the same scores have the same best candidate. -/
theorem bestCandidate_congr (h : ∀ name, scoreOf word name = scoreOf other name) :
    bestCandidate threshold word candidates = bestCandidate threshold other candidates := by
  have hstep : better threshold word = better threshold other := by
    funext best c
    rw [better, better, h]
  rw [bestCandidate, bestCandidate, hstep]

theorem matchThrough_congr (h : ∀ name, scoreOf word name = scoreOf other name)
    (passage : Passage) :
    matchThrough settings index passage word = matchThrough settings index passage other := by
  rw [matchThrough, matchThrough, bestCandidate_congr h]

/-! ### A transcript of one word -/

theorem words_of_visible (hne : s ≠ []) (h : ∀ c ∈ s, isBlank c = false) : words s = [s] := by
  have hwhole : splitWhen isBlank s = [s] := by
    rw [splitWhen_eq_splitOnP, List.splitOnP_eq_singleton]
    simpa using h
  rw [words, hwhole]
  simp [hne]

/-- One token is no phrase. -/
theorem scanPhrases_singleton (hlengths : ∀ n ∈ lengths, 2 ≤ n) :
    scanPhrases index lengths claimed [t] = [.plain t] := by
  have hnone : matchSpan index claimed lengths [t] = none := by
    refine List.findSome?_eq_none_iff.mpr fun n hn => if_neg ?_
    have htwo := hlengths n hn
    rw [List.length_singleton]
    omega
  rw [scanPhrases, hnone, scanPhrases]

theorem scanWords_singleton :
    scanWords settings index claimed [.plain t]
      = [(.plain t, matchFresh settings index claimed t.word)] := by
  cases hmatch : matchFresh settings index claimed t.word <;>
    simp [scanWords, Slot.openToken?, hmatch]

/-- A transcript of one word is answered by the match of that word. -/
theorem resolve_one_word {word : String} (hne : word ≠ "")
    (h : ∀ c ∈ word.toList, isBlank c = false) :
    (resolve settings index word).found
      = (matchFresh settings index [] (lower word.toList)).toList := by
  have hlist : word.toList ≠ [] := by simpa using hne
  have htokens : tokens word.toList = [⟨word.toList, lower word.toList⟩] := by
    rw [tokens, words_of_visible hlist h, List.map_singleton]
  have hslots : slots settings index word
      = [(.plain ⟨word.toList, lower word.toList⟩,
          matchFresh settings index [] (lower word.toList))] := by
    rw [slots, htokens, scanPhrases_singleton (by decide)]
    exact scanWords_singleton
  rw [resolve, hslots]
  cases matchFresh settings index [] (lower word.toList) <;> rfl

/-! ### A word and its marks -/

/-- **Marks matter where a token passes, and nowhere else.**  A word with marks behind it has the
small form of the word with the marks behind it, and for every name the score of the word.  Its
answer is what the bare word finds through the passage of the token with its marks.  So the marks
change nothing where both pass alike. -/
theorem marks_matter_in_passing (settings : MatcherSettings) (index : Mappings)
    (word marks : String) (hne : word ≠ "") (hword : ∀ c ∈ word.toList, isBlank c = false)
    (hmarks : ∀ c ∈ marks.toList, isMark c = true) :
    let bare := lower word.toList
    let marked := lower (word ++ marks).toList
    marked = bare ++ marks.toList ∧
    (∀ name, scoreOf marked name = scoreOf bare name) ∧
    (resolve settings index word).found
      = (matchThrough settings index (passage settings bare) bare).toList ∧
    (resolve settings index (word ++ marks)).found
      = (matchThrough settings index (passage settings marked) bare).toList ∧
    (passage settings marked = passage settings bare →
      (resolve settings index (word ++ marks)).found = (resolve settings index word).found) := by
  intro bare marked
  have hmarked : marked = bare ++ marks.toList := by
    rw [← lower_append_marks hmarks, ← String.toList_append]
  have hscore : ∀ name, scoreOf marked name = scoreOf bare name := by
    rw [hmarked]
    exact scoreOf_append_marks hmarks
  have hbare : (resolve settings index word).found
      = (matchThrough settings index (passage settings bare) bare).toList := by
    rw [resolve_one_word hne hword, matchFresh_nil]
  have hwith : (resolve settings index (word ++ marks)).found
      = (matchThrough settings index (passage settings marked) bare).toList := by
    rw [resolve_one_word, matchFresh_nil, matchThrough_congr hscore]
    · simp [hne]
    · intro c hc
      rw [String.toList_append, List.mem_append] at hc
      rcases hc with hc | hc
      · exact hword c hc
      · exact isBlank_of_isMark (hmarks c hc)
  refine ⟨hmarked, hscore, hbare, hwith, fun hsame => ?_⟩
  rw [hwith, hbare, hsame]

/-- A word that is long enough with a comma and without it. -/
theorem marks_matter_in_passing_cards :
    passage .standard (lower ("cards" ++ ",").toList) = passage .standard (lower "cards".toList) ∧
    (resolve .standard threeFiles.mappings ("cards" ++ ",")).found
      = (resolve .standard threeFiles.mappings "cards").found ∧
    (resolve .standard threeFiles.mappings "cards").paths = ["/r/Cards.css"] := by
  have hsame : passage .standard (lower ("cards" ++ ",").toList)
      = passage .standard (lower "cards".toList) := by decide
  have hword : ∀ c ∈ "cards".toList, isBlank c = false := by simp [isBlank]
  have hmarks : ∀ c ∈ ",".toList, isMark c = true := by simp [isMark]
  obtain ⟨-, -, -, -, hfound⟩ := marks_matter_in_passing .standard threeFiles.mappings "cards" ","
    (by decide) hword hmarks
  exact ⟨hsame, hfound hsame, by decide +kernel⟩

/-- An index with the name of a stop word, a short name, and a function. -/
def shortNames : Mappings :=
  { Mappings.empty with
    files := .ofList [("the.md", "/r/the.md"), ("the", "/r/the.md"), ("ab.md", "/r/ab.md"),
      ("ab", "/r/ab.md")]
    functions := .ofList [("load", "/r/io.ts")] }

/-- At each of the three gates a mark lets a word pass. -/
theorem marks_open_gates :
    (resolve .standard shortNames "the").found = [] ∧
    (resolve .standard shortNames "the,").found = [⟨"the.md", "/r/the.md", .file, .exact⟩] ∧
    (resolve .standard shortNames "ab").found = [] ∧
    (resolve .standard shortNames "ab.").found = [⟨"ab.md", "/r/ab.md", .file, .exact⟩] ∧
    (resolve .standard shortNames "load").found = [] ∧
    (resolve .standard shortNames "load!").found
      = [⟨"load (io.ts)", "/r/io.ts", .function, .exact⟩] := by
  decide +kernel

end SpokenIndex.Matching
