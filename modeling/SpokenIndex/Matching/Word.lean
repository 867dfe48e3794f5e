/-
Words of a transcript.

A word that is long enough and no stop word is scored against every candidate, and
the best one is its match if it scores strictly above the threshold.  Of equal scores
the first counts, except that a component or function takes the place of a file with
the same path: it says more about the same place.
-/
import SpokenIndex.Matching.Phrase
import SpokenIndex.Settings.Basic

namespace SpokenIndex.Matching

open SpokenIndex.Text

/-- The best candidate so far. -/
abbrev Best := Option (Candidate × Score)

/-- Whether a score beats the best one so far, or the threshold if there is none. -/
def beats (threshold : Binary64) (best : Best) (score : Score) : Bool :=
  match best with
  | none => threshold < score.value
  | some (_, top) => top.value < score.value

/-- Whether a candidate takes the place of a file with an equal score. -/
def supersedes (best : Best) (c : Candidate) (score : Score) : Bool :=
  match best with
  | none => false
  | some (top, topScore) =>
    score == topScore && top.kind == .file && c.kind != .file && c.path == top.path

/-- The best candidate after one more. -/
def better (threshold : Binary64) (word : List Char) (best : Best) (c : Candidate) : Best :=
  let score := scoreOf word (lower c.name.toList)
  if beats threshold best score || supersedes best c score then some (c, score) else best

/-- The best candidate above the threshold. -/
def bestCandidate (threshold : Binary64) (word : List Char) (candidates : List Candidate) : Best :=
  candidates.foldl (better threshold word) none

/-- Whether functions are considered for a word. -/
def considersFunctions (settings : MatcherSettings) (word : List Char) : Bool :=
  settings.functionMinLength < word.length

/-- The match of a word on its own. -/
def matchWord (settings : MatcherSettings) (index : Mappings) (word : List Char) : Option Match :=
  (bestCandidate settings.acceptThreshold word
    (wordCandidates index (considersFunctions settings word))).map fun (c, score) =>
      c.toMatch score

/-- Whether a word is tried on its own. -/
def isTried (settings : MatcherSettings) (word : List Char) : Bool :=
  !settings.stopWords.contains (String.ofList word)
    && settings.minTokenLength ≤ word.length

/-- The match of a word whose path is not claimed yet. -/
def matchFresh (settings : MatcherSettings) (index : Mappings) (claimed : List String)
    (word : List Char) : Option Match :=
  if isTried settings word then
    (matchWord settings index word).filter fun m => !claimed.contains m.path
  else none

/-- The token of a slot that may still be matched on its own. -/
def Slot.openToken? : Slot → Option Token
  | .plain t => some t
  | .head t _ => some t
  | .tail _ => none

/-- Each slot with the match of its word, left to right; a path is claimed once. -/
def scanWords (settings : MatcherSettings) (index : Mappings) (claimed : List String) :
    List Slot → List (Slot × Option Match)
  | [] => []
  | slot :: rest =>
    match slot.openToken?.bind fun t => matchFresh settings index claimed t.word with
    | some m => (slot, some m) :: scanWords settings index (m.path :: claimed) rest
    | none => (slot, none) :: scanWords settings index claimed rest

end SpokenIndex.Matching
