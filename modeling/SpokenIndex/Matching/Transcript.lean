/-
A transcript resolved.

Phrases are found first, then words.  The annotated transcript has one piece for each
token that is not the tail of a phrase: the marker of its word's match, else the
marker of the phrase it heads, else the token as it was spoken.  The matches are
those of the phrases and then those of the words, sorted by score, best first.
-/
import SpokenIndex.Collection.Sorted
import SpokenIndex.Matching.Word

namespace SpokenIndex.Matching

open SpokenIndex.Text

/-- An annotated transcript and the artifacts it refers to, best score first. -/
structure Resolution where
  annotated : String
  found : List Match
  deriving DecidableEq, Repr

/-- The paths of the matches. -/
def Resolution.paths (r : Resolution) : List String :=
  r.found.map (·.path)

/-- What a slot shows, given the match of its word. -/
def piece? (slot : Slot) (word : Option Match) : Option String :=
  match slot, word with
  | .tail _, _ => none
  | _, some m => some m.marker
  | .head _ m, none => some m.marker
  | .plain t, none => some (String.ofList t.spoken)

/-- Each slot of a transcript with the match of its word. -/
def slots (settings : MatcherSettings) (index : Mappings) (transcript : String) :
    List (Slot × Option Match) :=
  let phrases := scanPhrases index phraseSpans [] (tokens transcript.toList)
  scanWords settings index ((phraseMatches phrases).map (·.path)) phrases

/-- The matches in the order of discovery: phrases, then words. -/
def discovered (slots : List (Slot × Option Match)) : List Match :=
  phraseMatches (slots.map Prod.fst) ++ slots.filterMap Prod.snd

/-- Resolves the references of a transcript against an index. -/
def resolve (settings : MatcherSettings) (index : Mappings) (transcript : String) : Resolution :=
  let slots := slots settings index transcript
  { annotated := " ".intercalate (slots.filterMap fun (slot, word) => piece? slot word)
    found := sortStable (fun a b => b.score.rank ≤ a.score.rank) (discovered slots) }

end SpokenIndex.Matching
