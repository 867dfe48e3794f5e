/-
Phrases of a transcript.

A phrase is two or three tokens in a row, lowercase and joined by single spaces.  It
is compared with the names of components and files in lowercase, every character that
is neither a letter, a digit nor a blank turned into a space.  The first name that
equals the phrase is its match, and if none does, the first that contains it.  Paths
that an earlier phrase has claimed are out of the game.

The scan goes left to right without looking back.  Where a phrase matches, its first
token becomes the head, the others are tails, and the scan goes on behind them.
-/
import SpokenIndex.Matching.Candidate
import SpokenIndex.Text.Blank
import SpokenIndex.Text.Lowercase

namespace SpokenIndex.Matching

open SpokenIndex.Text

/-- A token of a transcript: as it was spoken and in lowercase. -/
structure Token where
  spoken : List Char
  word : List Char
  deriving DecidableEq, Repr

/-- The tokens of a transcript. -/
def tokens (transcript : List Char) : List Token :=
  (words transcript).map fun w => ⟨w, lower w⟩

/-- A name as phrases are compared with it. -/
def phraseForm (name : List Char) : List Char :=
  (lower name).map fun c => if isPlain c || isBlank c then c else ' '

/-- The phrase that tokens make. -/
def phraseOf (ts : List Token) : List Char :=
  joinWith [' '] (ts.map (·.word))

/-- The first unclaimed candidate whose form equals the phrase, else the first whose form
contains it. -/
def matchPhrase (index : Mappings) (claimed : List String) (phrase : List Char) : Option Match :=
  let unclaimed := (phraseCandidates index).filter fun c => !claimed.contains c.path
  match unclaimed.find? fun c => phraseForm c.name.toList == phrase with
  | some c => some (c.toMatch .exact)
  | none =>
    (unclaimed.find? fun c => hasInfix phrase (phraseForm c.name.toList)).map
      (·.toMatch .onBoundary)

/-- The first of the given lengths, in order, at which the tokens begin with a phrase that
matches. -/
def matchSpan (index : Mappings) (claimed : List String) (spans : List Nat) (ts : List Token) :
    Option (Nat × Match) :=
  spans.findSome? fun n =>
    if n ≤ ts.length then (matchPhrase index claimed (phraseOf (ts.take n))).map fun m => (n, m)
    else none

/-- The part that a token plays after the scan for phrases. -/
inductive Slot where
  /-- A token outside every phrase. -/
  | plain (token : Token)
  /-- The first token of a phrase. -/
  | head (token : Token) (found : Match)
  /-- A later token of a phrase. -/
  | tail (token : Token)
  deriving DecidableEq, Repr

/-- The lengths of phrases, in the order in which they are tried. -/
def phraseSpans : List Nat := [2, 3]

/-- Scans tokens for phrases of the given lengths. -/
def scanPhrases (index : Mappings) (spans : List Nat) (claimed : List String)
    (ts : List Token) : List Slot :=
  match ts with
  | [] => []
  | t :: rest =>
    match matchSpan index claimed spans (t :: rest) with
    | some (n, m) =>
      Slot.head t m :: (rest.take (n - 1)).map Slot.tail
        ++ scanPhrases index spans (m.path :: claimed) (rest.drop (n - 1))
    | none => Slot.plain t :: scanPhrases index spans claimed rest
termination_by ts.length

/-- The match of a slot, if it heads a phrase. -/
def Slot.phraseMatch? : Slot → Option Match
  | .head _ m => some m
  | _ => none

/-- The matches of the phrases, left to right. -/
def phraseMatches (slots : List Slot) : List Match :=
  slots.filterMap Slot.phraseMatch?

end SpokenIndex.Matching
