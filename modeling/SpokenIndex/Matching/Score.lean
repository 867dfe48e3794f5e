/-
How well a name answers a spoken token.

Both texts are lowercase.  They are compared on their letters and digits alone: equal
forms score highest, then a name that contains the token, then a token that contains
the name, if the name is longer than three characters.  A name that contains the
token scores higher where the token covers whole segments of the name between
hyphens; for that comparison hyphens are kept.

There are five scores, and they are ordered: `Score.value` gives the number that
stands for each.
-/
import SpokenIndex.Number.Binary64
import SpokenIndex.Text.Basic

namespace SpokenIndex

open SpokenIndex.Text

/-- The five scores, worst first. -/
inductive Score where
  | noMatch
  | contained
  | contains
  | onBoundary
  | exact
  deriving DecidableEq, Repr

namespace Score

/-- The place of a score in their order. -/
def rank : Score → Nat
  | noMatch => 0
  | contained => 1
  | contains => 2
  | onBoundary => 3
  | exact => 4

/-- The tenths that a score stands for. -/
def tenths : Score → Nat
  | noMatch => 0
  | contained => 7
  | contains => 8
  | onBoundary => 9
  | exact => 10

/-- The number of 64 bits nearest to a number of tenths. -/
def ofTenths (n : Nat) : Binary64 :=
  match Binary64.ofDecimal false n (-1) with
  | .finite value => value
  | _ => .zero

/-- The number that stands for a score. -/
def value (score : Score) : Binary64 :=
  ofTenths score.tenths

end Score

namespace Matching

/-- Whether a character counts in a comparison: a small letter or a digit of ASCII. -/
def isPlain (c : Char) : Bool :=
  ('a' ≤ c && c ≤ 'z') || ('0' ≤ c && c ≤ '9')

/-- The letters and digits of a text. -/
def plainForm (s : List Char) : List Char :=
  s.filter isPlain

/-- The letters, digits and hyphens of a text. -/
def hyphenForm (s : List Char) : List Char :=
  s.filter fun c => isPlain c || c == '-'

/-- Whether `query` stands in `name` between hyphens or the ends. -/
def standsBetweenHyphens (query name : List Char) : Bool :=
  name == query || (query ++ ['-']).isPrefixOf name || ('-' :: query).isSuffixOf name
    || hasInfix ('-' :: query ++ ['-']) name

/-- The score of a name for a token, both lowercase. -/
def scoreOf (query name : List Char) : Score :=
  let q := plainForm query
  let c := plainForm name
  if q == c then .exact
  else if q.isEmpty then .noMatch
  else if hasInfix q c then
    let hq := stripWhen (· == '-') (hyphenForm query)
    if !hq.isEmpty && standsBetweenHyphens hq (hyphenForm name) then .onBoundary else .contains
  else if hasInfix c q && 3 < c.length then .contained
  else .noMatch

/-- `scoreOf` on strings. -/
def score (query name : String) : Score :=
  scoreOf query.toList name.toList

end Matching

end SpokenIndex
