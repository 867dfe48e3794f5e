/-
Brace groups in glob patterns.

A group `{a,b}` stands for its alternatives.  Expansion works from the inside: the
leftmost group without a brace inside is replaced by each of its alternatives in
turn, and the results are expanded again.  Each replacement takes one opening brace
away, so there are at most as many rounds as opening braces; a brace without its
partner stays as it is.
-/
import SpokenIndex.Text.Basic

namespace SpokenIndex.Glob

open SpokenIndex.Text

/-- Whether a character is a brace. -/
def isBrace (c : Char) : Bool :=
  c == '{' || c == '}'

/-- What stands before, inside and after a group. -/
structure Group where
  before : List Char
  body : List Char
  after : List Char

/-- The group opened just before a text: its body up to the closing brace, if no other brace
comes first. -/
def closeGroup (s : List Char) : Option (List Char × List Char) :=
  match s.dropWhile (!isBrace ·) with
  | '}' :: after => some (s.takeWhile (!isBrace ·), after)
  | _ => none

/-- The leftmost group without braces inside. -/
def firstGroup : List Char → Option Group
  | [] => none
  | c :: rest =>
    match (if c = '{' then closeGroup rest else none) with
    | some (body, after) => some ⟨[], body, after⟩
    | none => (firstGroup rest).map fun g => { g with before := c :: g.before }

/-- The pattern with a group replaced by each of its alternatives. -/
def Group.choices (g : Group) : List (List Char) :=
  (splitAt ',' g.body).map fun option => g.before ++ option ++ g.after

/-- Expands at most `rounds` groups in each result. -/
def expandRounds : (rounds : Nat) → List Char → List (List Char)
  | 0, s => [s]
  | rounds + 1, s =>
    match firstGroup s with
    | none => [s]
    | some g => g.choices.flatMap (expandRounds rounds)

/-- The patterns that a pattern with brace groups stands for, alternatives in order. -/
def expand (s : List Char) : List (List Char) :=
  expandRounds (s.count '{') s

/-- `expand` on strings. -/
def expandBraces (pattern : String) : List String :=
  (expand pattern.toList).map String.ofList

end SpokenIndex.Glob
