/-
What can be wrong with a pattern.

A problem has a cause and, as a rule, the place in the pattern where it was met.
-/
import SpokenIndex.Text.Quoted

namespace SpokenIndex.Pattern

/-- Why a text is no pattern. -/
inductive Cause where
  | escapeAtEnd
  | incompleteEscape (escape : String)
  | badEscape (escape : String)
  | octalTooLarge (escape : String)
  | unknownCharName (name : String)
  | missing (what : String)
  | unterminatedName (terminator : Char)
  | unterminatedSet
  | unterminatedGroup
  | unterminatedComment
  | badRange (low high : String)
  | nothingToRepeat
  | multipleRepeat
  | leastAboveMost
  | tooManyTimes
  | badGroupName (name : String)
  | groupNamedTwice (name : String) (group old : Nat)
  | unknownGroupName (name : String)
  | noSuchGroup (group : Nat)
  | groupZero
  | openGroup
  | groupOfSameLookBehind
  | thirdBranch
  | endsEarly
  | unknownExtension (text : String)
  | unknownFlag
  | bytesFlag
  | mixedAlphabets
  | alphabetOff
  | globalOn
  | globalOff
  | onAndOff
  | lateFlags
  | unbalanced
  | twoAlphabets
  | widthVaries
  | tooFarBehind
  deriving DecidableEq, Repr

/-- The cause in words. -/
def Cause.words : Cause → String
  | escapeAtEnd => "bad escape (end of pattern)"
  | incompleteEscape escape => "incomplete escape " ++ escape
  | badEscape escape => "bad escape " ++ escape
  | octalTooLarge escape => "octal escape value " ++ escape ++ " outside of range 0-0o377"
  | unknownCharName name => "undefined character name " ++ Text.quoted name
  | missing what => "missing " ++ what
  | unterminatedName terminator =>
    "missing " ++ String.ofList [terminator] ++ ", unterminated name"
  | unterminatedSet => "unterminated character set"
  | unterminatedGroup => "missing ), unterminated subpattern"
  | unterminatedComment => "missing ), unterminated comment"
  | badRange low high => "bad character range " ++ low ++ "-" ++ high
  | nothingToRepeat => "nothing to repeat"
  | multipleRepeat => "multiple repeat"
  | leastAboveMost => "min repeat greater than max repeat"
  | tooManyTimes => "the repetition number is too large"
  | badGroupName name => "bad character in group name " ++ Text.quoted name
  | groupNamedTwice name group old =>
    "redefinition of group name " ++ Text.quoted name ++ " as group " ++ toString group
      ++ "; was group " ++ toString old
  | unknownGroupName name => "unknown group name " ++ Text.quoted name
  | noSuchGroup group => "invalid group reference " ++ toString group
  | groupZero => "bad group number"
  | openGroup => "cannot refer to an open group"
  | groupOfSameLookBehind =>
    "cannot refer to group defined in the same lookbehind subpattern"
  | thirdBranch => "conditional backref with more than two branches"
  | endsEarly => "unexpected end of pattern"
  | unknownExtension text => "unknown extension " ++ text
  | unknownFlag => "unknown flag"
  | bytesFlag => "bad inline flags: cannot use 'L' flag with a str pattern"
  | mixedAlphabets => "bad inline flags: flags 'a', 'u' and 'L' are incompatible"
  | alphabetOff => "bad inline flags: cannot turn off flags 'a', 'u' and 'L'"
  | globalOn => "bad inline flags: cannot turn on global flag"
  | globalOff => "bad inline flags: cannot turn off global flag"
  | onAndOff => "bad inline flags: flag turned on and off"
  | lateFlags => "global flags not at the start of the expression"
  | unbalanced => "unbalanced parenthesis"
  | twoAlphabets => "ASCII and UNICODE flags are incompatible"
  | widthVaries => "look-behind requires fixed-width pattern"
  | tooFarBehind => "looks too much behind"

/-- A cause and the place where it was met, if that is told. -/
structure Problem where
  cause : Cause
  position : Option Nat
  deriving DecidableEq, Repr

/-- A position in a pattern in words, with its line and column if the pattern has lines. -/
def positionText (pattern : List Char) (position : Nat) : String :=
  let before := pattern.take position
  let column := (before.reverse.takeWhile (· ≠ '\n')).length + 1
  " at position " ++ toString position ++
    (if pattern.contains '\n' then
      " (line " ++ toString (before.count '\n' + 1) ++ ", column " ++ toString column ++ ")"
    else "")

/-- A problem of a pattern as a message. -/
def Problem.message (pattern : String) (p : Problem) : String :=
  p.cause.words ++ (p.position.map (positionText pattern.toList)).getD ""

end SpokenIndex.Pattern
