/-
The signs of a pattern and the state in which they are read.

A sign is a character, or a backslash together with the character that it escapes.
One sign is always looked at in advance, so a backslash at the very end of a pattern is
met before anything else is said of the sign in front of it.
-/
import SpokenIndex.Pattern.Expression
import SpokenIndex.Pattern.Problem

namespace SpokenIndex.Pattern

/-! ### Signs -/

/-- A sign of a pattern: a character, or an escaped one. -/
inductive Sign where
  | plain (c : Char)
  | escaped (c : Char)
  deriving DecidableEq, Repr

/-- How a sign is written. -/
def Sign.chars : Sign → List Char
  | plain c => [c]
  | escaped c => ['\\', c]

/-- How many characters a sign has. -/
def Sign.length (t : Sign) : Nat := t.chars.length

/-- How a sign is written, as text. -/
def Sign.text (t : Sign) : String := String.ofList t.chars

/-- Whether a sign is one unescaped character of a kind. -/
def Sign.isPlain (p : Char → Bool) : Sign → Bool
  | plain c => p c
  | escaped _ => false

/-- What is read while a pattern is being read. -/
structure Reading where
  position : Nat
  rest : List Char
  /-- The modes of the whole pattern. -/
  modes : Modes
  /-- Whether the letters of all scripts were asked for. -/
  asksAllScripts : Bool
  /-- The widths of the groups, first group first; none while a group is open. -/
  groups : List (Option Width)
  names : List (String × Nat)
  /-- How many groups there were where the outermost look behind began. -/
  groupsBehind : Option Nat
  /-- Numbers of groups that conditions ask for, and where; latest first. -/
  asked : List (Nat × Nat)

/-- A step of reading a pattern. -/
abbrev Step := StateT Reading (Except Problem)

/-- The next sign, which is not read. -/
def upcoming : Step (Option Sign) := do
  match (← get).rest with
  | '\\' :: c :: _ => pure (some (.escaped c))
  | c :: _ => pure (some (.plain c))
  | [] => pure none

/-- Fails with a cause at a place so many characters back. -/
def failBack {α : Type} (cause : Cause) (back : Nat) : Step α := do
  throw ⟨cause, some ((← get).position - back)⟩

/-- Fails with a cause at a given place. -/
def failAt {α : Type} (cause : Cause) (position : Nat) : Step α :=
  throw ⟨cause, some position⟩

/-- Fails if the pattern ends in a lone backslash here. -/
def refuseLoneBackslash : Step Unit := do
  if (← get).rest == ['\\'] then failBack .escapeAtEnd 0

/-- Reads the next sign. -/
def take : Step (Option Sign) := do
  let t ← upcoming
  let n := (t.map Sign.length).getD 0
  modify fun r => { r with position := r.position + n, rest := r.rest.drop n }
  refuseLoneBackslash
  pure t

/-- Reads an unescaped character if it comes next. -/
def takeIf (c : Char) : Step Bool := do
  if (← upcoming) == some (.plain c) then
    let _ ← take
    pure true
  else pure false

/-- Reads unescaped characters of a kind, at most so many. -/
def takeWhile (p : Char → Bool) : (limit : Nat) → Step (List Char)
  | 0 => pure []
  | limit + 1 => do
    match ← upcoming with
    | some (.plain c) =>
      if p c then
        let _ ← take
        return c :: (← takeWhile p limit)
      else pure []
    | _ => pure []

/-- How many characters are left. -/
def remaining : Step Nat := do
  return (← get).rest.length

/-- Reads a name up to a terminator, which is read too; `found` is what was read of it. -/
def nameUpTo (terminator : Char) (what : String) :
    (limit : Nat) → (found : List Char) → Step (List Char)
  | 0, found => pure found
  | limit + 1, found => do
    match ← take with
    | none =>
      if found.isEmpty then failBack (.missing what) 0
      else failBack (.unterminatedName terminator) found.length
    | some t =>
      if t == .plain terminator then
        if found.isEmpty then failBack (.missing what) 1 else pure found
      else nameUpTo terminator what limit (found ++ t.chars)

/-- Reads a name up to a terminator. -/
def name (terminator : Char) (what : String) : Step (List Char) := do
  nameUpTo terminator what ((← remaining) + 1) []

end SpokenIndex.Pattern
