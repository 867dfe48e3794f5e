/-
Readers.

A reader takes characters from the front of a text and gives a value and what is left,
or nothing.  A reader that gives nothing has read nothing, so an alternative starts
where it did.
-/
namespace SpokenIndex.Text

/-- A way to read something off the front of a text. -/
abbrev Reader := StateT (List Char) Option

namespace Reader

/-- What a reader gives, or nothing, in which case nothing is read. -/
def attempt {α : Type} (p : Reader α) : Reader (Option α) := fun s =>
  match p s with
  | some (a, rest) => some (some a, rest)
  | none => some (none, s)

/-- Whether a reader would give something; nothing is read. -/
def ahead {α : Type} (p : Reader α) : Reader Bool := fun s => some ((p s).isSome, s)

/-- Fails unless a condition holds. -/
def require (condition : Bool) : Reader Unit :=
  if condition then pure () else failure

/-- All that a reader gives until it fails; `found` are those before, latest first. -/
def manyFrom {α : Type} (p : Reader α) : (limit : Nat) → (found : List α) → Reader (List α)
  | 0, found, s => some (found.reverse, s)
  | limit + 1, found, s =>
    match p s with
    | some (a, rest) => manyFrom p limit (a :: found) rest
    | none => some (found.reverse, s)

/-- Any character. -/
def next : Reader Char
  | c :: rest => some (c, rest)
  | [] => none

/-- The next character, which is not read. -/
def peek? : Reader (Option Char) := fun s => some (s.head?, s)

/-- Reads a given text if it comes next. -/
def textIf (wanted : List Char) : Reader Bool := fun s =>
  if wanted.isPrefixOf s then some (true, s.drop wanted.length) else some (false, s)

/-- Reads a given character if it comes next. -/
def charIf (c : Char) : Reader Bool := textIf [c]

/-- Reads a given character. -/
def char (c : Char) : Reader Unit := do
  require (← charIf c)

/-- The characters of a kind up to the first other one. -/
def takeWhile (p : Char → Bool) : Reader (List Char) := fun s =>
  some (s.takeWhile p, s.dropWhile p)

/-- Passes over the characters of a kind up to the first other one. -/
def skipWhile (p : Char → Bool) : Reader Unit := fun s => some ((), s.dropWhile p)

/-- Whether the text has ended. -/
def atEnd : Reader Bool := fun s => some (s.isEmpty, s)

end Reader

end SpokenIndex.Text
