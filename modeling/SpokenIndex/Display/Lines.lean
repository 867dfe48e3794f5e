/-
Breaking text into lines.

A line is broken before a word that does not fit behind the others; the blanks behind a
word belong to it but need no room.  A word that fits on no line is cut into pieces, or
else is cropped.  Tabulators go to the next multiple of eight cells.
-/
import SpokenIndex.Display.Cells
import SpokenIndex.Text.Basic
import SpokenIndex.Text.Blank

namespace SpokenIndex.Display

/-- What becomes of a word that fits on no line. -/
inductive Overflow where
  /-- It goes on in the next line. -/
  | fold
  /-- Its end is left out, which is shown. -/
  | ellipsis
  deriving DecidableEq, Repr

/-- Where a line stands in its room. -/
inductive Alignment where
  /-- At the left; the room behind it is not filled. -/
  | natural
  | left
  | center
  | right
  deriving DecidableEq, Repr

/-! ### Words and pieces -/

/-- The words of a text, each with the blanks behind it and the first with those before it;
no words if all is blank. -/
def wordsWithBlanks : (limit : Nat) → List Char → List (List Char)
  | 0, _ => []
  | limit + 1, s =>
    let before := s.takeWhile Text.isBlank
    let word := (s.drop before.length).takeWhile fun c => !Text.isBlank c
    let rest := s.drop (before.length + word.length)
    let behind := rest.takeWhile Text.isBlank
    if word.isEmpty then []
    else (before ++ word ++ behind) :: wordsWithBlanks limit (rest.drop behind.length)

/-- The pieces of a word that each fit in a room; `done` is the piece that is being filled,
latest first, and `used` its cells. -/
def cutWord (room : Nat) : (done : List Char) → (used : Nat) → List Char → List (List Char)
  | done, _, [] => [done.reverse]
  | done, used, c :: rest =>
    if room < used + cellsOf c then done.reverse :: cutWord room [c] (cellsOf c) rest
    else cutWord room (c :: done) (used + cellsOf c) rest

/-! ### Filling lines -/

/-- Lines that are being filled. -/
structure Filling where
  /-- The full lines, latest first. -/
  full : List (List Char)
  line : List Char
  /-- The cells that count as used in the line. -/
  used : Nat

/-- No lines yet. -/
def Filling.empty : Filling := ⟨[], [], 0⟩

namespace Filling

/-- Whether something stands in the lines. -/
def isBegun (f : Filling) : Bool := !f.line.isEmpty || !f.full.isEmpty

/-- Begins a new line with some text. -/
def startLine (f : Filling) (s : List Char) : Filling :=
  if f.isBegun then ⟨f.line :: f.full, s, cells s⟩ else ⟨[], s, cells s⟩

/-- Puts a word where it fits. -/
def add (overflow : Overflow) (room : Nat) (f : Filling) (word : List Char) : Filling :=
  let needed := cells (Text.dropEndWhile Text.isBlank word)
  if f.used + needed ≤ room then { f with line := f.line ++ word, used := f.used + cells word }
  else if room < needed then
    match overflow with
    | .fold => (cutWord room [] 0 word).foldl startLine f
    | .ellipsis => f.startLine word
  else if 0 < f.used && f.isBegun then f.startLine word
  else { f with line := f.line ++ word }

/-- All lines. -/
def lines (f : Filling) : List (List Char) := (f.line :: f.full).reverse

end Filling

/-- The lines of a text without line ends that fit in a room. -/
def brokenLines (overflow : Overflow) (room : Nat) (s : List Char) : List (List Char) :=
  match wordsWithBlanks (s.length + 1) s with
  | [] => [s]
  | words => (words.foldl (Filling.add overflow room) .empty).lines

/-! ### Tabulators -/

/-- How far tabulators are apart. -/
def tabStop : Nat := 8

/-- A text with tabulators as blanks; `used` is how many cells are before it. -/
def expandTabs : (used : Nat) → List Char → List Char
  | _, [] => []
  | used, c :: rest =>
    if c == '\t' then
      let n := tabStop - used % tabStop
      blanks n ++ expandTabs (used + n) rest
    else c :: expandTabs (used + cellsOf c) rest

/-! ### Lines in their room -/

/-- A line without the blanks at its end by which it has too many characters. -/
def dropExcessBlanks (room : Nat) (line : List Char) : List Char :=
  let trailing := line.length - (Text.dropEndWhile Text.isBlank line).length
  line.take (line.length - min trailing (line.length - room))

/-- A line cropped to a room. -/
def crop (overflow : Overflow) (room : Nat) (line : List Char) : List Char :=
  if cells line ≤ room then line
  else
    match overflow with
    | .fold => setCells room line
    | .ellipsis => setCells (room - 1) line ++ [ellipsis]

/-- A line at its place in a room. -/
def align (alignment : Alignment) (overflow : Overflow) (room : Nat) (line : List Char) :
    List Char :=
  match alignment with
  | .natural => crop overflow room line
  | .left =>
    let line := crop overflow room line
    line ++ blanks (room - cells line)
  | .center =>
    let line := crop overflow room (Text.dropEndWhile Text.isBlank line)
    let before := (room - cells line) / 2
    blanks before ++ line ++ blanks (room - cells line - before)
  | .right =>
    let line := crop overflow room (Text.dropEndWhile Text.isBlank line)
    blanks (room - cells line) ++ line

/-- The lines of a text in a room. -/
def linesOf (alignment : Alignment) (overflow : Overflow) (room : Nat) (s : List Char) :
    List (List Char) :=
  (Text.splitAt '\n' s).flatMap fun line =>
    (brokenLines overflow room (expandTabs 0 line)).map fun piece =>
      align alignment overflow room (dropExcessBlanks room piece)

/-- The lines of a text that are not broken. -/
def wholeLines (room : Nat) (s : List Char) : List (List Char) :=
  (Text.splitAt '\n' s).map fun line => dropExcessBlanks room (expandTabs 0 line)

/-! ### How wide a text is -/

/-- Whether a character ends a line where a text is measured. -/
def endsLine (c : Char) : Bool :=
  [10, 28, 29, 30, 0x85, 0x2028, 0x2029].contains c.toNat

/-- The cells of the widest line of a text. -/
def widest (s : List Char) : Nat :=
  ((Text.splitWhen endsLine s).map cells).foldl max 0

end SpokenIndex.Display
