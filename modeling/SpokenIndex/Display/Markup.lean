/-
Marked text.

A tag in square brackets marks what follows it until the style is closed, by its name
or whichever was opened last.  The marks themselves do not show.  Brackets are a tag
only if a small letter, a number sign, a slash or an at sign follows the first; a
backslash in front makes them text, and two backslashes are one.  Names of emoji are
replaced, and a few control characters dropped.
-/
import SpokenIndex.Display.Emoji
import SpokenIndex.Display.Style

namespace SpokenIndex.Display

/-- Why a text is not well marked. -/
inductive MarkupFault where
  /-- A tag that closes a style which is not open. -/
  | notOpen (tag : String) (position : Nat)
  /-- A tag that closes the latest style where none is open. -/
  | nothingOpen (position : Nat)
  deriving DecidableEq, Repr

/-- The fault as a message. -/
def MarkupFault.message : MarkupFault → String
  | notOpen tag position =>
    "closing tag '[" ++ tag ++ "]' at position " ++ toString position
      ++ " doesn't match any open tag"
  | nothingOpen position =>
    "closing tag '[/]' at position " ++ toString position ++ " has nothing to close"

/-! ### Pieces -/

/-- A piece of marked text: text, or what stands in the brackets of a tag. -/
inductive Piece where
  | text (s : List Char)
  | tag (inside : List Char) (position : Nat)
  deriving DecidableEq, Repr

/-- Whether a character can be the first of a tag. -/
def beginsTag (c : Char) : Bool :=
  ('a' ≤ c && c ≤ 'z') || c == '#' || c == '/' || c == '@'

/-- The characters up to a closing bracket and those behind it, if no opening one comes
before. -/
def upToBracket : List Char → Option (List Char × List Char)
  | [] => none
  | c :: rest =>
    if c == ']' then some ([], rest)
    else if c == '[' then none
    else (upToBracket rest).map fun (inside, after) => (c :: inside, after)

/-- The inside of a tag at the front of a text, and what is behind it. -/
def tagAt? : List Char → Option (List Char × List Char)
  | '[' :: c :: rest =>
    if beginsTag c then
      (upToBracket rest).map fun (inside, after) => (c :: inside, after)
    else none
  | _ => none

/-- The pieces of a text from a position on; `plain` is the text before, latest first, that is
not yet a piece. -/
def piecesFrom : (limit : Nat) → (position : Nat) → (plain : List Char) → List Char → List Piece
  | 0, _, plain, s => [.text (plain.reverse ++ s)]
  | _ + 1, _, plain, [] => [.text plain.reverse]
  | limit + 1, position, plain, c :: rest =>
    let slashes := (c :: rest).takeWhile (· == '\\')
    let n := slashes.length
    match tagAt? ((c :: rest).drop n) with
    | some (inside, after) =>
      let behind := position + n + inside.length + 2
      let shown := .text plain.reverse :: .text (List.replicate (n / 2) '\\') ::
        (if n % 2 = 1 then Piece.text ('[' :: inside ++ [']'])
        else .tag inside (position + n)) :: []
      shown ++ piecesFrom limit behind [] after
    | none =>
      if n = 0 then piecesFrom limit (position + 1) (c :: plain) rest
      else piecesFrom limit (position + n) (slashes ++ plain) ((c :: rest).drop n)

/-- The pieces of a marked text. -/
def pieces (s : List Char) : List Piece :=
  piecesFrom (s.length + 1) 0 [] s

/-! ### What shows -/

/-- Whether a character is dropped from all text. -/
def isDropped (c : Char) : Bool :=
  [7, 8, 11, 12, 13].contains c.toNat

/-- A text with each opening bracket freed of the backslash before it. -/
def freeBrackets : List Char → List Char
  | '\\' :: '[' :: rest => '[' :: freeBrackets rest
  | c :: rest => c :: freeBrackets rest
  | [] => []

/-- What shows of a text outside of tags. -/
def shownText (s : List Char) : List Char :=
  (replaceEmoji (freeBrackets s)).filter fun c => !isDropped c

/-- The styles that are open after a tag, latest first; what is behind an equals sign is no part
of a style's name. -/
def afterTag (openStyles : List String) (inside : List Char) (position : Nat) :
    Except MarkupFault (List String) :=
  let name := inside.takeWhile (· != '=')
  match name with
  | '/' :: closed =>
    let closed := Text.trim closed
    if closed.isEmpty then
      match openStyles with
      | [] => .error (.nothingOpen position)
      | _ :: rest => .ok rest
    else if openStyles.contains (canonicalStyle closed) then
      .ok (openStyles.erase (canonicalStyle closed))
    else .error (.notOpen (String.ofList inside) position)
  | _ => .ok (canonicalStyle name :: openStyles)

/-- What shows of pieces where some styles are open. -/
def shownPieces (openStyles : List String) : List Piece → Except MarkupFault (List Char)
  | [] => .ok []
  | .text s :: rest => (shownPieces openStyles rest).map (shownText s ++ ·)
  | .tag inside position :: rest =>
    match afterTag openStyles inside position with
    | .ok openStyles => shownPieces openStyles rest
    | .error fault => .error fault

/-- What shows of a marked text. -/
def shown (markup : String) : Except MarkupFault (List Char) :=
  let s := markup.toList
  if s.contains '[' then shownPieces [] (pieces s)
  else .ok ((replaceEmoji s).filter fun c => !isDropped c)

end SpokenIndex.Display
