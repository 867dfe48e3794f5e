/-
Panels and tables.

A panel is a text in a frame as wide as the screen, with its title in the middle of the
upper edge.  A table has columns as wide as their widest cells; if they are too wide
together, the widest ones are narrowed to the next narrower until all fits.  Every cell
and every line of a panel has a blank on each side.
-/
import SpokenIndex.Display.Lines
import SpokenIndex.Display.Markup

namespace SpokenIndex.Display

/-- A character again and again. -/
def rule (n : Nat) : List Char := List.replicate n '─'

/-! ### Panels -/

/-- A text between the sides of a frame, which has the given room inside. -/
def framed (room : Nat) (line : List Char) : List Char :=
  '│' :: ' ' :: setCells (room - 2) line ++ [' ', '│']

/-- The lines of a panel on a screen of a width. -/
def panel (width : Nat) (title : String) (markup : String) :
    Except MarkupFault (List (List Char)) :=
  (shown markup).map fun s =>
    let room := width - 2
    let head := ' ' :: title.toList ++ [' ']
    let free := room - 2 - cells head
    let top := '╭' :: '─' :: rule (free / 2) ++ head ++ rule (free - free / 2) ++ ['─', '╮']
    let body := (linesOf .natural .fold (room - 2) s).map (framed room)
    top :: body ++ ['╰' :: rule room ++ ['╯']]

/-! ### The widths of columns -/

/-- A column of a table: its head, how its cells stand, and the room of its cells if that is
fixed. -/
structure Column where
  head : String
  alignment : Alignment
  fixed : Option Nat

/-- The widths of columns as they would be and whether they may be narrowed. -/
abbrev Widths := List (Nat × Bool)

/-- How much columns take together. -/
def Widths.sum (ws : Widths) : Nat := total (ws.map (·.1))

/-- The greatest width that may be narrowed, below a bound if there is one. -/
def Widths.greatest (ws : Widths) (bound : Option Nat) : Nat :=
  (ws.map fun (w, isFree) =>
    if isFree && bound.all (w != ·) then w else 0).foldl max 0

/-- The quotient of two numbers rounded to the nearest whole number, halves to the even one. -/
def nearest (n d : Nat) : Nat :=
  let q := n / d
  if 2 * (n % d) < d ∨ (2 * (n % d) = d ∧ q % 2 = 0) then q else q + 1

/-- Takes an excess away from the columns of some widths, as evenly as possible and at most
`most` from each. -/
def takeAway (chosen : Nat × Bool → Bool) (most : Nat × Bool → Nat) :
    (excess count : Nat) → Widths → Widths
  | _, _, [] => []
  | excess, count, w :: rest =>
    if chosen w && most w != 0 && count != 0 then
      let part := min (most w) (nearest excess count)
      (w.1 - part, w.2) :: takeAway chosen most (excess - part) (count - 1) rest
    else w :: takeAway chosen most excess count rest

/-- Narrows the widest columns until all columns fit in a room. -/
def collapse (room : Nat) : (limit : Nat) → Widths → Widths
  | 0, ws => ws
  | limit + 1, ws =>
    let excess := ws.sum - room
    let first := ws.greatest none
    let second := ws.greatest (some first)
    let isWidest := fun (w : Nat × Bool) => w.2 && w.1 == first
    if excess = 0 || first = second then ws
    else
      collapse room limit
        (takeAway isWidest (fun _ => min excess (first - second)) excess
          (ws.filter isWidest).length ws)

/-- The widths of columns that fit in a room. -/
def fittingWidths (room : Nat) (ws : Widths) : List Nat :=
  let ws := collapse room (ws.sum + 1) ws
  let excess := ws.sum - room
  let ws :=
    if excess = 0 then ws
    else takeAway (fun _ => true) (·.1) excess (ws.filter (·.1 != 0)).length ws
  ws.map (·.1)

/-! ### Tables -/

/-- What shows of a column: of its head and of its cell in each row. -/
def shownColumn (rows : List (List String)) (column : Column) (index : Nat) :
    Except MarkupFault (List (List Char)) :=
  (column.head :: rows.map (·.getD index "")).mapM shown

/-- The width that a column would have, its blanks included, in a room. -/
def naturalWidth (room : Nat) (column : Column) (contents : List (List Char)) : Nat × Bool :=
  match column.fixed with
  | some n => (min (n + 2) room, false)
  | none =>
    let widths := contents.map fun s => min room (min room (widest s) + 2)
    (widths.foldl max 1, true)

/-- The lines of a cell in a column of a width, its blanks included. -/
def cellLines (alignment : Alignment) (width : Nat) (s : List Char) : List (List Char) :=
  if width < 3 then []
  else (linesOf alignment .ellipsis (width - 2) s).map fun line =>
    ' ' :: setCells (width - 2) line ++ [' ']

/-- The lines of a row: its cells side by side, the shorter ones with blank lines beneath, or
above if `isHead`. -/
def rowLines (isHead : Bool) (columns : List (Column × Nat)) (row : List (List Char)) :
    List (List Char) :=
  let parts := (columns.zip row).map fun ((column, width), s) =>
    (width, cellLines column.alignment width s)
  let height := (parts.map fun (_, lines) => lines.length).foldl max 1
  let filled := parts.map fun (width, lines) =>
    let missing := List.replicate (height - lines.length) (blanks width)
    if isHead then missing ++ lines else lines ++ missing
  (List.range height).map fun i =>
    '│' :: ['│'].intercalate (filled.map fun lines => lines.getD i []) ++ ['│']

/-- An edge of a table. -/
def edge (left between right : Char) (widths : List Nat) : List Char :=
  left :: [between].intercalate (widths.map rule) ++ [right]

/-- The lines of a table under a title, if it has one, on a screen of a width. -/
def table (width : Nat) (title : Option String) (columns : List Column)
    (rows : List (List String)) : Except MarkupFault (List (List Char)) := do
  let contents ← columns.zipIdx.mapM fun (column, i) => shownColumn rows column i
  let room := width - (columns.length + 1)
  let natural : Widths := columns.zipWith (naturalWidth room) contents
  let widths :=
    if natural.sum ≤ room then natural.map (·.1)
    else ((fittingWidths room natural).zip (columns.zip contents)).map
      fun (width, column, cells) => (naturalWidth width column cells).1
  let sized := columns.zip widths
  let row (i : Nat) : List (List Char) := contents.map (·.getD i [])
  let top ← match title with
    | some title =>
      (shown title).map (linesOf .center .fold (total widths + columns.length + 1))
    | none => pure []
  return top ++ [edge '╭' '┬' '╮' widths] ++ rowLines true sized (row 0)
    ++ [edge '├' '┼' '┤' widths]
    ++ (List.range rows.length).flatMap (fun i => rowLines false sized (row (i + 1)))
    ++ [edge '╰' '┴' '╯' widths]

end SpokenIndex.Display
