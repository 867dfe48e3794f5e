/-
Wildcards.

A pattern without brace groups is a sequence of pieces: `*` stands for any text,
slashes included, `?` for any one character, `[…]` for one character of a set and
`[!…]` for one outside it; every other character stands for itself, and so does a
`[` that is never closed.

Inside a set, `a-c` is a range.  A closing bracket or a hyphen in the first place
is a member, and so is a hyphen in the last place.  A range whose ends are the wrong
way round holds nothing: both of its ends vanish from the set.
-/
import SpokenIndex.Text.Basic

namespace SpokenIndex.Glob

open SpokenIndex.Text

/-- A member of a set: the characters from `first` to `last`. -/
structure Span where
  first : Char
  last : Char
  deriving DecidableEq, Repr

/-- Whether a character lies in a span. -/
def Span.holds (span : Span) (c : Char) : Bool :=
  span.first.toNat ≤ c.toNat && c.toNat ≤ span.last.toNat

/-- One piece of a pattern. -/
inductive Piece where
  | anyText
  | anyChar
  | exactly (c : Char)
  | oneOf (negated : Bool) (spans : List Span)
  deriving DecidableEq, Repr

/-! ### Sets -/

/-- The inside of a set and what follows its closing bracket.  A bracket in the first place,
also after the sign of negation, does not close. -/
def closeSet (s : List Char) : Option (List Char × List Char) :=
  let sign := if s.head? = some '!' then ['!'] else []
  let rest := s.drop sign.length
  let first := if rest.head? = some ']' then [']'] else []
  let tail := rest.drop first.length
  match tail.dropWhile (· ≠ ']') with
  | _ :: after => some (sign ++ first ++ tail.takeWhile (· ≠ ']'), after)
  | [] => none

/-- Cuts a set at the hyphens that make ranges: the first one after `skip` characters, and
then each one after two more characters. -/
def cutRanges (skip : Nat) (run : List Char) : List Char → List (List Char)
  | [] => [run.reverse]
  | c :: rest =>
    match skip with
    | skip + 1 => cutRanges skip (c :: run) rest
    | 0 => if c = '-' then run.reverse :: cutRanges 2 [] rest else cutRanges 0 (c :: run) rest

/-- Gives a hyphen at the very end back to the chunk before it. -/
def keepLastHyphen : List (List Char) → List (List Char)
  | [] => []
  | [a, []] => [a ++ ['-']]
  | a :: rest => a :: keepLastHyphen rest

/-- Drops the ends of ranges that are the wrong way round, from the last range to the first. -/
def dropEmptyRanges : List (List Char) → List (List Char)
  | [] => []
  | a :: rest =>
    match dropEmptyRanges rest with
    | [] => [a]
    | b :: more =>
      match a.getLast?, b.head? with
      | some last, some first =>
        if first.toNat < last.toNat then (a.dropLast ++ b.tail) :: more else a :: b :: more
      | _, _ => a :: b :: more

/-- A set's text with the hyphens that make ranges told apart from those that are members. -/
inductive SetMark where
  | member (c : Char)
  | range
  deriving DecidableEq, Repr

/-- The marks of a set cut into chunks. -/
def setMarks (chunks : List (List Char)) : List SetMark :=
  [SetMark.range].intercalate (chunks.map (·.map SetMark.member))

/-- The spans that marks stand for. -/
def spansOf : List SetMark → List Span
  | .member a :: .range :: .member b :: rest => ⟨a, b⟩ :: spansOf rest
  | .member a :: rest => ⟨a, a⟩ :: spansOf rest
  | .range :: rest => ⟨'-', '-'⟩ :: spansOf rest
  | [] => []

/-- The piece that the inside of a set stands for. -/
def setPiece (inside : List Char) : Piece :=
  let skip := if inside.head? = some '!' then 2 else 1
  let chunks :=
    if inside.contains '-' then dropEmptyRanges (keepLastHyphen (cutRanges skip [] inside))
    else [inside]
  match setMarks chunks with
  | .member '!' :: marks => .oneOf true (spansOf marks)
  | marks => .oneOf false (spansOf marks)

/-! ### Patterns -/

theorem closeSet_length {s inside after : List Char} (h : closeSet s = some (inside, after)) :
    after.length < s.length := by
  unfold closeSet at h
  simp only at h
  split at h
  · rename_i c rest heq
    obtain ⟨-, rfl⟩ := Prod.mk.inj (Option.some.inj h)
    have h1 := (List.dropWhile_sublist (p := fun c => decide (c ≠ ']'))
      (l := (s.drop (if s.head? = some '!' then ['!'] else []).length).drop
        (if (s.drop (if s.head? = some '!' then ['!'] else []).length).head? = some ']'
          then [']'] else []).length)).length_le
    rw [heq] at h1
    simp only [List.length_cons, List.length_drop] at h1
    omega
  · simp at h

/-- The pieces of a pattern. -/
def pieces (s : List Char) : List Piece :=
  match s with
  | [] => []
  | '*' :: rest => .anyText :: pieces rest
  | '?' :: rest => .anyChar :: pieces rest
  | '[' :: rest =>
    match h : closeSet rest with
    | some (inside, after) =>
      have : after.length < rest.length := closeSet_length h
      setPiece inside :: pieces after
    | none => .exactly '[' :: pieces rest
  | c :: rest => .exactly c :: pieces rest
termination_by s.length

/-- Whether some end of a text has `p`. -/
def someSuffix (p : List Char → Bool) : List Char → Bool
  | [] => p []
  | c :: rest => p (c :: rest) || someSuffix p rest

/-- Whether a piece stands for one given character. -/
def Piece.accepts : Piece → Char → Bool
  | .anyText, _ => true
  | .anyChar, _ => true
  | .exactly d, c => c == d
  | .oneOf negated spans, c => spans.any (·.holds c) != negated

/-- Whether a sequence of pieces stands for a whole text. -/
def piecesMatch : List Piece → List Char → Bool
  | [], s => s.isEmpty
  | .anyText :: ps, s => someSuffix (piecesMatch ps) s
  | p :: ps, c :: rest => p.accepts c && piecesMatch ps rest
  | _ :: _, [] => false

theorem someSuffix_iff {p : List Char → Bool} {s : List Char} :
    someSuffix p s = true ↔ ∃ t, t <:+ s ∧ p t = true := by
  induction s with
  | nil => simp [someSuffix]
  | cons c rest ih =>
    simp only [someSuffix, Bool.or_eq_true, ih]
    constructor
    · rintro (h | ⟨t, ht, h⟩)
      · exact ⟨_, List.suffix_refl _, h⟩
      · exact ⟨t, ht.trans (List.suffix_cons c rest), h⟩
    · rintro ⟨t, ht, h⟩
      rcases List.suffix_cons_iff.1 ht with rfl | ht
      · exact Or.inl h
      · exact Or.inr ⟨t, ht, h⟩

/-- Whether a pattern stands for a whole text. -/
def wildcardMatch (pattern s : List Char) : Bool :=
  piecesMatch (pieces pattern) s

end SpokenIndex.Glob
