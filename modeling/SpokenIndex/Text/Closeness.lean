/-
How close two words are.

Two words share the characters of their longest common piece, of the longest common piece
before it, of that behind it, and so on.  They are close if at least six tenths of their
characters are shared.
-/
import SpokenIndex.Collection.Sorted
import SpokenIndex.Text.Basic

namespace SpokenIndex.Text

/-- How many characters two texts share at the front. -/
def sharedFront : List Char → List Char → Nat
  | a :: as, b :: bs => if a == b then sharedFront as bs + 1 else 0
  | _, _ => 0

/-- A piece that two texts have in common: where it begins in each, and its length. -/
structure CommonPiece where
  left : Nat
  right : Nat
  length : Nat
  deriving DecidableEq, Repr

/-- The longest common piece; of several, the one that begins first in the one and then in
the other text. -/
def longestCommon (a b : List Char) : CommonPiece :=
  (List.range a.length).foldl (fun best i =>
    (List.range b.length).foldl (fun best j =>
      let n := sharedFront (a.drop i) (b.drop j)
      if best.length < n then ⟨i, j, n⟩ else best) best) ⟨0, 0, 0⟩

/-- How many characters two texts share; `limit` bounds the pieces. -/
def sharedCount : (limit : Nat) → List Char → List Char → Nat
  | 0, _, _ => 0
  | limit + 1, a, b =>
    let p := longestCommon a b
    if p.length = 0 then 0
    else
      sharedCount limit (a.take p.left) (b.take p.right) + p.length
        + sharedCount limit (a.drop (p.left + p.length)) (b.drop (p.right + p.length))

/-- How many of the characters of two texts are shared. -/
def shared (a b : String) : Nat :=
  sharedCount (a.length + 1) a.toList b.toList

/-- Whether two words are close. -/
def isClose (a b : String) : Bool :=
  6 * (a.length + b.length) ≤ 20 * shared a b

/-- Whether of two words the first is closer to a third, or as close and later in order. -/
def isCloser (word a b : String) : Bool :=
  let left := shared a word * (b.length + word.length)
  let right := shared b word * (a.length + word.length)
  right < left || (left == right && b < a)

/-- How many close words are told. -/
def closeLimit : Nat := 3

/-- The words of a list that are closest to a word, in their own order. -/
def closeWords (word : String) (words : List String) : List String :=
  let close := words.filter fun w => isClose w word
  let closest := (sortStable (isCloser word) close).take closeLimit
  sortStable (fun a b => a ≤ b) closest

end SpokenIndex.Text
