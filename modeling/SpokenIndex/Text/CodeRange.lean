/-
Classes of characters given by their code points.

A class that is no simple formula is written down as data: a list of closed
intervals of code points, or a list of strided runs where the members alternate
with others, as capital and small letters do.  Membership is decided by looking
through the list, so a fact about one character is a closed computation.
-/
namespace SpokenIndex.Text

/-- Whether a code point lies in one of the closed intervals. -/
def inIntervals (intervals : List (Nat × Nat)) (n : Nat) : Bool :=
  intervals.any fun (first, last) => first ≤ n && n ≤ last

/-- The code points `first`, `first + stride`, … up to `last`, moved by `shift`. -/
structure CodeRun where
  first : Nat
  last : Nat
  stride : Nat
  shift : Int

/-- Whether a code point belongs to a run. -/
def CodeRun.covers (run : CodeRun) (n : Nat) : Bool :=
  run.first ≤ n && n ≤ run.last && (n - run.first) % run.stride == 0

/-- The code point that a run moves `n` to. -/
def CodeRun.move (run : CodeRun) (n : Nat) : Nat :=
  (Int.ofNat n + run.shift).toNat

end SpokenIndex.Text
