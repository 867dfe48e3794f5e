/-
Comparing characters without regard to case.

Two characters are the same letter if their small forms on their own agree, or if the
small forms are two shapes of one letter, such as the long and the round s.  The
dotted capital I has the plain small i here.
-/
import SpokenIndex.Text.Lowercase

namespace SpokenIndex.Text

/-- Small letters with other shapes of the same letter. -/
def otherShapes : List (Nat × List Nat) := [
  (105, [305]), (115, [383]), (181, [956]), (305, [105]), (383, [115]), (837, [953, 8126]),
  (912, [8147]), (944, [8163]), (946, [976]), (949, [1013]), (952, [977]), (953, [837, 8126]),
  (954, [1008]), (956, [181]), (960, [982]), (961, [1009]), (962, [963]), (963, [962]),
  (966, [981]), (976, [946]), (977, [952]), (981, [966]), (982, [960]), (1008, [954]),
  (1009, [961]), (1013, [949]), (1074, [7296]), (1076, [7297]), (1086, [7298]), (1089, [7299]),
  (1090, [7300, 7301]), (1098, [7302]), (1123, [7303]), (7296, [1074]), (7297, [1076]),
  (7298, [1086]), (7299, [1089]), (7300, [1090, 7301]), (7301, [1090, 7300]), (7302, [1098]),
  (7303, [1123]), (7304, [42571]), (7777, [7835]), (7835, [7777]), (8126, [837, 953]),
  (8147, [912]), (8163, [944]), (42571, [7304]), (64261, [64262]), (64262, [64261])]

/-- The small form by which a character is compared. -/
def foldChar (c : Char) : Char :=
  if c == 'İ' then 'i' else lowerChar c

/-- The code points of the other shapes of a small letter. -/
def shapesOf (c : Char) : List Nat :=
  match otherShapes.find? (·.1 == c.toNat) with
  | some (_, shapes) => shapes
  | none => []

/-- Whether two characters are the same letter. -/
def sameLetter (a b : Char) : Bool :=
  foldChar a == foldChar b || (shapesOf (foldChar a)).contains (foldChar b).toNat

/-- The text behind `word`, if `s` begins with it but for case. -/
def dropWord (word s : List Char) : Option (List Char) :=
  match word, s with
  | [], s => some s
  | a :: word, b :: s => if sameLetter a b then dropWord word s else none
  | _ :: _, [] => none

/-- What is left is no longer than what there was. -/
theorem dropWord_length {word s rest : List Char} (h : dropWord word s = some rest) :
    rest.length ≤ s.length := by
  induction word generalizing s with
  | nil => simp only [dropWord, Option.some.injEq] at h; simp [h]
  | cons a word ih =>
    cases s with
    | nil => simp [dropWord] at h
    | cons b s =>
      simp only [dropWord] at h
      split at h
      · exact Nat.le_succ_of_le (ih h)
      · simp at h

end SpokenIndex.Text
