/-
Blanks and words.

A blank is any character that Unicode counts as white space in text: the ASCII
blanks, the four information separators, the two control line breaks and the
spaces of the other scripts.  A zero-width space is not one.  The words of a text
are its maximal runs of other characters.
-/
import SpokenIndex.Text.Basic

namespace SpokenIndex.Text

/-- White space between words. -/
def isBlank (c : Char) : Bool :=
  let n := c.toNat
  (9 ≤ n && n ≤ 13) || (28 ≤ n && n ≤ 32) || n == 0x85 || n == 0xA0 || n == 0x1680
    || (0x2000 ≤ n && n ≤ 0x200A) || n == 0x2028 || n == 0x2029 || n == 0x202F
    || n == 0x205F || n == 0x3000

/-- The maximal runs of characters that are not blank, in order. -/
def words (s : List Char) : List (List Char) :=
  (splitWhen isBlank s).filter fun w => !w.isEmpty

/-- A word is not empty and holds no blank. -/
theorem ne_nil_and_not_blank_of_mem_words {s w : List Char} (h : w ∈ words s) :
    w ≠ [] ∧ ∀ c ∈ w, isBlank c = false := by
  simp only [words, List.mem_filter, Bool.not_eq_true', List.isEmpty_eq_false_iff] at h
  exact ⟨h.2, not_of_mem_splitWhen h.1⟩

/-- A text without the blanks at its ends. -/
def trim (s : List Char) : List Char :=
  stripWhen isBlank s

end SpokenIndex.Text
