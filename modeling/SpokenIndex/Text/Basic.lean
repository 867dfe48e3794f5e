/-
Cutting and joining text.

A text is a `String` at the surface and a list of characters underneath: every
operation of the library that looks inside a text is defined on `List Char`, by
recursion on that list, and the versions on `String` only convert.  What is fixed
here is what "split", "contains" and "strip" mean for the rest of the library;
each comes with the fact that its users need.
-/
namespace SpokenIndex.Text

/-! ### Fields

`splitWhen p s` cuts `s` at every character with `p` and drops those characters.
There is always one field more than there are cuts, so the answer is never empty.
-/

/-- The fields of a text between the characters at which `p` holds. -/
def splitWhen (p : Char → Bool) : List Char → List (List Char)
  | [] => [[]]
  | c :: rest =>
    if p c then
      [] :: splitWhen p rest
    else
      match splitWhen p rest with
      | [] => [[c]]
      | field :: fields => (c :: field) :: fields

/-- The fields of a text between occurrences of one character. -/
def splitAt (sep : Char) (s : List Char) : List (List Char) :=
  splitWhen (· == sep) s

theorem splitWhen_ne_nil (p : Char → Bool) (s : List Char) : splitWhen p s ≠ [] := by
  cases s with
  | nil => simp [splitWhen]
  | cons c rest =>
    unfold splitWhen
    split
    · simp
    · split <;> simp

/-- No field holds a character at which the text was cut. -/
theorem not_of_mem_splitWhen {p : Char → Bool} :
    ∀ {s : List Char} {field : List Char}, field ∈ splitWhen p s → ∀ c ∈ field, p c = false
  | [], field, h, c, hc => by
    simp only [splitWhen, List.mem_singleton] at h
    simp [h] at hc
  | d :: rest, field, h, c, hc => by
    have ih : ∀ g ∈ splitWhen p rest, ∀ c ∈ g, p c = false :=
      fun g hg => not_of_mem_splitWhen hg
    unfold splitWhen at h
    split at h
    · rcases List.mem_cons.1 h with rfl | h
      · simp at hc
      · exact ih field h c hc
    · rename_i hd
      split at h
      · obtain rfl := List.mem_singleton.1 h
        obtain rfl := List.mem_singleton.1 hc
        simpa using hd
      · rename_i g gs heq
        rcases List.mem_cons.1 h with rfl | h
        · rcases List.mem_cons.1 hc with rfl | hc
          · simpa using hd
          · exact ih g (by simp [heq]) c hc
        · exact ih field (by simp [heq, h]) c hc

/-- The text whose fields, joined by `sep`, are given. -/
def joinWith (sep : List Char) (fields : List (List Char)) : List Char :=
  sep.intercalate fields

/-! ### Containment -/

/-- Whether `needle` occurs in a text without a gap. -/
def hasInfix (needle : List Char) : List Char → Bool
  | [] => needle.isEmpty
  | c :: rest => needle.isPrefixOf (c :: rest) || hasInfix needle rest

theorem hasInfix_iff {needle s : List Char} : hasInfix needle s = true ↔ needle <:+: s := by
  induction s with
  | nil => simp [hasInfix]
  | cons c rest ih =>
    simp only [hasInfix, Bool.or_eq_true, List.isPrefixOf_iff_prefix, ih, List.infix_cons_iff]

/-! ### Stripping -/

/-- A text without the characters with `p` at its end. -/
def dropEndWhile (p : Char → Bool) (s : List Char) : List Char :=
  (s.reverse.dropWhile p).reverse

/-- A text without the characters with `p` at both ends. -/
def stripWhen (p : Char → Bool) (s : List Char) : List Char :=
  dropEndWhile p (s.dropWhile p)

/-! ### On strings -/

/-- `splitAt` on strings. -/
def fields (sep : Char) (s : String) : List String :=
  (splitAt sep s.toList).map String.ofList

/-- Whether `needle` occurs in `s`. -/
def contains (needle s : String) : Bool :=
  hasInfix needle.toList s.toList

/-- Whether `s` begins with `start`. -/
def startsWith (start s : String) : Bool :=
  start.toList.isPrefixOf s.toList

theorem startsWith_iff {start s : String} :
    startsWith start s = true ↔ start.toList <+: s.toList := by
  simp [startsWith]

end SpokenIndex.Text
