/-
Script blocks of single-file components.

A block runs from `<script`, followed by no word character, over its attributes up to
the next `>`, and over its body up to the nearest `</script>`, where blanks may stand
before the last bracket.  Tags are compared without regard to case.  An opening tag
that is never closed begins no block.

The language of a block is told by the first `lang` in its attributes that begins a
word, is followed by an equals sign and has a value of word characters, quoted or
not.
-/
import SpokenIndex.Source.Language
import SpokenIndex.Text.Blank
import SpokenIndex.Text.CaseFold
import SpokenIndex.Text.WordChar

namespace SpokenIndex.Vue

open SpokenIndex.Text

/-- A script block: the text of its attributes and its body. -/
structure Block where
  attributes : List Char
  body : List Char
  deriving DecidableEq, Repr

/-- The attributes of an opening tag at the front of a text, and what follows the tag. -/
def openTag? (s : List Char) : Option (List Char × List Char) :=
  match dropWord "<script".toList s with
  | none => none
  | some rest =>
    if rest.head?.any isWordChar then none
    else
      match rest.dropWhile (· ≠ '>') with
      | [] => none
      | _ :: after => some (rest.takeWhile (· ≠ '>'), after)

/-- What follows a closing tag at the front of a text. -/
def closeTag? (s : List Char) : Option (List Char) :=
  match dropWord "</script".toList s with
  | none => none
  | some rest =>
    match rest.dropWhile isBlank with
    | '>' :: after => some after
    | _ => none

/-- The text up to the nearest closing tag, and what follows the tag. -/
def bodyUpToClose : List Char → Option (List Char × List Char)
  | [] => none
  | c :: rest =>
    match closeTag? (c :: rest) with
    | some after => some ([], after)
    | none => (bodyUpToClose rest).map fun (body, after) => (c :: body, after)

theorem openTag_length {s attributes after : List Char}
    (h : openTag? s = some (attributes, after)) : after.length < s.length := by
  unfold openTag? at h
  split at h
  · simp at h
  · rename_i rest hr
    split at h
    · simp at h
    · split at h
      · simp at h
      · rename_i c after' hd
        obtain ⟨-, rfl⟩ := Prod.mk.inj (Option.some.inj h)
        have h1 := (List.dropWhile_sublist (p := fun c => decide (c ≠ '>')) (l := rest)).length_le
        have h2 := dropWord_length hr
        rw [hd] at h1
        simp only [List.length_cons] at h1
        omega

theorem closeTag_length {s after : List Char} (h : closeTag? s = some after) :
    after.length ≤ s.length := by
  unfold closeTag? at h
  split at h
  · simp at h
  · rename_i rest hr
    split at h
    · rename_i after' hd
      obtain rfl := Option.some.inj h
      have h1 := (List.dropWhile_sublist (p := isBlank) (l := rest)).length_le
      have h2 := dropWord_length hr
      rw [hd] at h1
      simp only [List.length_cons] at h1
      omega
    · simp at h

theorem bodyUpToClose_length {s body after : List Char}
    (h : bodyUpToClose s = some (body, after)) : after.length ≤ s.length := by
  induction s generalizing body after with
  | nil => simp [bodyUpToClose] at h
  | cons c rest ih =>
    unfold bodyUpToClose at h
    split at h
    · rename_i found hc
      obtain ⟨-, rfl⟩ := Prod.mk.inj (Option.some.inj h)
      exact closeTag_length hc
    · cases hb : bodyUpToClose rest with
      | none => simp [hb] at h
      | some found =>
        obtain ⟨b, a⟩ := found
        simp only [hb, Option.map_some, Option.some.injEq, Prod.mk.injEq] at h
        exact Nat.le_succ_of_le (h.2 ▸ ih hb)

/-- The block at the front of a text, and what follows it. -/
def block? (s : List Char) : Option (Block × List Char) :=
  match openTag? s with
  | none => none
  | some (attributes, rest) =>
    (bodyUpToClose rest).map fun (body, after) => (⟨attributes, body⟩, after)

theorem block_length {s after : List Char} {b : Block} (h : block? s = some (b, after)) :
    after.length < s.length := by
  unfold block? at h
  split at h
  · simp at h
  · rename_i attributes rest ho
    cases hb : bodyUpToClose rest with
    | none => simp [hb] at h
    | some found =>
      obtain ⟨body, a⟩ := found
      simp only [hb, Option.map_some, Option.some.injEq, Prod.mk.injEq] at h
      obtain ⟨-, rfl⟩ := h
      exact Nat.lt_of_le_of_lt (bodyUpToClose_length hb) (openTag_length ho)

/-- The script blocks of a text, in order. -/
def blocks (s : List Char) : List Block :=
  match h : block? s with
  | some (b, after) =>
    have : after.length < s.length := block_length h
    b :: blocks after
  | none =>
    match s with
    | [] => []
    | _ :: rest => blocks rest
termination_by s.length

/-! ### The language of a block -/

/-- The value of a `lang` attribute at the front of a text. -/
def langValue? (s : List Char) : Option (List Char) :=
  match dropWord "lang".toList s with
  | none => none
  | some rest =>
    match rest.dropWhile isBlank with
    | '=' :: rest =>
      let rest := rest.dropWhile isBlank
      let rest :=
        match rest with
        | '"' :: more => more
        | '\'' :: more => more
        | _ => rest
      let value := rest.takeWhile isWordChar
      if value.isEmpty then none else some value
    | _ => none

/-- The value of the first `lang` that begins a word, in a text after a given character. -/
def firstLang? (before : Option Char) : List Char → Option (List Char)
  | [] => none
  | c :: rest =>
    match (if before.any isWordChar then none else langValue? (c :: rest)) with
    | some value => some value
    | none => firstLang? (some c) rest

/-- Values of `lang` that allow markup inside scripts. -/
def markupLanguages : List String := ["tsx", "jsx"]

/-- The language of a script block with the given attributes. -/
def scriptLanguage (attributes : List Char) : Language :=
  match firstLang? none attributes with
  | some value =>
    if markupLanguages.contains (String.ofList (lower value)) then .tsx else .typescript
  | none => .typescript

end SpokenIndex.Vue
