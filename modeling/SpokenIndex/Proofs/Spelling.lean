/-
Words in any case.

A word is looked for letter by letter, and each letter may be written in any of its shapes
(`Text.dropWord`).  What follows a text is only seen by a search that gets to the end of the
text.  So a word that is written there stays where it is, whatever is appended, and a word
that is not there does not come up at the joint either, if the appended text begins with a
character that is none of its letters.

Tags are found by their angle bracket.  It has one shape only, and no letter has it.
-/
import Mathlib
import SpokenIndex.Proofs.Lowering
import SpokenIndex.Text.CaseFold
import SpokenIndex.Text.WordChar

namespace SpokenIndex.Text

variable {word s rest tail : List Char} {a c : Char}

/-! ### A word and what is appended -/

theorem dropWord_cons_eq_some_iff : dropWord (a :: word) s = some rest ↔
    ∃ b behind, s = b :: behind ∧ sameLetter a b = true ∧ dropWord word behind = some rest := by
  cases s with
  | nil => simp [dropWord]
  | cons b behind => simp [dropWord]

theorem dropWord_cons_eq_none_iff : dropWord (a :: word) (c :: s) = none ↔
    (sameLetter a c = true → dropWord word s = none) := by
  simp [dropWord]

theorem dropWord_append (h : dropWord word s = some rest) (tail : List Char) :
    dropWord word (s ++ tail) = some (rest ++ tail) := by
  induction word generalizing s with
  | nil =>
      obtain rfl := Option.some.inj h
      rfl
  | cons a word ih =>
      obtain ⟨b, behind, rfl, hsame, hword⟩ := dropWord_cons_eq_some_iff.mp h
      exact dropWord_cons_eq_some_iff.mpr ⟨b, behind ++ tail, rfl, hsame, ih hword⟩

/-- What is behind a word is the end of the text. -/
theorem dropWord_suffix (h : dropWord word s = some rest) : rest <:+ s := by
  induction word generalizing s with
  | nil =>
      obtain rfl := Option.some.inj h
      exact List.suffix_refl _
  | cons a word ih =>
      obtain ⟨b, behind, rfl, -, hword⟩ := dropWord_cons_eq_some_iff.mp h
      exact (ih hword).trans (List.suffix_cons b behind)

/-- A word that is not at the front of a text does not come there by what is appended, if that
begins with none of its letters. -/
theorem dropWord_append_of_none (hletters : ∀ a ∈ word, sameLetter a c = false)
    (h : dropWord word s = none) (tail : List Char) : dropWord word (s ++ c :: tail) = none := by
  induction word generalizing s with
  | nil => simp [dropWord] at h
  | cons a word ih =>
      cases s with
      | nil =>
          have hfirst := hletters a List.mem_cons_self
          exact dropWord_cons_eq_none_iff.mpr fun hsame => by simp [hfirst] at hsame
      | cons b s =>
          have hrest : ∀ a ∈ word, sameLetter a c = false := fun a ha =>
            hletters a (List.mem_cons_of_mem _ ha)
          rw [dropWord_cons_eq_none_iff] at h
          rw [List.cons_append, dropWord_cons_eq_none_iff]
          intro hsame
          exact ih hrest (h hsame)

/-! ### A word inside a text -/

/-- A word stands nowhere in a text, in whatever case. -/
def IsFreeOf (word s : List Char) : Prop :=
  ∀ rest, rest <:+ s → dropWord word rest = none

instance (word s : List Char) : Decidable (IsFreeOf word s) :=
  decidable_of_iff (∀ rest ∈ s.tails, dropWord word rest = none) (by simp [IsFreeOf])

theorem isFreeOf_cons : IsFreeOf word (c :: s) ↔
    dropWord word (c :: s) = none ∧ IsFreeOf word s := by
  simp [IsFreeOf, List.suffix_cons_iff]

/-! ### Characters of ASCII

A letter of another script has a small form of that script.  The one exception is the sign for
degrees Kelvin, which becomes a `k`.
-/

theorem lowerRuns_beyond_ascii : ∀ run ∈ lowerRuns,
    (128 : Int) ≤ run.first + run.shift ∨ (run.first = run.last ∧ run.first + run.shift = 107) := by
  decide +kernel

/-- Only a character of ASCII becomes one, `k` apart. -/
theorem ascii_of_lowerChar (h : (lowerChar c).toNat < 128) (hk : lowerChar c ≠ 'k') :
    c.toNat < 128 := by
  by_contra hc
  rw [lowerChar, if_neg hc] at h hk
  cases hrun : lowerRuns.find? (·.covers c.toNat) with
  | none =>
      rw [hrun] at h
      exact hc h
  | some run =>
      have hmem := List.mem_of_find?_eq_some hrun
      have hcovers : run.covers c.toNat = true :=
        List.find?_some (p := fun run : CodeRun => run.covers c.toNat) hrun
      have hmoved := toNat_move hmem hcovers
      simp only [hrun] at h hk
      rcases lowerRuns_beyond_ascii run hmem with hbeyond | ⟨hsingle, hkelvin⟩
      · simp only [CodeRun.covers, Bool.and_eq_true, decide_eq_true_eq] at hcovers
        omega
      · simp only [CodeRun.covers, Bool.and_eq_true, decide_eq_true_eq] at hcovers
        refine hk (Char.toNat_inj.mp ?_)
        have hcode : 'k'.toNat = 107 := rfl
        omega

/-! ### Angle brackets -/

theorem lowerChar_eq_angle (h : lowerChar c = '<') : c = '<' := by
  have hascii : c.toNat < 128 := ascii_of_lowerChar (by rw [h]; decide) (by rw [h]; decide)
  rw [lowerChar, if_pos hascii] at h
  exact char_all_ascii (P := fun c => c.toLower = '<' → c = '<') (by decide) c hascii h

theorem sameLetter_angle_iff : sameLetter '<' c = true ↔ c = '<' := by
  have hfold : foldChar '<' = '<' ∧ shapesOf '<' = [] := by decide
  obtain ⟨hself, hshapes⟩ := hfold
  rw [sameLetter, hself, hshapes]
  constructor
  · intro h
    rw [List.contains_nil, Bool.or_false, beq_iff_eq] at h
    have hsmall : foldChar c = '<' := h.symm
    rw [foldChar] at hsmall
    split_ifs at hsmall
    · exact absurd hsmall (by decide)
    · exact lowerChar_eq_angle hsmall
  · rintro rfl
    simp [hself]

/-- What begins with a tag begins with an angle bracket. -/
theorem head_of_dropWord_tag (h : dropWord ('<' :: word) s = some rest) :
    ∃ behind, s = '<' :: behind := by
  obtain ⟨b, behind, rfl, hsame, -⟩ := dropWord_cons_eq_some_iff.mp h
  exact ⟨behind, by rw [sameLetter_angle_iff.mp hsame]⟩

/-- A tag that is not in a text does not come up at its end, if a bracket follows. -/
theorem dropWord_tag_append (hword : ∀ a ∈ word, sameLetter a '<' = false)
    (h : dropWord ('<' :: word) (c :: s) = none) (tail : List Char) :
    dropWord ('<' :: word) (c :: s ++ '<' :: tail) = none := by
  rw [dropWord_cons_eq_none_iff] at h
  rw [List.cons_append, dropWord_cons_eq_none_iff]
  intro hsame
  exact dropWord_append_of_none hword (h hsame) tail

/-! ### Blanks and words -/

/-- No blank is part of a word. -/
theorem isWordChar_of_isBlank (h : isBlank c = true) : isWordChar c = false := by
  have hapart : ∀ i ∈ blankIntervals, ∀ j ∈ wordIntervals, i.2 < j.1 ∨ j.2 < i.1 := by
    decide +kernel
  rw [isWordChar]
  split_ifs with hascii
  · exact char_all_ascii (P := fun c => isBlank c = true → (c.isAlphanum || c == '_') = false)
      (by decide) c hascii h
  · obtain ⟨i, hi, hfirst, hlast⟩ := isBlank_iff.mp h
    rw [inIntervals, List.any_eq_false]
    intro j hj hin
    simp only [Bool.and_eq_true, decide_eq_true_eq] at hin
    rcases hapart i hi j hj with hbefore | hbehind <;> omega

/-- A text is made of word characters if its small form is made of those of ASCII, `k` apart. -/
theorem isWordChar_of_lower
    (h : ∀ d ∈ lower s, d.toNat < 128 ∧ d ≠ 'k' ∧ isWordChar d = true) (hc : c ∈ s) :
    isWordChar c = true := by
  obtain ⟨front, after, hsubset⟩ := exists_lowerIn_subset [] hc
  have hsmall : ∀ d ∈ lowerIn front c after, d.toNat < 128 ∧ d ≠ 'k' ∧ isWordChar d = true :=
    fun d hd => h d (hsubset d hd)
  unfold lowerIn at hsmall
  split_ifs at hsmall with hdotted hsigma
  · exact absurd (hsmall '\u0307' (by simp)).1 (by decide)
  · exact absurd (hsmall 'ς' (by simp)).1 (by decide)
  · exact absurd (hsmall 'σ' (by simp)).1 (by decide)
  · obtain ⟨hbelow, hkelvin, hword⟩ := hsmall (lowerChar c) (by simp)
    have hascii := ascii_of_lowerChar hbelow hkelvin
    rw [lowerChar, if_pos hascii] at hword
    exact char_all_ascii (P := fun c => isWordChar c.toLower = true → isWordChar c = true)
      (by decide) c hascii hword

end SpokenIndex.Text
