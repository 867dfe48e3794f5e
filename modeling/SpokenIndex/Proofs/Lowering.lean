/-
What lowering does to a token.

Lowering looks around: what becomes of a capital sigma depends on what stands behind it.  So
the small form of a text with something appended need not begin with that of the text.  It
does if nothing in what is appended has a case, for then the sigma meets the same as before.
That is how punctuation leaves the letters of a token alone, wherever it stands.

No small form is looked at twice: it is its own small form, whatever it stands between
(`IsSmall`).  So a text that has been lowered stays as it is.

A character becomes one or two, and none of them is a blank unless it was one.  So a token
is still a token in lowercase.
-/
import Mathlib
import SpokenIndex.Text.Blank
import SpokenIndex.Text.Lowercase

namespace SpokenIndex.Text

variable {before s tail : List Char} {c d : Char}

/-- What holds of the characters of ASCII can be found out by trying them. -/
theorem char_all_ascii {P : Char → Prop} (h : ∀ n < 128, P (Char.ofNat n)) (c : Char)
    (hc : c.toNat < 128) : P c := by
  have hgiven := h c.toNat hc
  rwa [Char.ofNat_toNat] at hgiven

/-! ### A text with something appended -/

/-- What has no case is not met. -/
theorem meetsCased_append (htail : ∀ c ∈ tail, isCased c = false) :
    meetsCased (s ++ tail) = meetsCased s := by
  rw [meetsCased, meetsCased, List.dropWhile_append]
  cases hs : s.dropWhile isCaseIgnorable with
  | cons c rest => rfl
  | nil =>
      rw [List.isEmpty_nil, if_pos rfl]
      cases hdrop : tail.dropWhile isCaseIgnorable with
      | nil => rfl
      | cons c rest =>
          exact htail c ((List.dropWhile_sublist _).mem (hdrop ▸ List.mem_cons_self))

theorem lowerIn_append (htail : ∀ c ∈ tail, isCased c = false) :
    lowerIn before c (s ++ tail) = lowerIn before c s := by
  rw [lowerIn, lowerIn, meetsCased_append htail]

theorem lowerFrom_append (htail : ∀ c ∈ tail, isCased c = false) :
    lowerFrom before (s ++ tail) = lowerFrom before s ++ lowerFrom (s.reverse ++ before) tail := by
  induction s generalizing before with
  | nil => rfl
  | cons c rest ih =>
      rw [List.cons_append, lowerFrom, lowerFrom, lowerIn_append htail, ih, List.append_assoc,
        List.reverse_cons, List.append_assoc, List.singleton_append]

/-! ### Small forms -/

/-- A character is its own small form, whatever it stands between. -/
def IsSmall (c : Char) : Prop :=
  c ≠ 'İ' ∧ c ≠ 'Σ' ∧ lowerChar c = c

instance (c : Char) : Decidable (IsSmall c) := inferInstanceAs (Decidable (_ ∧ _))

theorem lowerFrom_of_isSmall (h : ∀ c ∈ s, IsSmall c) : lowerFrom before s = s := by
  induction s generalizing before with
  | nil => rfl
  | cons c rest ih =>
      obtain ⟨hdotted, hsigma, hself⟩ := h c List.mem_cons_self
      have hhere : lowerIn before c rest = [c] := by
        rw [lowerIn, if_neg (by simpa using hdotted), if_neg (by simpa using hsigma), hself]
      rw [lowerFrom, hhere, ih fun d hd => h d (List.mem_cons_of_mem _ hd), List.singleton_append]

/-- Every run of letters is moved to characters. -/
theorem lowerRuns_valid : ∀ run ∈ lowerRuns, 0 ≤ run.first + run.shift ∧
    (run.last + run.shift < 0xD800 ∨
      0xDFFF < run.first + run.shift ∧ run.last + run.shift < 0x110000) := by
  decide +kernel

theorem toNat_move {run : CodeRun} {n : Nat} (hrun : run ∈ lowerRuns)
    (hn : run.covers n = true) : ((Char.ofNat (run.move n)).toNat : Int) = n + run.shift := by
  have hvalid := lowerRuns_valid run hrun
  have hmove : run.move n = (n + run.shift).toNat := rfl
  simp only [CodeRun.covers, Bool.and_eq_true, decide_eq_true_eq] at hn
  rw [Char.toNat_ofNat, if_pos]
  · omega
  · simp only [Nat.isValidChar]
    omega

/-- Runs of the characters that are no small forms. -/
def largeRuns : List CodeRun :=
  ⟨65, 90, 1, 32⟩ :: ⟨304, 304, 1, 0⟩ :: lowerRuns

/-- Whether a run is none of the code points from `first` to `last`, or alternates with them.  They
have every second code point if their stride is two. -/
def CodeRun.misses (capitals : CodeRun) (first last stride : Nat) : Bool :=
  Nat.blt last capitals.first || Nat.blt capitals.last first ||
    ((stride == 2 || first == last) && capitals.stride == 2 && (first + capitals.first) % 2 == 1)

/-- No run of letters is moved to where capitals are. -/
theorem lowerRuns_small : (lowerRuns.all fun run => largeRuns.all fun capitals =>
    capitals.misses (run.move run.first) (run.move run.last) run.stride) = true := by
  decide +kernel

/-- What is among no capitals is a small form. -/
theorem isSmall_of_not_covers (h : ∀ capitals ∈ largeRuns, capitals.covers c.toNat = false) :
    IsSmall c := by
  have hletters : ∀ run ∈ lowerRuns, run.covers c.toNat = false := fun run hrun =>
    h run (List.mem_cons_of_mem _ (List.mem_cons_of_mem _ hrun))
  refine ⟨?_, ?_, ?_⟩
  · rintro rfl
    exact absurd (h ⟨304, 304, 1, 0⟩ (by simp [largeRuns])) (by decide)
  · rintro rfl
    have hcovered : lowerRuns.any (·.covers 'Σ'.toNat) = true := by decide
    obtain ⟨run, hrun, hcovers⟩ := List.any_eq_true.mp hcovered
    rw [hletters run hrun] at hcovers
    exact absurd hcovers Bool.false_ne_true
  · rw [lowerChar]
    split_ifs with hascii
    · have hcapital := h ⟨65, 90, 1, 32⟩ (by simp [largeRuns])
      exact char_all_ascii (P := fun c => CodeRun.covers ⟨65, 90, 1, 32⟩ c.toNat = false →
        c.toLower = c) (by decide) c hascii hcapital
    · rw [List.find?_eq_none.mpr fun run hrun => by simp [hletters run hrun]]

theorem isSmall_move {run : CodeRun} {n : Nat} (hrun : run ∈ lowerRuns)
    (hn : run.covers n = true) : IsSmall (Char.ofNat (run.move n)) := by
  refine isSmall_of_not_covers fun capitals hcapitals => ?_
  have hvalid := (lowerRuns_valid run hrun).1
  have hmoved := toNat_move hrun hn
  have hfirst : run.move run.first = (run.first + run.shift).toNat := rfl
  have hlast : run.move run.last = (run.last + run.shift).toNat := rfl
  have hmisses := List.all_eq_true.mp (List.all_eq_true.mp lowerRuns_small run hrun) capitals
    hcapitals
  rw [← Bool.not_eq_true]
  intro hin
  simp only [CodeRun.covers, CodeRun.misses, Bool.and_eq_true, Bool.or_eq_true, decide_eq_true_eq,
    beq_iff_eq, Nat.blt_eq] at hn hin hmisses
  rcases hmisses with (hbefore | hbehind) | ⟨⟨hstride | hsingle, hcapital⟩, hodd⟩
  · omega
  · omega
  · rw [hstride] at hn
    rw [hcapital] at hin
    omega
  · rw [hcapital] at hin
    omega

theorem isSmall_lowerChar (hdotted : c ≠ 'İ') (hsigma : c ≠ 'Σ') : IsSmall (lowerChar c) := by
  by_cases hascii : c.toNat < 128
  · rw [lowerChar, if_pos hascii]
    exact char_all_ascii (P := fun c => IsSmall c.toLower) (by decide) c hascii
  · cases hrun : lowerRuns.find? (·.covers c.toNat) with
    | none =>
        have hself : lowerChar c = c := by rw [lowerChar, if_neg hascii, hrun]
        rw [hself]
        exact ⟨hdotted, hsigma, hself⟩
    | some run =>
        rw [lowerChar, if_neg hascii, hrun]
        exact isSmall_move (List.mem_of_find?_eq_some hrun)
          (List.find?_some (p := fun run : CodeRun => run.covers c.toNat) hrun)

theorem isSmall_of_mem_lowerIn {after : List Char} (hd : d ∈ lowerIn before c after) :
    IsSmall d := by
  have hall : (lowerIn before c after).all (fun d => decide (IsSmall d)) = true := by
    unfold lowerIn
    split_ifs with hdotted hsigma
    · decide
    · decide
    · decide
    · simpa using isSmall_lowerChar (by simpa using hdotted) (by simpa using hsigma)
  simpa using List.all_eq_true.mp hall d hd

/-- A lowered text is made of small forms. -/
theorem isSmall_of_mem_lowerFrom (hd : d ∈ lowerFrom before s) : IsSmall d := by
  induction s generalizing before with
  | nil => exact absurd hd List.not_mem_nil
  | cons c rest ih =>
      rw [lowerFrom, List.mem_append] at hd
      rcases hd with hd | hd
      · exact isSmall_of_mem_lowerIn hd
      · exact ih hd

theorem lower_of_isSmall (h : ∀ c ∈ s, IsSmall c) : lower s = s :=
  lowerFrom_of_isSmall h

/-- What is in lowercase stays as it is. -/
theorem lowercase_lowercase (text : String) : lowercase (lowercase text) = lowercase text := by
  have hsmall : ∀ c ∈ lower text.toList, IsSmall c := fun c hc => isSmall_of_mem_lowerFrom hc
  rw [lowercase, lowercase, String.toList_ofList, lower_of_isSmall hsmall]

/-! ### Marks of punctuation -/

/-- A mark of punctuation: a character of ASCII that can be seen and is neither a letter, a digit
nor the hyphen. -/
def isMark (c : Char) : Bool :=
  33 ≤ c.toNat && c.toNat ≤ 126 && !c.isAlphanum && c != '-'

/-- What holds of all marks can be found out by trying the characters of ASCII. -/
theorem isMark_forall {P : Char → Prop}
    (h : ∀ n < 128, isMark (Char.ofNat n) = true → P (Char.ofNat n)) (hc : isMark c = true) :
    P c := by
  refine char_all_ascii (P := fun c => isMark c = true → P c) h c ?_ hc
  simp only [isMark, Bool.and_eq_true, decide_eq_true_eq] at hc
  omega

/-- Marks have no case, are no blanks and stay as they are. -/
theorem facts_of_isMark (hc : isMark c = true) :
    isCased c = false ∧ isBlank c = false ∧ IsSmall c :=
  isMark_forall (P := fun c => isCased c = false ∧ isBlank c = false ∧ IsSmall c)
    (by decide) hc

theorem isCased_of_isMark (hc : isMark c = true) : isCased c = false :=
  (facts_of_isMark hc).1

theorem isBlank_of_isMark (hc : isMark c = true) : isBlank c = false :=
  (facts_of_isMark hc).2.1

theorem isSmall_of_isMark (hc : isMark c = true) : IsSmall c :=
  (facts_of_isMark hc).2.2

/-- Marks stay behind the small form of a text. -/
theorem lower_append_marks (h : ∀ c ∈ tail, isMark c = true) :
    lower (s ++ tail) = lower s ++ tail := by
  rw [lower, lowerFrom_append fun c hc => isCased_of_isMark (h c hc),
    lowerFrom_of_isSmall fun c hc => isSmall_of_isMark (h c hc), lower]

/-! ### Blanks -/

theorem lowerIn_ne_nil (before : List Char) (c : Char) (after : List Char) :
    lowerIn before c after ≠ [] := by
  unfold lowerIn
  split_ifs <;> exact List.cons_ne_nil _ _

theorem lower_eq_nil_iff : lower s = [] ↔ s = [] := by
  cases s with
  | nil => exact iff_of_true rfl rfl
  | cons c rest => simp [lower, lowerFrom, lowerIn_ne_nil]

/-- What becomes of a character is in the small form of its text. -/
theorem exists_lowerIn_subset (before : List Char) (hc : c ∈ s) :
    ∃ front after, ∀ d ∈ lowerIn front c after, d ∈ lowerFrom before s := by
  induction s generalizing before with
  | nil => exact absurd hc List.not_mem_nil
  | cons e rest ih =>
      rw [lowerFrom]
      rcases List.mem_cons.mp hc with rfl | hc
      · exact ⟨before, rest, fun d hd => List.mem_append_left _ hd⟩
      · obtain ⟨front, after, hsubset⟩ := ih (e :: before) hc
        exact ⟨front, after, fun d hd => List.mem_append_right _ (hsubset d hd)⟩

/-- The code points of blanks. -/
def blankIntervals : List (Nat × Nat) :=
  [(9, 13), (28, 32), (0x85, 0x85), (0xA0, 0xA0), (0x1680, 0x1680), (0x2000, 0x200A),
    (0x2028, 0x2029), (0x202F, 0x202F), (0x205F, 0x205F), (0x3000, 0x3000)]

theorem isBlank_iff : isBlank c = true ↔ ∃ i ∈ blankIntervals, i.1 ≤ c.toNat ∧ c.toNat ≤ i.2 := by
  simp only [isBlank, blankIntervals, List.exists_mem_cons_iff, List.not_mem_nil, false_and,
    exists_false, or_false, Bool.or_eq_true, Bool.and_eq_true, decide_eq_true_eq, beq_iff_eq]
  omega

/-- No run of letters is moved to where blanks are. -/
theorem lowerRuns_visible : ∀ run ∈ lowerRuns, ∀ i ∈ blankIntervals,
    (i.2 : Int) < run.first + run.shift ∨ run.last + run.shift < (i.1 : Int) := by
  decide +kernel

theorem isBlank_move {run : CodeRun} {n : Nat} (hrun : run ∈ lowerRuns)
    (hn : run.covers n = true) : isBlank (Char.ofNat (run.move n)) = false := by
  rw [← Bool.not_eq_true, isBlank_iff]
  intro hgiven
  obtain ⟨i, hi, hfirst, hlast⟩ := hgiven
  have hmoved := toNat_move hrun hn
  have hapart := lowerRuns_visible run hrun i hi
  simp only [CodeRun.covers, Bool.and_eq_true, decide_eq_true_eq] at hn
  omega

/-- What is no blank is lowered to none. -/
theorem isBlank_lowerChar (hc : isBlank c = false) : isBlank (lowerChar c) = false := by
  rw [lowerChar]
  split_ifs with hascii
  · exact char_all_ascii (P := fun c => isBlank c = false → isBlank c.toLower = false)
      (by decide) c hascii hc
  · cases hrun : lowerRuns.find? (·.covers c.toNat) with
    | none => exact hc
    | some run =>
      have hcovers := List.find?_some hrun
      exact isBlank_move (List.mem_of_find?_eq_some hrun) hcovers

theorem isBlank_of_mem_lowerIn {after : List Char} (hc : isBlank c = false)
    (hd : d ∈ lowerIn before c after) : isBlank d = false := by
  have hall : (lowerIn before c after).all (fun d => !isBlank d) = true := by
    unfold lowerIn
    split_ifs
    · rfl
    · rfl
    · rfl
    · simp [isBlank_lowerChar hc]
  simpa using List.all_eq_true.mp hall d hd

/-- A text without blanks has none in lowercase. -/
theorem isBlank_of_mem_lower (hs : ∀ c ∈ s, isBlank c = false) :
    ∀ d ∈ lower s, isBlank d = false := by
  have hfrom : ∀ before, ∀ d ∈ lowerFrom before s, isBlank d = false := by
    induction s with
    | nil => intro before d hd; exact absurd hd List.not_mem_nil
    | cons c rest ih =>
        intro before d hd
        rw [lowerFrom, List.mem_append] at hd
        rcases hd with hd | hd
        · exact isBlank_of_mem_lowerIn (hs c List.mem_cons_self) hd
        · exact ih (fun c hc => hs c (List.mem_cons_of_mem _ hc)) _ d hd
  exact hfrom []

end SpokenIndex.Text
