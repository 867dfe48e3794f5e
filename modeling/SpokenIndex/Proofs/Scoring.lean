/-
What each score says about a name.

Four of the five scores are given for a reason, and the last one where there is none.
The reasons are about letters and digits alone, with one exception: whether a name that
contains a token covers it by whole segments is asked with hyphens kept, and of the
texts, at the ends of the name and between hyphens.  What is meant is that the segments
of the token stand in a row among those of the name, and that is the same
(`Proofs/Fields`), whatever segments are empty.

The question is asked only of a name that contains the letters and digits of the token.
No name is lost by that: segments that stand in a row hold their letters and digits in
a row.
-/
import SpokenIndex.Proofs.Fields
import SpokenIndex.Proofs.Selection

namespace SpokenIndex

theorem Score.rank_injective : Function.Injective Score.rank := by
  intro a b h
  cases a <;> cases b <;> simp_all [Score.rank]

/-- Different scores stand for different numbers. -/
theorem Score.value_inj {a b : Score} : a.value = b.value ↔ a = b := by
  constructor
  · intro h
    have hab : ¬ a.rank < b.rank := by
      rw [← Score.value_lt_iff, h]
      exact Binary64.lt_irrefl _
    have hba : ¬ b.rank < a.rank := by
      rw [← Score.value_lt_iff, h]
      exact Binary64.lt_irrefl _
    apply Score.rank_injective
    omega
  · intro h
    rw [h]

namespace Matching

open SpokenIndex.Text

variable {query name : List Char} {a b : Score}

/-! ### Letters, digits and hyphens -/

theorem filter_dropWhile_of_not {p keep : Char → Bool} (h : ∀ c, p c = true → keep c = false)
    (s : List Char) : (s.dropWhile p).filter keep = s.filter keep := by
  induction s with
  | nil => rfl
  | cons c rest ih =>
      by_cases hc : p c = true
      · have hdropped : ¬ keep c = true := by simp [h c hc]
        rw [List.dropWhile_cons_of_pos hc, ih, List.filter_cons_of_neg hdropped]
      · rw [List.dropWhile_cons_of_neg hc]

/-- Stripping takes nothing that is kept. -/
theorem filter_stripWhen {p keep : Char → Bool} (h : ∀ c, p c = true → keep c = false)
    (s : List Char) : (stripWhen p s).filter keep = s.filter keep := by
  unfold stripWhen dropEndWhile
  rw [List.filter_reverse, filter_dropWhile_of_not h, ← List.filter_reverse, List.reverse_reverse,
    filter_dropWhile_of_not h]

/-- A token as it is looked for between hyphens. -/
def segmentForm (query : List Char) : List Char :=
  stripWhen (· == '-') (hyphenForm query)

theorem plainForm_hyphenForm (s : List Char) : plainForm (hyphenForm s) = plainForm s := by
  unfold plainForm hyphenForm
  rw [List.filter_filter]
  refine List.filter_congr fun c _ => ?_
  cases isPlain c <;> rfl

theorem plainForm_segmentForm (query : List Char) :
    plainForm (segmentForm query) = plainForm query := by
  have hhyphen : ∀ c, (c == '-') = true → isPlain c = false := by
    intro c hc
    obtain rfl := beq_iff_eq.mp hc
    decide
  show (segmentForm query).filter isPlain = _
  unfold segmentForm
  rw [filter_stripWhen hhyphen]
  exact plainForm_hyphenForm query

/-! ### Segments -/

/-- The segments of a token stand in a row among those of a name. -/
def CoversSegments (query name : List Char) : Prop :=
  splitAt '-' (segmentForm query) <:+: splitAt '-' (hyphenForm name)

instance (query name : List Char) : Decidable (CoversSegments query name) :=
  inferInstanceAs (Decidable (_ <:+: _))

theorem standsBetweenHyphens_iff :
    standsBetweenHyphens query name = true ↔ splitAt '-' query <:+: splitAt '-' name := by
  rw [splitAt_infix_iff]
  simp [standsBetweenHyphens, hasInfix_iff, or_assoc]

/-- What is covered by segments is contained in letters and digits. -/
theorem CoversSegments.plainForm_within (h : CoversSegments query name) :
    plainForm query <:+: plainForm name := by
  have hinfix : segmentForm query <:+: hyphenForm name := infix_of_splitAt_infix h
  rw [← plainForm_segmentForm query, ← plainForm_hyphenForm name]
  exact hinfix.filter isPlain

/-- A token with a letter or digit has something left to be looked for between hyphens. -/
theorem segmentForm_ne_nil (h : plainForm query ≠ []) : segmentForm query ≠ [] := by
  intro hnil
  rw [← plainForm_segmentForm, hnil] at h
  exact h rfl

/-! ### Reasons -/

/-- The reason for which a score is given; there is none for the last one. -/
def Earns (query name : List Char) : Score → Prop
  | .exact => plainForm query = plainForm name
  | .onBoundary =>
    plainForm query ≠ plainForm name ∧ plainForm query ≠ [] ∧ CoversSegments query name
  | .contains =>
    (plainForm query ≠ [] ∧ plainForm query <:+: plainForm name ∧
      plainForm query ≠ plainForm name) ∧ ¬ CoversSegments query name
  | .contained =>
    ¬ plainForm query <:+: plainForm name ∧ plainForm name <:+: plainForm query ∧
      3 < (plainForm name).length
  | .noMatch => False

/-- No two scores are earned by one name. -/
theorem Earns.unique (ha : Earns query name a) (hb : Earns query name b) : a = b := by
  -- A form that is equal, or covered, is contained, so containment tells all other pairs apart.
  have hequal : plainForm query = plainForm name → plainForm query <:+: plainForm name := by
    intro h
    rw [h]
  have hcovered := @CoversSegments.plainForm_within query name
  cases a <;> cases b <;> simp only [Earns] at ha hb <;> first | rfl | (exfalso; tauto)

/-- The check between hyphens says whether segments are covered. -/
theorem checksSegments_iff (name : List Char) (h : plainForm query ≠ []) :
    (!(segmentForm query).isEmpty && standsBetweenHyphens (segmentForm query) (hyphenForm name))
        = true ↔ CoversSegments query name := by
  have hleft : (segmentForm query).isEmpty = false := by simpa using segmentForm_ne_nil h
  rw [hleft, Bool.not_false, Bool.true_and, standsBetweenHyphens_iff]
  rfl

/-- The score of a name, asked of containment and segments. -/
theorem scoreOf_eq (query name : List Char) :
    scoreOf query name =
      if plainForm query = plainForm name then .exact
      else if plainForm query = [] then .noMatch
      else if plainForm query <:+: plainForm name then
        if CoversSegments query name then .onBoundary else .contains
      else if plainForm name <:+: plainForm query ∧ 3 < (plainForm name).length then .contained
      else .noMatch := by
  unfold scoreOf
  by_cases hempty : plainForm query = []
  · simp [hempty]
  · have hsegments := checksSegments_iff name hempty
    unfold segmentForm at hsegments
    simp only [beq_iff_eq, List.isEmpty_iff, hempty, hasInfix_iff, hsegments, Bool.and_eq_true,
      decide_eq_true_eq]

/-- A name is given the score it earns, and the last score if it earns none. -/
theorem earns_scoreOf (query name : List Char) :
    Earns query name (scoreOf query name) ∨
      scoreOf query name = .noMatch ∧ ∀ score, ¬ Earns query name score := by
  rw [scoreOf_eq]
  split_ifs with hequal hempty hin hcovers hwithin
  · exact Or.inl hequal
  · refine Or.inr ⟨rfl, fun score hearns => ?_⟩
    cases score with
    | exact => exact hequal hearns
    | onBoundary => exact hearns.2.1 hempty
    | contains => exact hearns.1.1 hempty
    | contained => exact hearns.1 (hempty ▸ List.nil_infix)
    | noMatch => exact hearns
  · exact Or.inl ⟨hequal, hempty, hcovers⟩
  · exact Or.inl ⟨⟨hempty, hin, hequal⟩, hcovers⟩
  · exact Or.inl ⟨hin, hwithin⟩
  · refine Or.inr ⟨rfl, fun score hearns => ?_⟩
    cases score with
    | exact => exact hequal hearns
    | onBoundary => exact hin hearns.2.2.plainForm_within
    | contains => exact hin hearns.1.2.1
    | contained => exact hwithin hearns.2
    | noMatch => exact hearns

/-- A score that is given for a reason is given exactly for its reason. -/
theorem scoreOf_eq_iff (ha : a ≠ .noMatch) : scoreOf query name = a ↔ Earns query name a := by
  constructor
  · intro h
    rcases earns_scoreOf query name with hearns | ⟨hnone, -⟩
    · exact h ▸ hearns
    · exact absurd (h.symm.trans hnone) ha
  · intro h
    rcases earns_scoreOf query name with hearns | ⟨-, hnone⟩
    · exact hearns.unique h
    · exact absurd h (hnone a)

/-- **What each score means.**  Equal letters and digits score 1.  Of the names that contain those
of the token, one in which the token's segments stand in a row scores 0.9 and any other one 0.8.
A name of more than three letters and digits that the token contains scores 0.7, and any other
name 0. -/
theorem score_tiers (query name : String) :
    let q := plainForm query.toList
    let c := plainForm name.toList
    let covered := splitAt '-' (stripWhen (· == '-') (hyphenForm query.toList))
      <:+: splitAt '-' (hyphenForm name.toList)
    let number := (score query name).value
    (number = Score.ofTenths 10 ↔ q = c) ∧
    (number = Score.ofTenths 9 ↔ q ≠ c ∧ q ≠ [] ∧ covered) ∧
    (number = Score.ofTenths 8 ↔ (q ≠ [] ∧ q <:+: c ∧ q ≠ c) ∧ ¬ covered) ∧
    (number = Score.ofTenths 7 ↔ ¬ q <:+: c ∧ c <:+: q ∧ 3 < c.length) ∧
    (number = Score.ofTenths 0 ↔
      number ≠ Score.ofTenths 10 ∧ number ≠ Score.ofTenths 9 ∧ number ≠ Score.ofTenths 8 ∧
        number ≠ Score.ofTenths 7) := by
  intro q c covered number
  have hgiven : ∀ a : Score, number = a.value ↔ scoreOf query.toList name.toList = a :=
    fun a => Score.value_inj
  have hreason : ∀ a : Score, a ≠ .noMatch →
      (number = a.value ↔ Earns query.toList name.toList a) :=
    fun a ha => (hgiven a).trans (scoreOf_eq_iff ha)
  refine ⟨hreason .exact (by decide), hreason .onBoundary (by decide),
    hreason .contains (by decide), hreason .contained (by decide), ?_⟩
  show number = Score.noMatch.value ↔
    number ≠ Score.exact.value ∧ number ≠ Score.onBoundary.value ∧
      number ≠ Score.contains.value ∧ number ≠ Score.contained.value
  simp only [ne_eq, hgiven]
  cases scoreOf query.toList name.toList <;> simp

/-- A token covers segments of its own, empty ones included, and a name that contains it across a
hyphen scores less. -/
example : Matching.score "b--c" "a-b--c" = .onBoundary ∧
    Matching.score "bc" "a-b--c" = .contains := by decide

end Matching

end SpokenIndex
