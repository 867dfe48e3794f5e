/-
Brace groups in a text, and how they are replaced.

A group is looked for from the left and must have no brace inside.  Such a group is found in
every text that holds one, whatever other braces there are, and where a text begins without
an opening brace the search can begin behind that.

Expansion is bounded by the number of opening braces, and the bound is never met: a choice for
a group has one opening brace less than the text that the group was found in.  So expansion
can be described by what it does to the first group (`expand_of_group`), by an induction that
follows it (`expand_induction`), and by derivations that nothing bounds (`Expands`); no later
proof counts rounds.
-/
import SpokenIndex.Glob.Brace
import SpokenIndex.Proofs.Fields

namespace SpokenIndex.Glob

open SpokenIndex.Text

variable {s t pre post body after choice : List Char} {c : Char} {g : Group}

/-! ### Groups in a text -/

/-- No brace stands in a text. -/
def IsBraceless (s : List Char) : Prop :=
  ∀ c ∈ s, isBrace c = false

/-- A text holds a group with no brace inside. -/
def HasGroup (s : List Char) : Prop :=
  ∃ before body after, s = before ++ '{' :: (body ++ '}' :: after) ∧ IsBraceless body

theorem isBraceless_nil : IsBraceless [] :=
  fun _ h => absurd h List.not_mem_nil

theorem isBraceless_cons : IsBraceless (c :: s) ↔ isBrace c = false ∧ IsBraceless s :=
  List.forall_mem_cons

theorem isBraceless_append : IsBraceless (s ++ t) ↔ IsBraceless s ∧ IsBraceless t :=
  List.forall_mem_append

theorem IsBraceless.not_mem (h : IsBraceless s) (hc : isBrace c = true) : c ∉ s := by
  intro hin
  rw [h c hin] at hc
  exact absurd hc (by decide)

theorem closeGroup_eq_some_iff :
    closeGroup s = some (body, after) ↔ s = body ++ '}' :: after ∧ IsBraceless body := by
  constructor
  · intro h
    unfold closeGroup at h
    split at h
    · rename_i rest hrest
      simp only [Option.some.injEq, Prod.mk.injEq] at h
      obtain ⟨rfl, rfl⟩ := h
      refine ⟨?_, fun c hc => ?_⟩
      · rw [← hrest, List.takeWhile_append_dropWhile]
      · simpa using List.mem_takeWhile_imp hc
    · simp at h
  · intro h
    obtain ⟨rfl, hbody⟩ := h
    have hinside : ∀ c ∈ body, (!isBrace c) = true := by
      intro c hc
      rw [hbody c hc]
      rfl
    have hclose : ∀ rest, ('}' :: rest).dropWhile (!isBrace ·) = '}' :: rest := fun _ => rfl
    have hstop : ∀ rest, ('}' :: rest).takeWhile (!isBrace ·) = [] := fun _ => rfl
    unfold closeGroup
    rw [List.dropWhile_append_of_pos hinside, List.takeWhile_append_of_pos hinside, hclose, hstop]
    show some (body ++ [], after) = _
    rw [List.append_nil]

/-- What does not close a group keeps the text after it from closing one. -/
theorem closeGroup_cons_eq_none (hc : c ≠ '}') (h : closeGroup s = none) :
    closeGroup (c :: s) = none := by
  rw [Option.eq_none_iff_forall_ne_some] at h ⊢
  intro found hfound
  obtain ⟨body, after⟩ := found
  obtain ⟨heq, hbody⟩ := closeGroup_eq_some_iff.mp hfound
  cases body with
  | nil => exact hc (List.cons.inj heq).1
  | cons d body =>
      have hs : s = body ++ '}' :: after := (List.cons.inj heq).2
      exact h (body, after) (closeGroup_eq_some_iff.mpr ⟨hs, (isBraceless_cons.mp hbody).2⟩)

theorem closeGroup_open (s : List Char) : closeGroup ('{' :: s) = none := rfl

theorem firstGroup_cons_of_closeGroup (h : closeGroup s = some (body, after)) :
    firstGroup ('{' :: s) = some ⟨[], body, after⟩ := by
  rw [firstGroup, if_pos rfl, h]

theorem firstGroup_cons_of_not_closed (h : c = '{' → closeGroup s = none) :
    firstGroup (c :: s) = (firstGroup s).map fun g => { g with before := c :: g.before } := by
  rw [firstGroup]
  by_cases hc : c = '{'
  · rw [if_pos hc, h hc]
  · rw [if_neg hc]

/-- A brace opens the first group if the group is closed, and any other character is passed. -/
theorem firstGroup_cons_cases (c : Char) (s : List Char) :
    (∃ body after, c = '{' ∧ closeGroup s = some (body, after) ∧
      firstGroup (c :: s) = some ⟨[], body, after⟩) ∨
    firstGroup (c :: s) = (firstGroup s).map fun g => { g with before := c :: g.before } := by
  by_cases hc : c = '{'
  · subst hc
    cases hclose : closeGroup s with
    | none => exact Or.inr (firstGroup_cons_of_not_closed fun _ => hclose)
    | some found =>
        obtain ⟨body, after⟩ := found
        exact Or.inl ⟨body, after, rfl, rfl, firstGroup_cons_of_closeGroup hclose⟩
  · exact Or.inr (firstGroup_cons_of_not_closed fun h => absurd h hc)

/-- The text that a group was taken from. -/
def Group.text (g : Group) : List Char :=
  g.before ++ '{' :: (g.body ++ '}' :: g.after)

/-- A group with more text around it. -/
def Group.within (pre post : List Char) (g : Group) : Group :=
  ⟨pre ++ g.before, g.body, g.after ++ post⟩

theorem of_firstGroup (h : firstGroup s = some g) : g.text = s ∧ IsBraceless g.body := by
  induction s generalizing g with
  | nil => simp [firstGroup] at h
  | cons c rest ih =>
      rcases firstGroup_cons_cases c rest with ⟨body, after, rfl, hclose, hfirst⟩ | hfirst
      · rw [hfirst] at h
        obtain rfl := Option.some.inj h
        obtain ⟨rfl, hbody⟩ := closeGroup_eq_some_iff.mp hclose
        exact ⟨rfl, hbody⟩
      · rw [hfirst] at h
        obtain ⟨g, hg, rfl⟩ := Option.map_eq_some_iff.mp h
        obtain ⟨htext, hbody⟩ := ih hg
        exact ⟨congrArg (c :: ·) htext, hbody⟩

/-- A group is found in every text that holds one. -/
theorem firstGroup_eq_none_iff : firstGroup s = none ↔ ¬ HasGroup s := by
  constructor
  · intro h hgroup
    obtain ⟨before, body, after, rfl, hbody⟩ := hgroup
    induction before with
    | nil =>
        have hclose : closeGroup (body ++ '}' :: after) = some (body, after) :=
          closeGroup_eq_some_iff.mpr ⟨rfl, hbody⟩
        rw [List.nil_append, firstGroup_cons_of_closeGroup hclose] at h
        simp at h
    | cons c before ih =>
        rw [List.cons_append] at h
        rcases firstGroup_cons_cases c (before ++ '{' :: (body ++ '}' :: after)) with
          ⟨_, _, -, -, hfirst⟩ | hfirst
        · rw [hfirst] at h
          simp at h
        · rw [hfirst, Option.map_eq_none_iff] at h
          exact ih h
  · intro h
    rw [Option.eq_none_iff_forall_ne_some]
    intro g hg
    obtain ⟨rfl, hbody⟩ := of_firstGroup hg
    exact h ⟨g.before, g.body, g.after, rfl, hbody⟩

/-- Text with no opening brace before a text takes no part in the search. -/
theorem firstGroup_append (h : '{' ∉ pre) :
    firstGroup (pre ++ s) = (firstGroup s).map (Group.within pre []) := by
  induction pre with
  | nil => cases hs : firstGroup s <;> simp [Group.within, hs]
  | cons c pre ih =>
      rw [List.mem_cons, not_or] at h
      obtain ⟨hc, hpre⟩ := h
      rw [List.cons_append, firstGroup_cons_of_not_closed fun heq => absurd heq.symm hc, ih hpre,
        Option.map_map]
      rfl

theorem choices_within (pre post : List Char) (g : Group) :
    (g.within pre post).choices = g.choices.map fun t => pre ++ t ++ post := by
  simp [Group.within, Group.choices]

/-! ### Rounds -/

/-- Each choice for a group has one opening brace less. -/
theorem count_lt_of_mem_choices (h : firstGroup s = some g) (hchoice : choice ∈ g.choices) :
    choice.count '{' < s.count '{' := by
  obtain ⟨rfl, hbody⟩ := of_firstGroup h
  obtain ⟨option, hoption, rfl⟩ := List.mem_map.mp hchoice
  have hnone : option.count '{' = 0 := by
    rw [List.count_eq_zero]
    intro hin
    exact hbody.not_mem rfl ((infix_of_mem_splitAt hoption).subset hin)
  have hclose : ('}' :: g.after).count '{' = g.after.count '{' := List.count_cons_of_ne (by decide)
  unfold Group.text
  simp only [List.count_append, List.count_cons_self, hnone, hclose]
  omega

theorem count_pos_of_firstGroup (h : firstGroup s = some g) : 0 < s.count '{' := by
  obtain ⟨rfl, -⟩ := of_firstGroup h
  rw [List.count_pos_iff]
  exact List.mem_append_right _ List.mem_cons_self

theorem expandRounds_of_none {rounds : Nat} (h : firstGroup s = none) :
    expandRounds rounds s = [s] := by
  cases rounds with
  | zero => rfl
  | succ rounds => rw [expandRounds, h]

/-- As many rounds as there are opening braces are enough. -/
theorem expandRounds_of_le {rounds : Nat} (h : s.count '{' ≤ rounds) :
    expandRounds rounds s = expand s := by
  unfold expand
  induction rounds using Nat.strong_induction_on generalizing s with
  | _ rounds ih =>
      cases hfirst : firstGroup s with
      | none => rw [expandRounds_of_none hfirst, expandRounds_of_none hfirst]
      | some g =>
          obtain ⟨least, hleast⟩ := Nat.exists_eq_add_of_lt (count_pos_of_firstGroup hfirst)
          rw [Nat.zero_add] at hleast
          obtain ⟨more, rfl⟩ := Nat.exists_eq_add_of_le (hleast ▸ h)
          rw [hleast, show least + 1 + more = (least + more) + 1 by omega, expandRounds,
            expandRounds, hfirst]
          refine List.flatMap_congr fun choice hchoice => ?_
          have hlt := count_lt_of_mem_choices hfirst hchoice
          rw [ih (least + more) (by omega) (by omega), ih least (by omega) (by omega)]

theorem expand_of_none (h : firstGroup s = none) : expand s = [s] :=
  expandRounds_of_none h

/-- Expansion goes on with each choice for the first group, and no count of rounds stops it. -/
theorem expand_of_group (h : firstGroup s = some g) : expand s = g.choices.flatMap expand := by
  rw [← expandRounds_of_le (Nat.le_succ _), expandRounds, h]
  refine List.flatMap_congr fun choice hchoice => ?_
  exact expandRounds_of_le (Nat.le_of_lt (count_lt_of_mem_choices h hchoice))

/-- What holds of texts with no group, and of a text if it holds of each choice for its first group,
holds of all texts. -/
theorem expand_induction {motive : List Char → Prop}
    (plain : ∀ s, firstGroup s = none → motive s)
    (group : ∀ s g, firstGroup s = some g → (∀ choice ∈ g.choices, motive choice) → motive s)
    (s : List Char) : motive s := by
  induction hn : s.count '{' using Nat.strong_induction_on generalizing s with
  | _ n ih =>
      cases hfirst : firstGroup s with
      | none => exact plain s hfirst
      | some g =>
          refine group s g hfirst fun choice hchoice => ?_
          exact ih (choice.count '{') (hn ▸ count_lt_of_mem_choices hfirst hchoice) choice rfl

/-- How groups are replaced, from one text to the texts that are left when there is no group any
more.  Nothing bounds the number of replacements, but each of these derivations is finite. -/
inductive Expands : List Char → List (List Char) → Prop
  | plain {s : List Char} (h : ¬ HasGroup s) : Expands s [s]
  | group {s : List Char} {g : Group} {left : List Char → List (List Char)}
      (h : firstGroup s = some g) (hleft : ∀ choice ∈ g.choices, Expands choice (left choice)) :
      Expands s (g.choices.flatMap left)

/-- The replacements come to an end, and always to the same. -/
theorem expands_iff {out : List (List Char)} : Expands s out ↔ out = expand s := by
  constructor
  · intro h
    induction h with
    | plain h => rw [expand_of_none (firstGroup_eq_none_iff.mpr h)]
    | group h hleft ih => rw [expand_of_group h, List.flatMap_congr ih]
  · intro h
    subst h
    induction s using expand_induction with
    | plain s hnone =>
        rw [expand_of_none hnone]
        exact .plain (firstGroup_eq_none_iff.mp hnone)
    | group s g hfirst ih =>
        rw [expand_of_group hfirst]
        exact .group hfirst ih

/-- No group is left when all are expanded. -/
theorem not_hasGroup_of_mem_expand (h : t ∈ expand s) : ¬ HasGroup t := by
  induction s using expand_induction with
  | plain s hnone =>
      rw [expand_of_none hnone] at h
      obtain rfl := List.mem_singleton.mp h
      exact firstGroup_eq_none_iff.mp hnone
  | group s g hfirst ih =>
      rw [expand_of_group hfirst] at h
      obtain ⟨choice, hchoice, hleft⟩ := List.mem_flatMap.mp h
      exact ih choice hchoice hleft

/-- Text with no opening brace stays in front. -/
theorem expand_append (hpre : '{' ∉ pre) (s : List Char) :
    expand (pre ++ s) = (expand s).map (pre ++ ·) := by
  induction s using expand_induction with
  | plain s hnone =>
      have hfirst : firstGroup (pre ++ s) = none := by rw [firstGroup_append hpre, hnone]; rfl
      rw [expand_of_none hfirst, expand_of_none hnone, List.map_singleton]
  | group s g hfirst ih =>
      have hwithin : firstGroup (pre ++ s) = some (g.within pre []) := by
        rw [firstGroup_append hpre, hfirst]
        rfl
      rw [expand_of_group hwithin, expand_of_group hfirst, choices_within, List.flatMap_map,
        List.map_flatMap]
      refine List.flatMap_congr fun choice hchoice => ?_
      rw [List.append_nil, ih choice hchoice]

end SpokenIndex.Glob
