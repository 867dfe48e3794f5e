/-
Texts and their fields.

A text is cut at a separator, and everything here follows from one equation: the fields
of two texts that meet at a separator are the fields of the one and those of the other.
So a text can be found among the fields of another without cutting anything.  Its fields
stand there in a row exactly if the text itself stands there, between separators or the
ends.
-/
import SpokenIndex.Proofs.Place

namespace SpokenIndex.Text

variable {sep : Char} {a b s : List Char}

/-- Two texts that meet at a separator are cut there. -/
theorem splitAt_append_cons (sep : Char) (a b : List Char) :
    splitAt sep (a ++ sep :: b) = splitAt sep a ++ splitAt sep b := by
  simp only [splitAt, splitWhen_eq_splitOnP]
  exact List.splitOnP_append_cons a b (beq_self_eq_true sep)

/-- A text without the separator is a field of its own. -/
theorem splitAt_of_not_mem (h : sep ∉ s) : splitAt sep s = [s] := by
  rw [splitAt, splitWhen_eq_splitOnP]
  refine List.splitOnP_eq_singleton fun c hc => ?_
  rw [beq_eq_false_iff_ne]
  intro heq
  exact h (heq ▸ hc)

/-- The fields of a text make up the text. -/
theorem joinWith_splitAt (sep : Char) (s : List Char) : joinWith [sep] (splitAt sep s) = s := by
  rw [splitAt, splitWhen_eq_splitOnP]
  exact List.intercalate_splitOn sep

theorem splitAt_ne_nil (sep : Char) (s : List Char) : splitAt sep s ≠ [] :=
  splitWhen_ne_nil _ s

/-- The fields of a text stand in a row among those of another one exactly if the text is the
other, or stands at its beginning, at its end or inside it with separators around. -/
theorem splitAt_infix_iff :
    splitAt sep a <:+: splitAt sep s ↔
      s = a ∨ a ++ [sep] <+: s ∨ sep :: a <:+ s ∨ sep :: (a ++ [sep]) <:+: s := by
  constructor
  · intro h
    obtain ⟨before, after, hfields⟩ := h
    have hs : joinWith [sep] (before ++ splitAt sep a ++ after) = s := by
      rw [hfields, joinWith_splitAt]
    have ha := splitAt_ne_nil sep a
    have hmiddle : before ++ splitAt sep a ≠ [] := by simp [ha]
    by_cases hbefore : before = []
    · subst hbefore
      rw [List.nil_append] at hs
      by_cases hafter : after = []
      · subst hafter
        rw [List.append_nil, joinWith_splitAt] at hs
        exact Or.inl hs.symm
      · rw [joinWith_append ha hafter, joinWith_splitAt] at hs
        exact Or.inr (Or.inl ⟨_, hs⟩)
    · by_cases hafter : after = []
      · subst hafter
        rw [List.append_nil, joinWith_append hbefore ha, joinWith_splitAt] at hs
        exact Or.inr (Or.inr (Or.inl ⟨joinWith [sep] before, by rw [← hs]; simp⟩))
      · rw [joinWith_append hmiddle hafter, joinWith_append hbefore ha, joinWith_splitAt] at hs
        exact Or.inr (Or.inr (Or.inr
          ⟨joinWith [sep] before, joinWith [sep] after, by rw [← hs]; simp⟩))
  · intro h
    rcases h with rfl | ⟨after, rfl⟩ | ⟨before, rfl⟩ | ⟨before, after, rfl⟩
    · exact List.infix_refl _
    · rw [List.append_assoc, List.singleton_append, splitAt_append_cons]
      exact (List.prefix_append _ _).isInfix
    · rw [splitAt_append_cons]
      exact (List.suffix_append _ _).isInfix
    · have hcut : before ++ sep :: (a ++ [sep]) ++ after
          = before ++ sep :: (a ++ sep :: after) := by simp
      rw [hcut, splitAt_append_cons, splitAt_append_cons]
      exact ⟨splitAt sep before, splitAt sep after, List.append_assoc _ _ _⟩

/-- A text stands where its fields stand. -/
theorem infix_of_splitAt_infix (h : splitAt sep a <:+: splitAt sep s) : a <:+: s := by
  rcases splitAt_infix_iff.mp h with rfl | hfirst | hlast | hinside
  · exact List.infix_refl _
  · exact ((List.prefix_append a [sep]).trans hfirst).isInfix
  · exact ((List.suffix_cons sep a).trans hlast).isInfix
  · have ha : a <:+: sep :: (a ++ [sep]) := ⟨[sep], [sep], rfl⟩
    exact ha.trans hinside

theorem infix_of_mem_splitAt {field : List Char} (h : field ∈ splitAt sep s) : field <:+: s := by
  have hfield : sep ∉ field := by
    intro hin
    simpa using not_of_mem_splitWhen h sep hin
  have hrow : splitAt sep field <:+: splitAt sep s := by
    obtain ⟨before, after, hfields⟩ := List.append_of_mem h
    rw [splitAt_of_not_mem hfield, hfields]
    exact ⟨before, after, by simp⟩
  exact infix_of_splitAt_infix hrow

end SpokenIndex.Text
