/-
Lines of the screen.

Every line fits in its room: what does not is cropped.  A text that fits is not broken.
Its words, each with the blanks behind it, fill one line after the other in the order of
the text, and as long as all of them fit there is only one line to fill.
-/
import SpokenIndex.Proofs.Verbatim

namespace SpokenIndex.Display

open SpokenIndex.Text (isBlank)

/-! ### Cells -/

theorem total_eq_sum (ns : List Nat) : total ns = ns.sum := by
  rw [total, List.sum_eq_foldl]

@[simp] theorem cells_cons (c : Char) (s : List Char) : cells (c :: s) = cellsOf c + cells s := by
  rw [cells, cells, total_eq_sum, total_eq_sum, List.map_cons, List.sum_cons]

@[simp] theorem cells_append (a b : List Char) : cells (a ++ b) = cells a + cells b := by
  rw [cells, cells, cells, total_eq_sum, total_eq_sum, total_eq_sum, List.map_append,
    List.sum_append]

theorem cells_le_of_sublist {a b : List Char} (h : a.Sublist b) : cells a ≤ cells b := by
  rw [cells, cells, total_eq_sum, total_eq_sum]
  exact (h.map cellsOf).sum_le_sum fun _ _ => Nat.zero_le _

theorem cells_cropTo_le (room : Nat) (s : List Char) : cells (cropTo room s) ≤ room := by
  induction s generalizing room with
  | nil => exact Nat.zero_le _
  | cons c rest ih =>
    rw [cropTo]
    by_cases hroom : room = 0
    · rw [if_pos hroom]
      exact Nat.zero_le _
    rw [if_neg hroom]
    by_cases hc : cellsOf c ≤ room
    · rw [if_pos hc, cells_cons]
      have hrest := ih (room - cellsOf c)
      omega
    · rw [if_neg hc]
      exact Nat.one_le_iff_ne_zero.mpr hroom

/-- Lines on the screen fit in their room. -/
theorem cells_le_of_mem_linesOf {room : Nat} {s line : List Char}
    (h : line ∈ linesOf .natural .fold room s) : cells line ≤ room := by
  obtain ⟨field, -, hline⟩ := List.mem_flatMap.mp h
  obtain ⟨piece, -, rfl⟩ := List.mem_map.mp hline
  rw [align, crop]
  by_cases hfits : cells (dropExcessBlanks room piece) ≤ room
  · rwa [if_pos hfits]
  · rw [if_neg hfits]
    show cells (setCells _ _) ≤ _
    rw [setCells, if_neg hfits]
    exact cells_cropTo_le _ _

/-! ### Words -/

theorem drop_length_takeWhile (q : Char → Bool) (s : List Char) :
    s.drop (s.takeWhile q).length = s.dropWhile q := by
  have hdrop := @List.drop_left _ (s.takeWhile q) (s.dropWhile q)
  rwa [List.takeWhile_append_dropWhile] at hdrop

/-- What is left of a text behind the characters at its front with `q` begins with another one. -/
theorem eq_false_of_head?_dropWhile {q : Char → Bool} {s : List Char} {c : Char}
    (h : (s.dropWhile q).head? = some c) : q c = false := by
  have hhead := List.head?_dropWhile_not q s
  rw [h] at hhead
  exact hhead

/-- The words of a text with their blanks make up the text, unless all of it is blank. -/
theorem flatten_wordsWithBlanks (limit : Nat) (s : List Char) (hlimit : s.length < limit)
    (hs : s ≠ [] → ∃ c ∈ s, isBlank c = false) : (wordsWithBlanks limit s).flatten = s := by
  induction limit generalizing s with
  | zero => exact absurd hlimit (Nat.not_lt_zero _)
  | succ limit ih =>
    rw [wordsWithBlanks, ← List.drop_drop, drop_length_takeWhile, drop_length_takeWhile,
      drop_length_takeWhile]
    have hfront := List.takeWhile_append_dropWhile (p := isBlank) (l := s)
    cases hrest : s.dropWhile isBlank with
    | nil =>
      by_cases hnil : s = []
      · rw [hnil]
        rfl
      · obtain ⟨c, hc, hblank⟩ := hs hnil
        rw [List.dropWhile_eq_nil_iff.mp hrest c hc] at hblank
        cases hblank
    | cons d rest =>
      have hd : isBlank d = false := eq_false_of_head?_dropWhile (by rw [hrest]; rfl)
      have hword : (d :: rest).takeWhile (fun c => !isBlank c)
          = d :: rest.takeWhile fun c => !isBlank c :=
        List.takeWhile_cons_of_pos (by simp [hd])
      have hbehind : (d :: rest).dropWhile (fun c => !isBlank c)
          = rest.dropWhile fun c => !isBlank c :=
        List.dropWhile_cons_of_pos (by simp [hd])
      rw [hrest] at hfront
      rw [if_neg (by simp [hword]), List.flatten_cons, hword, hbehind, ih]
      · rw [List.append_assoc, List.append_assoc, List.takeWhile_append_dropWhile,
          List.cons_append, List.takeWhile_append_dropWhile]
        exact hfront
      · have hlength := congrArg List.length hfront
        rw [List.length_append, List.length_cons] at hlength
        have hword := (List.dropWhile_sublist (fun c => !isBlank c) (l := rest)).length_le
        have hblanks := (List.dropWhile_sublist isBlank
          (l := rest.dropWhile fun c => !isBlank c)).length_le
        omega
      · intro hne
        obtain ⟨c, more, hmore⟩ := List.exists_cons_of_ne_nil hne
        refine ⟨c, ?_, eq_false_of_head?_dropWhile (by rw [hmore]; rfl)⟩
        rw [hmore]
        exact List.mem_cons_self

/-- Words that fit in one line together fill one line. -/
theorem lines_foldl_add {room : Nat} (words : List (List Char)) (line : List Char)
    (hfits : cells (line ++ words.flatten) ≤ room) :
    (words.foldl (Filling.add .fold room) ⟨[], line, cells line⟩).lines
      = [line ++ words.flatten] := by
  induction words generalizing line with
  | nil => rw [List.flatten_nil, List.append_nil]; rfl
  | cons word words ih =>
    rw [List.flatten_cons, ← List.append_assoc] at hfits
    have hline := cells_le_of_sublist (List.sublist_append_left (line ++ word) words.flatten)
    have hneeded : cells (Text.dropEndWhile isBlank word) ≤ cells word := by
      refine cells_le_of_sublist ?_
      rw [Text.dropEndWhile]
      simpa using (List.dropWhile_sublist isBlank (l := word.reverse)).reverse
    rw [cells_append] at hline
    rw [List.foldl_cons, Filling.add]
    dsimp only
    rw [if_pos (by omega), ← cells_append, List.flatten_cons, ← List.append_assoc]
    exact ih (line ++ word) hfits

theorem brokenLines_of_fits {room : Nat} {s : List Char} (hfits : cells s ≤ room) :
    brokenLines .fold room s = [s] := by
  rw [brokenLines]
  split
  · rfl
  · rename_i words hwords
    by_cases hblank : ∃ c ∈ s, isBlank c = false
    · have hflatten := flatten_wordsWithBlanks (s.length + 1) s (Nat.lt_succ_self _) fun _ => hblank
      have hlines := lines_foldl_add (wordsWithBlanks (s.length + 1) s) []
        (by rwa [List.nil_append, hflatten] : _ ≤ room)
      rw [List.nil_append, hflatten] at hlines
      exact hlines
    · exfalso
      refine hwords ?_
      rw [wordsWithBlanks, ← List.drop_drop, drop_length_takeWhile, drop_length_takeWhile]
      have hall : s.dropWhile isBlank = [] := by
        rw [List.dropWhile_eq_nil_iff]
        intro c hc
        by_contra hc'
        exact hblank ⟨c, hc, by simpa using hc'⟩
      rw [hall]
      rfl

/-- A text without line ends and tabulators that fits in the room makes one line. -/
theorem linesOf_of_fits {room : Nat} {s : List Char} (hbroken : '\n' ∉ s) (htab : '\t' ∉ s)
    (hlength : s.length ≤ room) (hfits : cells s ≤ room) :
    linesOf .natural .fold room s = [s] := by
  rw [linesOf, Text.splitAt_of_not_mem hbroken, List.flatMap_singleton,
    (comesOut_expandTabs s 0).eq_iff.mpr htab, brokenLines_of_fits hfits, List.map_singleton,
    (dropExcessBlanks_eq_self_iff room s).mpr (Or.inl hlength), align, crop, if_pos hfits]

theorem linesOf_ne_nil (alignment : Alignment) (overflow : Overflow) (room : Nat)
    (s : List Char) : linesOf alignment overflow room s ≠ [] := by
  obtain ⟨field, fields, hfields⟩ := List.exists_cons_of_ne_nil (Text.splitAt_ne_nil '\n' s)
  have hbroken : brokenLines overflow room (expandTabs 0 field) ≠ [] := by
    rw [brokenLines]
    split
    · exact List.cons_ne_nil _ _
    · rw [Filling.lines, ne_eq, List.reverse_eq_nil_iff]
      exact List.cons_ne_nil _ _
  rw [linesOf, hfields, List.flatMap_cons]
  exact List.append_ne_nil_of_left_ne_nil (List.map_eq_nil_iff.not.mpr hbroken) _

end SpokenIndex.Display
