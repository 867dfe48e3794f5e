/-
What brace groups mean.

A pattern with groups is the text of a tree: characters, and groups of options that are
trees again.  What a tree means is a set of texts, said by recursion on the tree: one option
of each group, and what follows.  Expansion knows nothing of trees.  It replaces the first group
that has no brace inside, wherever in the tree that is, and an option of an inner group
then stands in the middle of an option of the outer one.

So the proof follows the expansion and not the tree.  It asks of one replacement what it does
to the tree (`ComesDownTo`): each choice for the group is the text of another tree, and these
trees together mean what the tree meant.  Where the group is, is only found out by going down
the tree, and on the way up all that changes is the text around the group
(`LeadsTo.within`, `ComesDownTo.within`).
-/
import SpokenIndex.Proofs.Braces

namespace SpokenIndex.Glob

open SpokenIndex.Text

/-! ### Trees -/

/-- A character that stands for itself in a pattern; inside a group a comma does not. -/
def IsLiteral (inside : Bool) (c : Char) : Prop :=
  isBrace c = false ∧ (inside = true → c ≠ ',')

instance (inside : Bool) (c : Char) : Decidable (IsLiteral inside c) :=
  inferInstanceAs (Decidable (_ ∧ _))

mutual

/-- A pattern with groups, which may itself stand inside a group. -/
inductive Braced : (inside : Bool) → Type
  | done {inside : Bool} : Braced inside
  | char {inside : Bool} (c : Char) (literal : IsLiteral inside c) (rest : Braced inside) :
    Braced inside
  | group {inside : Bool} (options : Options) (rest : Braced inside) : Braced inside

/-- The options of a group, of which there is at least one. -/
inductive Options : Type
  | last (option : Braced true) : Options
  | more (option : Braced true) (others : Options) : Options

end

mutual

/-- How a pattern is written. -/
def Braced.text {inside : Bool} : Braced inside → List Char
  | .done => []
  | .char c _ rest => c :: rest.text
  | .group options rest => '{' :: (options.text ++ '}' :: rest.text)

/-- How options are written. -/
def Options.text : Options → List Char
  | .last option => option.text
  | .more option others => option.text ++ ',' :: others.text

end

mutual

/-- What a pattern means: what one option of each group makes of it. -/
def Braced.meaning {inside : Bool} : Braced inside → Set (List Char)
  | .done => {[]}
  | .char c _ rest => {t | ∃ u ∈ rest.meaning, t = c :: u}
  | .group options rest => {t | ∃ a ∈ options.meaning, ∃ u ∈ rest.meaning, t = a ++ u}

/-- What options mean. -/
def Options.meaning : Options → Set (List Char)
  | .last option => option.meaning
  | .more option others => option.meaning ∪ others.meaning

end

variable {inside : Bool} {s t pre post : List Char} {c : Char} {g : Group} {rest p : Braced inside}
  {options others : Options} {option : Braced true} {literal : IsLiteral inside c}

@[simp] theorem mem_meaning_done : t ∈ (Braced.done : Braced inside).meaning ↔ t = [] := by
  rw [Braced.meaning, Set.mem_singleton_iff]

@[simp] theorem mem_meaning_char :
    t ∈ (Braced.char c literal rest).meaning ↔ ∃ u ∈ rest.meaning, t = c :: u := by
  rw [Braced.meaning, Set.mem_ofPred_eq]

@[simp] theorem mem_meaning_group :
    t ∈ (Braced.group options rest).meaning ↔
      ∃ a ∈ options.meaning, ∃ u ∈ rest.meaning, t = a ++ u := by
  rw [Braced.meaning, Set.mem_ofPred_eq]

@[simp] theorem mem_meaning_last : t ∈ (Options.last option).meaning ↔ t ∈ option.meaning := by
  rw [Options.meaning]

@[simp] theorem mem_meaning_more :
    t ∈ (Options.more option others).meaning ↔ t ∈ option.meaning ∨ t ∈ others.meaning := by
  rw [Options.meaning, Set.mem_union]

/-! ### Without groups -/

/-- A pattern whose text has no brace is made of characters, and means its text. -/
theorem Braced.of_isBraceless : ∀ {inside : Bool} (p : Braced inside), IsBraceless p.text →
    (∀ c ∈ p.text, IsLiteral inside c) ∧ ∀ t, t ∈ p.meaning ↔ t = p.text
  | _, .done, _ => by simp [Braced.text]
  | _, .char c literal rest, h => by
    rw [Braced.text, isBraceless_cons] at h
    obtain ⟨hliteral, hmeaning⟩ := Braced.of_isBraceless rest h.2
    rw [Braced.text]
    refine ⟨List.forall_mem_cons.mpr ⟨literal, hliteral⟩, fun t => ?_⟩
    simp [hmeaning]
  | _, .group options rest, h => by
    rw [Braced.text, isBraceless_cons] at h
    exact absurd h.1 (by decide)

/-- Options whose text has no brace are the fields of the text between commas. -/
theorem Options.of_isBraceless : ∀ (options : Options), IsBraceless options.text →
    ∀ t, t ∈ options.meaning ↔ t ∈ splitAt ',' options.text
  | .last option, h => by
    rw [Options.text] at h ⊢
    obtain ⟨hliteral, hmeaning⟩ := option.of_isBraceless h
    have hcomma : ',' ∉ option.text := fun hin => (hliteral ',' hin).2 rfl rfl
    intro t
    rw [mem_meaning_last, hmeaning, splitAt_of_not_mem hcomma, List.mem_singleton]
  | .more option others, h => by
    rw [Options.text, isBraceless_append, isBraceless_cons] at h
    obtain ⟨hliteral, hmeaning⟩ := option.of_isBraceless h.1
    have hcomma : ',' ∉ option.text := fun hin => (hliteral ',' hin).2 rfl rfl
    intro t
    rw [Options.text, splitAt_append_cons, splitAt_of_not_mem hcomma, mem_meaning_more, hmeaning,
      Options.of_isBraceless others h.2.2, List.singleton_append, List.mem_cons]

/-- A pattern with a text before it, of which only the literal characters are taken. -/
def Braced.spell {inside : Bool} (rest : Braced inside) : List Char → Braced inside
  | [] => rest
  | c :: s => if literal : IsLiteral inside c then .char c literal (rest.spell s) else rest.spell s

theorem spell_of_literal (h : ∀ c ∈ s, IsLiteral inside c) :
    (rest.spell s).text = s ++ rest.text ∧
      ∀ t, t ∈ (rest.spell s).meaning ↔ ∃ u ∈ rest.meaning, t = s ++ u := by
  induction s with
  | nil => simp [Braced.spell]
  | cons c s ih =>
      obtain ⟨hc, hs⟩ := List.forall_mem_cons.mp h
      obtain ⟨htext, hmeaning⟩ := ih hs
      rw [Braced.spell, dif_pos hc]
      refine ⟨by rw [Braced.text, htext, List.cons_append], fun t => ?_⟩
      simp [hmeaning]

/-! ### One replacement -/

/-- The first group in a text, whatever follows, and what the text does not do: close a group that
was opened before it. -/
structure LeadsTo (s : List Char) (g : Group) : Prop where
  first : ∀ post, firstGroup (s ++ post) = some (g.within [] post)
  opens : ∀ post, closeGroup (s ++ post) = none

/-- The first group is the same with text around that closes no group before it. -/
theorem LeadsTo.within (hpre : '}' ∉ pre) (h : LeadsTo s g) (post : List Char) :
    LeadsTo (pre ++ s ++ post) (g.within pre post) := by
  induction pre with
  | nil =>
      constructor
      · intro more
        rw [List.nil_append, List.append_assoc, h.first]
        simp [Group.within]
      · intro more
        rw [List.nil_append, List.append_assoc, h.opens]
  | cons c pre ih =>
      rw [List.mem_cons, not_or] at hpre
      obtain ⟨hc, hpre⟩ := hpre
      obtain ⟨hfirst, hopens⟩ := ih hpre
      constructor
      · intro more
        show firstGroup (c :: (pre ++ s ++ post ++ more)) = _
        rw [firstGroup_cons_of_not_closed fun _ => hopens more, hfirst]
        rfl
      · intro more
        exact closeGroup_cons_eq_none (Ne.symm hc) (hopens more)

/-- A group that has no brace inside is the first one in its text. -/
theorem leadsTo_of_isBraceless {body after : List Char} (h : IsBraceless body) :
    LeadsTo ('{' :: (body ++ '}' :: after)) ⟨[], body, after⟩ := by
  constructor
  · intro post
    show firstGroup ('{' :: (body ++ '}' :: after ++ post)) = _
    have hclose : closeGroup (body ++ '}' :: after ++ post) = some (body, after ++ post) := by
      rw [closeGroup_eq_some_iff, List.append_assoc]
      exact ⟨rfl, h⟩
    rw [firstGroup_cons_of_closeGroup hclose]
    rfl
  · intro post
    exact closeGroup_open _

section Replacement

variable {α β : Type} {text : α → List Char} {meaning : α → Set (List Char)}
  {text' : β → List Char} {meaning' : β → Set (List Char)} {a : α} {as : List α}

/-- What one replacement makes of a tree, or of options: the choices for its first group are the
texts of others, and these together mean the same. -/
structure ComesDownTo (text : α → List Char) (meaning : α → Set (List Char)) (a : α) (g : Group)
    (as : List α) : Prop where
  leads : LeadsTo (text a) g
  texts : as.map text = g.choices
  meaning : ∀ t, t ∈ meaning a ↔ ∃ b ∈ as, t ∈ meaning b

theorem ComesDownTo.ne_nil (h : ComesDownTo text meaning a g as) : as ≠ [] := by
  intro hnil
  have hchoices := h.texts
  rw [hnil, List.map_nil, eq_comm, Group.choices, List.map_eq_nil_iff] at hchoices
  exact splitAt_ne_nil ',' g.body hchoices

/-- A replacement goes on inside a larger tree.  There is text around it that closes no group, and
what the larger tree means is put together from the part, besides what it means without the part. -/
theorem ComesDownTo.within (h : ComesDownTo text meaning a g as) (f : α → β)
    (pre post : List Char) (joins : List Char → List Char → Prop) (besides : Set (List Char))
    (hpre : '}' ∉ pre) (htext : ∀ b, text' (f b) = pre ++ text b ++ post)
    (hmeaning : ∀ b t, t ∈ meaning' (f b) ↔ (∃ u ∈ meaning b, joins u t) ∨ t ∈ besides) :
    ComesDownTo text' meaning' (f a) (g.within pre post) (as.map f) := by
  constructor
  · rw [htext]
    exact h.leads.within hpre post
  · rw [choices_within, ← h.texts, List.map_map, List.map_map]
    exact List.map_congr_left fun b _ => htext b
  · intro t
    simp only [List.mem_map, exists_exists_and_eq_and, hmeaning, h.meaning]
    constructor
    · intro hgiven
      rcases hgiven with ⟨u, ⟨b, hb, hu⟩, hjoins⟩ | hbesides
      · exact ⟨b, hb, Or.inl ⟨u, hu, hjoins⟩⟩
      · -- There is at least one tree, so what is meant besides is not lost.
        obtain ⟨b, hb⟩ := List.exists_mem_of_ne_nil as h.ne_nil
        exact ⟨b, hb, Or.inr hbesides⟩
    · intro hgiven
      obtain ⟨b, hb, ⟨u, hu, hjoins⟩ | hbesides⟩ := hgiven
      · exact Or.inl ⟨u, ⟨b, hb, hu⟩, hjoins⟩
      · exact Or.inr hbesides

end Replacement

/-- A group with no brace inside comes down to its options. -/
theorem comesDownTo_options (h : IsBraceless options.text) (rest : Braced inside) :
    ComesDownTo Braced.text Braced.meaning (.group options rest) ⟨[], options.text, rest.text⟩
      ((splitAt ',' options.text).map rest.spell) := by
  have hspell : ∀ s ∈ splitAt ',' options.text, ∀ c ∈ s, IsLiteral inside c := by
    intro s hs c hc
    refine ⟨h c ((infix_of_mem_splitAt hs).subset hc), fun _ => ?_⟩
    simpa using not_of_mem_splitWhen hs c hc
  constructor
  · rw [Braced.text]
    exact leadsTo_of_isBraceless h
  · rw [Group.choices, List.map_map]
    exact List.map_congr_left fun s hs => (spell_of_literal (hspell s hs)).1
  · intro t
    simp only [mem_meaning_group, List.mem_map, exists_exists_and_eq_and,
      options.of_isBraceless h]
    constructor
    · intro hgiven
      obtain ⟨s, hs, hgiven⟩ := hgiven
      exact ⟨s, hs, ((spell_of_literal (hspell s hs)).2 t).mpr hgiven⟩
    · intro hgiven
      obtain ⟨s, hs, hgiven⟩ := hgiven
      exact ⟨s, hs, ((spell_of_literal (hspell s hs)).2 t).mp hgiven⟩

mutual

/-- A pattern with a brace in its text has a first group, which can be replaced. -/
theorem Braced.comesDown : ∀ {inside : Bool} (p : Braced inside), ¬ IsBraceless p.text →
    ∃ g ps, ComesDownTo Braced.text Braced.meaning p g ps
  | _, .done, h => absurd isBraceless_nil h
  | _, .char c literal rest, h => by
    have hrest : ¬ IsBraceless rest.text :=
      fun hrest => h (isBraceless_cons.mpr ⟨literal.1, hrest⟩)
    have hpre : '}' ∉ [c] := by
      intro hin
      have hc := literal.1
      rw [← List.mem_singleton.mp hin] at hc
      exact absurd hc (by decide)
    obtain ⟨g, ps, hps⟩ := Braced.comesDown rest hrest
    exact ⟨_, _, hps.within (Braced.char c literal) [c] [] (fun u t => t = c :: u) ∅ hpre
      (fun p => by simp [Braced.text]) (fun p t => by simp)⟩
  | _, .group options rest, h => by
    by_cases hoptions : IsBraceless options.text
    · exact ⟨_, _, comesDownTo_options hoptions rest⟩
    · obtain ⟨g, os, hos⟩ := Options.comesDown options hoptions
      exact ⟨_, _, hos.within (Braced.group · rest) ['{'] ('}' :: rest.text)
        (fun a t => ∃ u ∈ rest.meaning, t = a ++ u) ∅ (by decide)
        (fun o => by simp [Braced.text]) (fun o t => by simp)⟩

/-- Options with a brace in their text have a first group, which can be replaced. -/
theorem Options.comesDown : ∀ (options : Options), ¬ IsBraceless options.text →
    ∃ g os, ComesDownTo Options.text Options.meaning options g os
  | .last option, h => by
    obtain ⟨g, ps, hps⟩ := Braced.comesDown option h
    exact ⟨_, _, hps.within Options.last [] [] (fun u t => t = u) ∅ List.not_mem_nil
      (fun p => by simp [Options.text]) (fun p t => by simp)⟩
  | .more option others, h => by
    by_cases hoption : IsBraceless option.text
    · have hothers : ¬ IsBraceless others.text := by
        intro hothers
        rw [Options.text, isBraceless_append, isBraceless_cons] at h
        exact h ⟨hoption, by decide, hothers⟩
      have hpre : '}' ∉ option.text ++ [','] := by
        rw [List.mem_append, not_or]
        exact ⟨hoption.not_mem rfl, by decide⟩
      obtain ⟨g, os, hos⟩ := Options.comesDown others hothers
      exact ⟨_, _, hos.within (Options.more option) (option.text ++ [',']) [] (fun u t => t = u)
        option.meaning hpre (fun o => by simp [Options.text]) (fun o t => by simp [or_comm])⟩
    · obtain ⟨g, ps, hps⟩ := Braced.comesDown option hoption
      exact ⟨_, _, hps.within (Options.more · others) [] (',' :: others.text) (fun u t => t = u)
        others.meaning List.not_mem_nil (fun p => by simp [Options.text]) (fun p t => by simp)⟩

end

/-! ### The whole expansion -/

/-- Expanding the text of a pattern gives what the pattern means. -/
theorem mem_expand_text : t ∈ expand p.text ↔ t ∈ p.meaning := by
  induction hs : p.text using expand_induction generalizing p with
  | plain s hnone =>
      subst hs
      have hbraceless : IsBraceless p.text := by
        by_contra hbrace
        obtain ⟨g, ps, hps⟩ := p.comesDown hbrace
        have hfirst := hps.leads.first []
        rw [List.append_nil, hnone] at hfirst
        exact absurd hfirst (by simp)
      rw [expand_of_none hnone, List.mem_singleton, (p.of_isBraceless hbraceless).2]
  | group s g hfirst ih =>
      subst hs
      have hbrace : ¬ IsBraceless p.text := by
        intro hbraceless
        exact hbraceless.not_mem (c := '{') rfl
          (List.count_pos_iff.mp (count_pos_of_firstGroup hfirst))
      obtain ⟨g', ps, hps⟩ := p.comesDown hbrace
      have hsame : g'.choices = g.choices := by
        have hfirst' := hps.leads.first []
        rw [List.append_nil, hfirst] at hfirst'
        rw [Option.some.inj hfirst', choices_within]
        simp
      have htext : ∀ q ∈ ps, q.text ∈ g.choices := by
        intro q hq
        rw [← hsame, ← hps.texts]
        exact List.mem_map_of_mem hq
      rw [expand_of_group hfirst, ← hsame, ← hps.texts, List.flatMap_map, List.mem_flatMap,
        hps.meaning]
      constructor
      · intro hgiven
        obtain ⟨q, hq, hmem⟩ := hgiven
        exact ⟨q, hq, (ih q.text (htext q hq) rfl).mp hmem⟩
      · intro hgiven
        obtain ⟨q, hq, hmem⟩ := hgiven
        exact ⟨q, hq, (ih q.text (htext q hq) rfl).mpr hmem⟩

theorem map_toList_expandBraces (pattern : String) :
    (expandBraces pattern).map String.toList = expand pattern.toList := by
  unfold expandBraces
  rw [List.map_map]
  refine (List.map_congr_left fun s _ => ?_).trans (List.map_id _)
  exact String.toList_ofList

theorem mem_expandBraces {pattern text : String} :
    text ∈ expandBraces pattern ↔ text.toList ∈ expand pattern.toList := by
  rw [← map_toList_expandBraces, List.mem_map_of_injective fun _ _ => String.toList_injective]

/-- **What brace groups mean.**  A pattern that is written from a tree expands exactly to the texts
that the tree means.  And in every text whatever, with or without partners for its braces, groups
are replaced until none is left: that takes finitely many replacements, and what comes out is
the expansion. -/
theorem expandBraces_means :
    (∀ p : Braced false, {text | text ∈ expandBraces (String.ofList p.text)}
      = {text : String | text.toList ∈ p.meaning}) ∧
    ∀ pattern : String,
      (∀ out, Expands pattern.toList out ↔ out = (expandBraces pattern).map String.toList) ∧
      ¬ ∃ text ∈ expandBraces pattern, HasGroup text.toList := by
  refine ⟨fun p => ?_, fun pattern => ⟨fun out => ?_, fun hleft => ?_⟩⟩
  · ext text
    show text ∈ expandBraces (String.ofList p.text) ↔ text.toList ∈ p.meaning
    rw [mem_expandBraces, String.toList_ofList, mem_expand_text]
  · rw [map_toList_expandBraces]
    exact expands_iff
  · obtain ⟨text, htext, hgroup⟩ := hleft
    exact not_hasGroup_of_mem_expand (mem_expandBraces.mp htext) hgroup

/-- An option of the inner group stands inside an option of the outer one, so the other option of
the outer group comes out twice; a brace without a partner stays. -/
example : expand ['{', 'a', ',', 'b', '{', 'c', ',', 'd', '}', '}', '}']
    = [['a', '}'], ['b', 'c', '}'], ['a', '}'], ['b', 'd', '}']] := by decide

end SpokenIndex.Glob
