/-
The scan for phrases, told by positions.

The scan leaves a slot for each token.  A phrase is read off the slots as a span: the
position of its head, its length, and its match.  What the scan has done can then be said
without the scan.  The spans lie apart and go from left to right; the match of each is the
best that its words have among what no span further left has claimed; and where no span
lies, two words in a row have no match at all.

All this is one invariant (`IsGreedyScan`), which is built from the end: from the spans of
the tokens behind a phrase, or behind a token at which no phrase begins, to those of all
tokens.  What is claimed when the scan comes to a position is what was claimed before it
began and what the spans further left have claimed (`IsFree`).
-/
import SpokenIndex.Proofs.Spans

namespace SpokenIndex.Matching

open SpokenIndex.Text

variable {index : Mappings} {claimed : List String} {free : String → Prop} {phrase : List Char}
  {lengths : List Nat} {ts us : List Token} {t : Token} {m : Match} {slot : Slot}
  {after : List Slot} {n i : Nat} {path : String}

/-! ### The match of a phrase -/

/-- The first element of a list of which something holds. -/
def IsFirst {α : Type} (p : α → Prop) (l : List α) (a : α) : Prop :=
  p a ∧ ∃ before after, l = before ++ a :: after ∧ ∀ b ∈ before, ¬ p b

theorem isFirst_of_find?_filter {α : Type} {p : α → Prop} {keep test : α → Bool} {l : List α}
    {a : α} (hp : ∀ b, p b ↔ keep b = true ∧ test b = true)
    (h : (l.filter keep).find? test = some a) : IsFirst p l a := by
  rw [List.find?_filter, List.find?_eq_some_iff_append] at h
  obtain ⟨ha, before, after, hsplit, hbefore⟩ := h
  refine ⟨(hp a).mpr (of_decide_eq_true ha), before, after, hsplit, fun b hb hpb => ?_⟩
  simpa [(hp b).mp hpb] using hbefore b hb

/-- A match is the one for a phrase: of the components and then the files with a free path, the
first whose form is the phrase, which scores ten tenths; but if there is none, the first whose form
contains the phrase, which scores nine. -/
def IsPhraseMatch (index : Mappings) (free : String → Prop) (phrase : List Char) (m : Match) :
    Prop :=
  (∃ c, IsFirst (fun c => free c.path ∧ phraseForm c.name.toList = phrase)
      (phraseEntries index) c ∧ m = c.toMatch .exact) ∨
    (∀ c ∈ phraseEntries index, free c.path → phraseForm c.name.toList ≠ phrase) ∧
      ∃ c, IsFirst (fun c => free c.path ∧ phrase <:+: phraseForm c.name.toList)
        (phraseEntries index) c ∧ m = c.toMatch .onBoundary

theorem isPhraseMatch_of_matchPhrase (h : matchPhrase index claimed phrase = some m) :
    IsPhraseMatch index (· ∉ claimed) phrase m := by
  rw [matchPhrase, phraseCandidates_eq] at h
  split at h
  · rename_i c hfind
    refine Or.inl ⟨c, isFirst_of_find?_filter (fun b => ?_) hfind, (Option.some.inj h).symm⟩
    simp
  · rename_i hnone
    obtain ⟨c, hfind, rfl⟩ := Option.map_eq_some_iff.mp h
    refine Or.inr ⟨fun d hd hfree hequal => ?_, c, isFirst_of_find?_filter (fun b => ?_) hfind, rfl⟩
    · have hunclaimed : d ∈ (phraseEntries index).filter fun c => !claimed.contains c.path :=
        mem_unclaimed_iff.mpr ⟨hd, hfree⟩
      exact List.find?_eq_none.mp hnone d hunclaimed (beq_iff_eq.mpr hequal)
    · rw [hasInfix_iff]
      simp

theorem phraseOf_pair (a b : Token) : phraseOf [a, b] = a.word ++ ' ' :: b.word := by
  simp [phraseOf, joinWith]

/-! ### Spans -/

/-- A phrase that was accepted: where it begins, how many tokens it has, and its match. -/
structure Span where
  start : Nat
  size : Nat
  found : Match
  deriving DecidableEq, Repr

namespace Span

/-- The position behind a span. -/
def stop (span : Span) : Nat := span.start + span.size

/-- A position lies in a span. -/
def Covers (span : Span) (i : Nat) : Prop := span.start ≤ i ∧ i < span.stop

/-- A span with more tokens in front of it. -/
def shift (n : Nat) (span : Span) : Span := { span with start := n + span.start }

@[simp] theorem start_shift (n : Nat) (span : Span) : (span.shift n).start = n + span.start := rfl

@[simp] theorem size_shift (n : Nat) (span : Span) : (span.shift n).size = span.size := rfl

@[simp] theorem found_shift (n : Nat) (span : Span) : (span.shift n).found = span.found := rfl

@[simp] theorem stop_shift (n : Nat) (span : Span) : (span.shift n).stop = n + span.stop := by
  simp only [stop, start_shift, size_shift, Nat.add_assoc]

theorem shift_shift (n k : Nat) (span : Span) : (span.shift k).shift n = span.shift (n + k) := by
  simp only [shift, Nat.add_assoc]

@[simp] theorem covers_shift {span : Span} : (span.shift n).Covers (n + i) ↔ span.Covers i := by
  simp only [Covers, start_shift, stop_shift, Nat.add_le_add_iff_left, Nat.add_lt_add_iff_left]

end Span

/-- The phrases among the slots of a scan. -/
def spansOf : List Slot → List Span
  | [] => []
  | .head _ m :: rest =>
    ⟨0, (rest.takeWhile Slot.isTail).length + 1, m⟩ :: (spansOf rest).map (Span.shift 1)
  | .plain _ :: rest => (spansOf rest).map (Span.shift 1)
  | .tail _ :: rest => (spansOf rest).map (Span.shift 1)

@[simp] theorem spansOf_plain :
    spansOf (.plain t :: after) = (spansOf after).map (Span.shift 1) := rfl

theorem spansOf_tails :
    spansOf (us.map Slot.tail ++ after) = (spansOf after).map (Span.shift us.length) := by
  induction us with
  | nil =>
      have hsame : Span.shift 0 = id := by
        funext span
        simp [Span.shift]
      simp [hsame]
  | cons u rest ih =>
      rw [List.map_cons, List.cons_append, spansOf, ih, List.map_map]
      refine List.map_congr_left fun span _ => ?_
      rw [Function.comp_apply, Span.shift_shift, List.length_cons, Nat.add_comm]

/-- A head and the tails behind it are one span. -/
theorem spansOf_phrase (hafter : ∀ slot ∈ after.head?, slot.isTail = false) :
    spansOf (.head t m :: us.map Slot.tail ++ after)
      = ⟨0, us.length + 1, m⟩ :: (spansOf after).map (Span.shift (us.length + 1)) := by
  have htails : (us.map Slot.tail ++ after).takeWhile Slot.isTail = us.map Slot.tail := by
    have hnone : after.takeWhile Slot.isTail = [] := by
      cases after with
      | nil => rfl
      | cons slot rest => simp [hafter slot rfl]
    rw [List.takeWhile_append_of_pos, hnone, List.append_nil]
    intro slot hslot
    obtain ⟨u, -, rfl⟩ := List.mem_map.mp hslot
    rfl
  rw [List.cons_append, spansOf, htails, List.length_map, spansOf_tails, List.map_map]
  refine congrArg _ (List.map_congr_left fun span _ => ?_)
  rw [Function.comp_apply, Span.shift_shift, Nat.add_comm]

/-- Behind the head of a phrase stand as many tails as it has tokens less one. -/
theorem length_tails {rest : List Token} (hpos : 0 < n) (hlength : n ≤ (t :: rest).length) :
    (rest.take (n - 1)).length + 1 = n := by
  rw [List.length_cons] at hlength
  rw [List.length_take]
  omega

/-- A scan does not begin with a tail. -/
theorem isTail_head?_scanPhrases (h : slot ∈ (scanPhrases index lengths claimed ts).head?) :
    slot.isTail = false := by
  fun_cases scanPhrases index lengths claimed ts with
  | case1 => simp [scanPhrases] at h
  | case2 t rest n m hspan =>
      rw [scanPhrases, hspan] at h
      obtain rfl := Option.some.inj h
      rfl
  | case3 t rest hspan =>
      rw [scanPhrases, hspan] at h
      obtain rfl := Option.some.inj h
      rfl

/-! ### The scan -/

variable {spans : List Span}

/-- What is free when a scan comes to a position: it was not claimed before, nor by a span further
left. -/
def IsFree (claimed : List String) (spans : List Span) (i : Nat) (path : String) : Prop :=
  path ∉ claimed ∧ ∀ span ∈ spans, span.start < i → span.found.path ≠ path

/-- Spans are those of a greedy scan over tokens.  They lie apart and go from left to right, each
has the match of its words among what is free there, and where no span lies no component or file
that is free there contains the two words that follow one another. -/
structure IsGreedyScan (index : Mappings) (claimed : List String) (ts : List Token)
    (spans : List Span) : Prop where
  /-- A span has two tokens at least, and ends with the tokens at the latest. -/
  inside : ∀ span ∈ spans, 2 ≤ span.size ∧ span.stop ≤ ts.length
  apart : spans.Pairwise fun a b => a.stop ≤ b.start
  sound : ∀ span ∈ spans, IsPhraseMatch index (IsFree claimed spans span.start)
    (phraseOf ((ts.drop span.start).take span.size)) span.found
  complete : ∀ i, (∀ span ∈ spans, ¬ span.Covers i) → ∀ a ∈ ts[i]?, ∀ b ∈ ts[i + 1]?,
    ∀ name path, (name, path) ∈ index.components.entries ∨ (name, path) ∈ index.files.entries →
      IsFree claimed spans i path → ¬ a.word ++ ' ' :: b.word <:+: phraseForm name.toList

theorem isFree_shift :
    IsFree claimed (spans.map (Span.shift n)) (n + i) = IsFree claimed spans i := by
  funext path
  simp [IsFree]

/-- Behind a phrase its path is claimed. -/
theorem isFree_phrase (hn : 0 < n) :
    IsFree claimed (⟨0, n, m⟩ :: spans.map (Span.shift n)) (n + i)
      = IsFree (m.path :: claimed) spans i := by
  funext path
  have hbegins : 0 < n + i := Nat.add_pos_left hn i
  rw [eq_iff_iff, IsFree, IsFree, List.forall_mem_cons, List.forall_mem_map, List.mem_cons, not_or]
  simp only [hbegins, forall_const, Span.start_shift, Span.found_shift, Nat.add_lt_add_iff_left]
  rw [ne_comm, and_left_comm, and_assoc]

/-- Nothing is claimed by the scan where it begins. -/
theorem isFree_zero : IsFree claimed spans 0 = (· ∉ claimed) := by
  funext path
  simp [IsFree]

namespace IsGreedyScan

theorem nil : IsGreedyScan index claimed [] [] :=
  ⟨by simp, List.Pairwise.nil, by simp, by simp⟩

/-- A token at which no phrase begins is passed over. -/
theorem plain (hnone : ∀ b ∈ ts.head?, matchPhrase index claimed (phraseOf [t, b]) = none)
    (h : IsGreedyScan index claimed ts spans) :
    IsGreedyScan index claimed (t :: ts) (spans.map (Span.shift 1)) where
  inside := by
    intro span hspan
    obtain ⟨inner, hinner, rfl⟩ := List.mem_map.mp hspan
    obtain ⟨hsize, hstop⟩ := h.inside inner hinner
    refine ⟨hsize, ?_⟩
    rw [Span.stop_shift, List.length_cons]
    omega
  apart := by
    refine List.pairwise_map.mpr (h.apart.imp fun {a b} hab => ?_)
    simpa using hab
  sound := by
    intro span hspan
    obtain ⟨inner, hinner, rfl⟩ := List.mem_map.mp hspan
    rw [Span.start_shift, isFree_shift, Nat.add_comm]
    exact h.sound inner hinner
  complete := by
    intro i hout a ha b hb name path hentry hfree
    cases i with
    | zero =>
        rw [isFree_zero] at hfree
        obtain rfl : t = a := by simpa using ha
        rw [List.getElem?_cons_succ, ← List.head?_eq_getElem?] at hb
        have hunmatched := hnone b hb
        rw [phraseOf_pair] at hunmatched
        rw [matchPhrase_eq_none_iff, phraseCandidates_eq] at hunmatched
        rcases hentry with hcomponent | hfile
        · exact hunmatched ⟨name, path, .component⟩
            (mem_phraseEntries_iff.mpr (Or.inl ⟨rfl, hcomponent⟩)) hfree
        · exact hunmatched ⟨name, path, .file⟩
            (mem_phraseEntries_iff.mpr (Or.inr ⟨rfl, hfile⟩)) hfree
    | succ i =>
        rw [Nat.add_comm, isFree_shift] at hfree
        refine h.complete i (fun span hspan => ?_) a ha b hb name path hentry hfree
        have hshifted := hout (span.shift 1) (List.mem_map_of_mem hspan)
        rwa [Nat.add_comm, Span.covers_shift] at hshifted

/-- Behind a phrase the scan goes on with what is left, and the path of its match is claimed. -/
theorem head (hn : 2 ≤ n) (hlength : n ≤ ts.length)
    (hmatch : matchPhrase index claimed (phraseOf (ts.take n)) = some m)
    (h : IsGreedyScan index (m.path :: claimed) (ts.drop n) spans) :
    IsGreedyScan index claimed ts (⟨0, n, m⟩ :: spans.map (Span.shift n)) where
  inside := by
    intro span hspan
    rcases List.mem_cons.mp hspan with rfl | hspan
    · exact ⟨hn, by simpa [Span.stop] using hlength⟩
    · obtain ⟨inner, hinner, rfl⟩ := List.mem_map.mp hspan
      obtain ⟨hsize, hstop⟩ := h.inside inner hinner
      rw [List.length_drop] at hstop
      refine ⟨hsize, ?_⟩
      rw [Span.stop_shift]
      omega
  apart := by
    refine List.pairwise_cons.mpr ⟨fun span hspan => ?_, ?_⟩
    · obtain ⟨inner, -, rfl⟩ := List.mem_map.mp hspan
      simp [Span.stop]
    · refine List.pairwise_map.mpr (h.apart.imp fun {a b} hab => ?_)
      simpa using hab
  sound := by
    intro span hspan
    rcases List.mem_cons.mp hspan with rfl | hspan
    · rw [isFree_zero]
      exact isPhraseMatch_of_matchPhrase hmatch
    · obtain ⟨inner, hinner, rfl⟩ := List.mem_map.mp hspan
      rw [Span.start_shift, isFree_phrase (by omega), ← List.drop_drop]
      exact h.sound inner hinner
  complete := by
    intro i hout a ha b hb name path hentry hfree
    have hbehind : n ≤ i := by
      have hfirst := hout _ List.mem_cons_self
      simpa [Span.Covers, Span.stop] using hfirst
    obtain ⟨i, rfl⟩ := Nat.exists_eq_add_of_le hbehind
    rw [isFree_phrase (by omega)] at hfree
    refine h.complete i (fun span hspan => ?_) a ?_ b ?_ name path hentry hfree
    · have hshifted := hout (span.shift n) (List.mem_cons_of_mem _ (List.mem_map_of_mem hspan))
      rwa [Span.covers_shift] at hshifted
    · rwa [List.getElem?_drop]
    · rwa [List.getElem?_drop]

end IsGreedyScan

/-- The spans of a scan that tries two words everywhere are those of a greedy scan. -/
theorem isGreedyScan_scanPhrases (htwo : 2 ∈ lengths) (hlengths : ∀ n ∈ lengths, 2 ≤ n) :
    IsGreedyScan index claimed ts (spansOf (scanPhrases index lengths claimed ts)) := by
  fun_induction scanPhrases index lengths claimed ts with
  | case1 => exact .nil
  | case2 claimed t rest n m hspan ih =>
      obtain ⟨hn, hlength, hmatch⟩ := matchSpan_cases hspan
      have htwoWords := hlengths n hn
      have hdrop : (t :: rest).drop n = rest.drop (n - 1) := by
        rw [List.drop_cons (by omega)]
      rw [spansOf_phrase fun slot hslot => isTail_head?_scanPhrases hslot,
        length_tails (by omega) hlength]
      exact .head htwoWords hlength hmatch (hdrop ▸ ih)
  | case3 claimed t rest hspan ih =>
      rw [spansOf_plain]
      refine .plain (fun b hb => ?_) ih
      -- The two words have been tried, whatever else was.
      obtain ⟨more, rfl⟩ : ∃ more, rest = b :: more := by
        cases rest with
        | nil => simp at hb
        | cons u more => exact ⟨more, by simpa using hb⟩
      have htried := List.findSome?_eq_none_iff.mp hspan 2 htwo
      rw [if_pos (by simp), Option.map_eq_none_iff] at htried
      exact htried

theorem map_found_spansOf (slots : List Slot) :
    (spansOf slots).map (·.found) = phraseMatches slots := by
  have hshift : ∀ n (spans : List Span),
      (spans.map (Span.shift n)).map (·.found) = spans.map (·.found) := by
    intro n spans
    simp
  induction slots with
  | nil => rfl
  | cons slot rest ih => cases slot <;> simp only [spansOf, List.map_cons, hshift, ih] <;> rfl

theorem isGreedyScan_phraseSlots (index : Mappings) (transcript : String) :
    IsGreedyScan index [] (tokens transcript.toList) (spansOf (phraseSlots index transcript)) :=
  isGreedyScan_scanPhrases (by decide) (by decide)

/-- **The scan for phrases is greedy.**  What it accepts are the spans of a greedy scan from left to
right that begins with nothing claimed, and the matches of the spans are those of the phrases. -/
theorem phrases_are_greedy (index : Mappings) (transcript : String) :
    IsGreedyScan index [] (tokens transcript.toList) (spansOf (phraseSlots index transcript)) ∧
      (spansOf (phraseSlots index transcript)).map (·.found)
        = phraseMatches (phraseSlots index transcript) :=
  ⟨isGreedyScan_phraseSlots index transcript, map_found_spansOf _⟩

/-- An index of a card, which is a component too, and of a list of cards. -/
def cardIndex : Mappings :=
  { Mappings.empty with
    files := .ofList [("user-card.tsx", "/r/user-card.tsx"), ("user-card", "/r/user-card.tsx"),
      ("user-card-list.ts", "/r/user-card-list.ts"), ("user-card-list", "/r/user-card-list.ts")]
    components := .ofList [("User_Card", "/r/user-card.tsx")] }

/-- The first time the component is meant, which has the very name and comes before its file.  Then
both are taken, and the same two words mean the list. -/
theorem phrases_are_greedy_cardIndex :
    let transcript := "Open user card and User Card list"
    let spans : List Span :=
      [⟨1, 2, ⟨"User_Card (user-card.tsx)", "/r/user-card.tsx", .component, .exact⟩⟩,
        ⟨4, 2, ⟨"user-card-list.ts", "/r/user-card-list.ts", .file, .onBoundary⟩⟩]
    spansOf (phraseSlots cardIndex transcript) = spans ∧
      IsGreedyScan cardIndex [] (tokens transcript.toList) spans := by
  intro transcript spans
  have hspans : spansOf (phraseSlots cardIndex transcript) = spans := by cbv
  refine ⟨hspans, ?_⟩
  rw [← hspans]
  exact (phrases_are_greedy cardIndex transcript).1

end SpokenIndex.Matching
