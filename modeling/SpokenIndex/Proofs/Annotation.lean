/-
Where everything stands in an annotated transcript.

An annotated transcript is made of one piece for each position that is not behind the head
of a phrase, in the order of the positions.  The piece is the marker of the word that was
matched there, else that of the phrase that begins there, else the token as it was spoken.
So a token outside the phrases can only give way to its own marker, and the marker of a
phrase only to that of the word at its head.

Tokens are what slots hold and spans are what slots say, so that each position has its
token, its span and its word, and the pieces can be told from these alone.  As a phrase has
two tokens, one token is left out for each phrase.
-/
import SpokenIndex.Proofs.Greedy

namespace SpokenIndex.Matching

open SpokenIndex.Text

variable {settings : MatcherSettings} {index : Mappings} {claimed : List String}
  {lengths : List Nat} {ts us : List Token} {t : Token} {m : Match} {slot : Slot}
  {after : List Slot} {n i : Nat} {spans : List Span}

/-! ### A slot and its position -/

/-- The token of a slot. -/
def Slot.token : Slot → Token
  | .plain t => t
  | .head t _ => t
  | .tail t => t

theorem Slot.token_of_openToken? (h : slot.openToken? = some t) : slot.token = t := by
  cases slot with
  | plain u => exact Option.some.inj h
  | head u found => exact Option.some.inj h
  | tail u => exact absurd h (Option.some_ne_none t).symm

/-- The scan for phrases keeps the tokens. -/
theorem map_token_scanPhrases : (scanPhrases index lengths claimed ts).map Slot.token = ts := by
  fun_induction scanPhrases index lengths claimed ts with
  | case1 => rfl
  | case2 claimed t rest n m hspan ih =>
      rw [List.cons_append, List.map_cons, List.map_append, ih, List.map_map]
      have htails : (rest.take (n - 1)).map (Slot.token ∘ Slot.tail) = rest.take (n - 1) :=
        List.map_id _
      rw [htails, List.take_append_drop]
      rfl
  | case3 claimed t rest hspan ih => rw [List.map_cons, ih]; rfl

/-- A position lies in a span behind its head. -/
def Span.HasTail (span : Span) (i : Nat) : Prop := span.start < i ∧ i < span.stop

instance (span : Span) (i : Nat) : Decidable (span.HasTail i) := inferInstanceAs (Decidable (_ ∧ _))

@[simp] theorem Span.hasTail_shift {span : Span} :
    (span.shift n).HasTail (n + i) ↔ span.HasTail i := by
  simp only [HasTail, start_shift, stop_shift, Nat.add_lt_add_iff_left]

/-- The span that begins at a position. -/
def headAt? (spans : List Span) (i : Nat) : Option Span :=
  spans.find? fun span => span.start == i

/-- One span begins where a span begins. -/
theorem IsGreedyScan.headAt?_eq {span : Span} (h : IsGreedyScan index claimed ts spans)
    (hspan : span ∈ spans) : headAt? spans span.start = some span := by
  obtain ⟨before, after, rfl⟩ := List.append_of_mem hspan
  refine List.find?_eq_some_iff_append.mpr ⟨beq_self_eq_true _, before, after, rfl, ?_⟩
  intro other hother
  have hapart := (List.pairwise_append.mp h.apart).2.2 other hother span List.mem_cons_self
  have hsize := (h.inside other (List.mem_append_left _ hother)).1
  have hne : other.start ≠ span.start := by
    rw [Span.stop] at hapart
    omega
  simpa using hne

/-- A slot is a head where a span begins, and has its match. -/
theorem phraseMatch?_of_getElem? {slots : List Slot} (h : slots[i]? = some slot) :
    slot.phraseMatch? = (headAt? (spansOf slots) i).map (·.found) := by
  have hfirst : ∀ spans : List Span, headAt? (spans.map (Span.shift 1)) 0 = none := by
    intro spans
    simp [headAt?]
  have hlater : ∀ (spans : List Span) j,
      (headAt? (spans.map (Span.shift 1)) (j + 1)).map (·.found)
        = (headAt? spans j).map (·.found) := by
    intro spans j
    rw [headAt?, List.find?_map, headAt?, Option.map_map]
    have hstart : ((fun span : Span => span.start == j + 1) ∘ Span.shift 1)
        = fun span => span.start == j := by
      funext span
      simp [Nat.add_comm 1]
    rw [hstart]
    rfl
  induction slots generalizing i with
  | nil => simp at h
  | cons first rest ih =>
      cases i with
      | zero =>
          obtain rfl : first = slot := by simpa using h
          cases first with
          | head t m => rfl
          | plain t => rw [spansOf, hfirst]; rfl
          | tail t => rw [spansOf, hfirst]; rfl
      | succ j =>
          rw [List.getElem?_cons_succ] at h
          rw [ih h]
          cases first with
          | head t m =>
              rw [← hlater]
              rfl
          | plain t => rw [spansOf, hlater]
          | tail t => rw [spansOf, hlater]

/-- A slot is a tail where a span has one. -/
theorem isTail_of_getElem? (hlengths : ∀ n ∈ lengths, 0 < n)
    (h : (scanPhrases index lengths claimed ts)[i]? = some slot) :
    slot.isTail = true ↔
      ∃ span ∈ spansOf (scanPhrases index lengths claimed ts), span.HasTail i := by
  fun_induction scanPhrases index lengths claimed ts generalizing i with
  | case1 => simp at h
  | case2 claimed t rest n m hspan ih =>
      obtain ⟨hn, hlength, -⟩ := matchSpan_cases hspan
      have htails := length_tails (hlengths n hn) hlength
      rw [spansOf_phrase fun slot hslot => isTail_head?_scanPhrases hslot, htails]
      rw [List.cons_append] at h
      rcases Nat.lt_or_ge i n with hin | hbehind
      · -- The first span decides, the others begin behind it.
        have hothers : ∀ span ∈ (spansOf (scanPhrases index lengths (m.path :: claimed)
            (rest.drop (n - 1)))).map (Span.shift n), ¬ span.HasTail i := by
          intro span hspan hgiven
          obtain ⟨inner, -, rfl⟩ := List.mem_map.mp hspan
          have hstart := hgiven.1
          rw [Span.start_shift] at hstart
          omega
        cases i with
        | zero =>
            obtain rfl : Slot.head t m = slot := by simpa using h
            simp [Slot.isTail, Slot.openToken?, Span.HasTail]
        | succ j =>
            rw [List.getElem?_cons_succ,
              List.getElem?_append_left (by rw [List.length_map]; omega)] at h
            obtain ⟨u, -, rfl⟩ := List.mem_map.mp (List.mem_of_getElem? h)
            refine iff_of_true rfl ⟨_, List.mem_cons_self, ?_⟩
            simpa [Span.HasTail, Span.stop] using hin
      · obtain ⟨j, rfl⟩ := Nat.exists_eq_add_of_le hbehind
        have hj : (scanPhrases index lengths (m.path :: claimed) (rest.drop (n - 1)))[j]?
            = some slot := by
          have hfront : (Slot.head t m :: (rest.take (n - 1)).map Slot.tail).length = n := by
            rw [List.length_cons, List.length_map, htails]
          rw [← h, ← List.cons_append, List.getElem?_append_right (by omega), hfront,
            Nat.add_sub_cancel_left]
        rw [ih hj]
        simp [Span.HasTail, Span.stop, Nat.add_assoc]
  | case3 claimed t rest hspan ih =>
      rw [spansOf_plain]
      cases i with
      | zero =>
          obtain rfl : Slot.plain t = slot := by simpa using h
          simp [Slot.isTail, Slot.openToken?, Span.HasTail]
      | succ j =>
          rw [List.getElem?_cons_succ] at h
          rw [ih h]
          simp [Nat.add_comm j]

/-- Phrases of two words have one tail each. -/
theorem countP_isTail_scanPhrases :
    (scanPhrases index [2] claimed ts).countP Slot.isTail
      = (phraseMatches (scanPhrases index [2] claimed ts)).length := by
  fun_induction scanPhrases index [2] claimed ts with
  | case1 => rfl
  | case2 claimed t rest n m hspan ih =>
      obtain ⟨hn, hlength, -⟩ := matchSpan_cases hspan
      obtain rfl := List.mem_singleton.mp hn
      obtain ⟨u, more, rfl⟩ : ∃ u more, rest = u :: more :=
        List.exists_cons_of_ne_nil (by rintro rfl; simp at hlength)
      rw [List.cons_append, phraseMatches_head, phraseMatches_tails, List.length_cons, ← ih]
      show (Slot.head t m :: Slot.tail u :: scanPhrases index [2] (m.path :: claimed) more).countP
        Slot.isTail = _
      rw [List.countP_cons_of_neg (by simp [Slot.isTail, Slot.openToken?]),
        List.countP_cons_of_pos rfl]
      rfl
  | case3 claimed t rest hspan ih =>
      rw [phraseMatches_plain, ← ih]
      simp [Slot.isTail, Slot.openToken?]

/-- Only slots that are no tails have a match of their word. -/
theorem isTail_of_mem_scanWords {slots : List Slot}
    (h : (slot, some m) ∈ scanWords settings index claimed slots) : slot.isTail = false := by
  obtain ⟨t, before, hopen, -⟩ := of_mem_scanWords h
  rw [Slot.isTail, hopen]
  rfl

/-! ### Pieces and positions -/

/-- The match of the word at a position. -/
def wordAt (slots : List (Slot × Option Match)) (i : Nat) : Option Match :=
  slots[i]?.bind Prod.snd

/-- The positions that are no tails of spans, left to right. -/
def keptPositions (spans : List Span) (n : Nat) : List Nat :=
  (List.range n).filter fun i => decide (∀ span ∈ spans, ¬ span.HasTail i)

/-- What is shown at a position: the marker of its word, else that of the span that begins there,
else the token as it was spoken. -/
def shownAt (texts : List (List Char)) (spans : List Span) (word : Nat → Option Match) (i : Nat) :
    String :=
  match word i, headAt? spans i with
  | some m, _ => m.marker
  | none, some span => span.found.marker
  | none, none => String.ofList (texts.getD i [])

theorem mem_keptPositions :
    i ∈ keptPositions spans n ↔ i < n ∧ ∀ span ∈ spans, ¬ span.HasTail i := by
  rw [keptPositions, List.mem_filter, List.mem_range, decide_eq_true_iff]

/-- What is picked from a list may be picked position by position. -/
theorem filterMap_range_getElem? {α β : Type} (f : α → Option β) (l : List α) :
    (List.range l.length).filterMap (fun i => l[i]?.bind f) = l.filterMap f := by
  induction l using List.reverseRecOn with
  | nil => rfl
  | append_singleton init a ih =>
      have hinit : (List.range init.length).filterMap (fun i => (init ++ [a])[i]?.bind f)
          = init.filterMap f := by
        rw [← ih]
        refine List.filterMap_congr fun i hi => ?_
        rw [List.getElem?_append_left (List.mem_range.mp hi)]
      rw [List.length_append, List.length_singleton, List.range_succ, List.filterMap_append, hinit,
        List.filterMap_append]
      refine congrArg _ ?_
      simp [List.filterMap_cons]

/-! ### The layout -/

variable {transcript : String}

/-- The layout of an annotated transcript with given tokens, spans and matches of words. -/
structure IsLayout (texts : List (List Char)) (spans : List Span) (word : Nat → Option Match)
    (annotated : String) : Prop where
  joined : annotated
    = " ".intercalate ((keptPositions spans texts.length).map (shownAt texts spans word))
  /-- The marker of every word appears. -/
  words : ∀ i m, word i = some m →
    i ∈ keptPositions spans texts.length ∧ shownAt texts spans word i = m.marker
  /-- The marker of a phrase appears unless its head is matched as a word. -/
  phrases : ∀ span ∈ spans, span.start ∈ keptPositions spans texts.length ∧
    (word span.start = none → shownAt texts spans word span.start = span.found.marker)
  /-- A token outside the phrases that is not matched appears as it was spoken. -/
  others : ∀ i text, texts[i]? = some text → (∀ span ∈ spans, ¬ span.Covers i) → word i = none →
    i ∈ keptPositions spans texts.length ∧
      shownAt texts spans word i = String.ofList text
  /-- One position is left out for each phrase. -/
  count : (keptPositions spans texts.length).length + spans.length = texts.length

theorem map_fst_slots (settings : MatcherSettings) (index : Mappings) (transcript : String) :
    (slots settings index transcript).map Prod.fst = phraseSlots index transcript :=
  map_fst_scanWords

/-- A slot of an answer is the slot of the scan for phrases at its position. -/
theorem getElem?_phraseSlots {word : Option Match}
    (h : (slots settings index transcript)[i]? = some (slot, word)) :
    (phraseSlots index transcript)[i]? = some slot := by
  rw [← map_fst_slots settings, List.getElem?_map, h]
  rfl

theorem isTail_iff_hasTail (h : (phraseSlots index transcript)[i]? = some slot) :
    slot.isTail = true ↔ ∃ span ∈ spansOf (phraseSlots index transcript), span.HasTail i :=
  isTail_of_getElem? (by decide) h

theorem not_hasTail (h : (phraseSlots index transcript)[i]? = some slot)
    (htail : slot.isTail = false) :
    ∀ span ∈ spansOf (phraseSlots index transcript), ¬ span.HasTail i := by
  intro span hspan hin
  rw [(isTail_iff_hasTail h).mpr ⟨span, hspan, hin⟩] at htail
  exact Bool.noConfusion htail

theorem isTail_of_wordAt (h : wordAt (slots settings index transcript) i = some m) :
    ∃ slot, (slots settings index transcript)[i]? = some (slot, some m) ∧
      slot.isTail = false := by
  obtain ⟨⟨slot, word⟩, hslot, hword⟩ := Option.bind_eq_some_iff.mp h
  obtain rfl : word = some m := hword
  exact ⟨slot, hslot, isTail_of_mem_scanWords (List.mem_of_getElem? hslot)⟩

/-- The token of a slot is the token at its position. -/
theorem getElem?_tokens (h : (phraseSlots index transcript)[i]? = some slot) :
    (tokens transcript.toList)[i]? = some slot.token := by
  have htokens : (phraseSlots index transcript).map Slot.token = tokens transcript.toList :=
    map_token_scanPhrases
  rw [← htokens, List.getElem?_map, h]
  rfl

theorem getElem?_words (h : (phraseSlots index transcript)[i]? = some slot) :
    (words transcript.toList)[i]? = some slot.token.spoken := by
  have htoken := getElem?_tokens h
  rw [tokens, List.getElem?_map] at htoken
  obtain ⟨w, hw, heq⟩ := Option.map_eq_some_iff.mp htoken
  rw [hw, ← heq]

/-- The piece of a slot is what is shown at its position. -/
theorem piece?_eq {word : Option Match}
    (h : (slots settings index transcript)[i]? = some (slot, word)) :
    piece? slot word =
      if ∀ span ∈ spansOf (phraseSlots index transcript), ¬ span.HasTail i then
        some (shownAt (words transcript.toList) (spansOf (phraseSlots index transcript))
          (wordAt (slots settings index transcript)) i)
      else none := by
  have hslot := getElem?_phraseSlots h
  have hhead := phraseMatch?_of_getElem? hslot
  have hword : wordAt (slots settings index transcript) i = word := by
    rw [wordAt, h]
    rfl
  cases slot with
  | tail t =>
      obtain ⟨span, hspan, hin⟩ := (isTail_iff_hasTail hslot).mp rfl
      rw [if_neg fun hnone => hnone span hspan hin]
      rfl
  | head t m =>
      obtain ⟨span, hspan, hfound⟩ := Option.map_eq_some_iff.mp hhead.symm
      rw [if_pos (not_hasTail hslot rfl), shownAt, hword, hspan]
      cases word with
      | some found => rfl
      | none => exact congrArg (fun m => some m.marker) hfound.symm
  | plain t =>
      have hnone : headAt? (spansOf (phraseSlots index transcript)) i = none :=
        Option.map_eq_none_iff.mp hhead.symm
      rw [if_pos (not_hasTail hslot rfl), shownAt, hword, hnone]
      cases word with
      | some found => rfl
      | none => simp [piece?, List.getD_eq_getElem?_getD, getElem?_words hslot, Slot.token]

theorem mem_keptPositions_of_not_isTail (h : (phraseSlots index transcript)[i]? = some slot)
    (htail : slot.isTail = false) :
    i ∈ keptPositions (spansOf (phraseSlots index transcript))
      (words transcript.toList).length := by
  exact mem_keptPositions.mpr
    ⟨(List.getElem?_eq_some_iff.mp (getElem?_words h)).1, not_hasTail h htail⟩

theorem length_slots (settings : MatcherSettings) (index : Mappings) (transcript : String) :
    (slots settings index transcript).length = (words transcript.toList).length := by
  rw [← List.length_map (f := Prod.fst), map_fst_slots, phraseSlots, length_scanPhrases, tokens,
    List.length_map]

/-- The pieces of an answer, told by positions. -/
theorem pieces_eq (settings : MatcherSettings) (index : Mappings) (transcript : String) :
    ((slots settings index transcript).filterMap fun (slot, word) => piece? slot word)
      = (keptPositions (spansOf (phraseSlots index transcript))
          (words transcript.toList).length).map
        (shownAt (words transcript.toList) (spansOf (phraseSlots index transcript))
          (wordAt (slots settings index transcript))) := by
  rw [keptPositions, ← List.filterMap_eq_map', List.filterMap_filter,
    ← length_slots settings index, ← filterMap_range_getElem?]
  refine List.filterMap_congr fun i hi => ?_
  obtain ⟨⟨slot, word⟩, hslot⟩ : ∃ a, (slots settings index transcript)[i]? = some a :=
    ⟨_, List.getElem?_eq_getElem (List.mem_range.mp hi)⟩
  rw [hslot, Option.bind_some]
  show piece? slot word = _
  rw [piece?_eq hslot]
  simp only [decide_eq_true_eq]

/-- Every phrase takes one position from those that are kept. -/
theorem length_keptPositions (index : Mappings) (transcript : String) :
    (keptPositions (spansOf (phraseSlots index transcript))
          (words transcript.toList).length).length
        + (spansOf (phraseSlots index transcript)).length
      = (words transcript.toList).length := by
  have hspans : (spansOf (phraseSlots index transcript)).length
      = (phraseSlots index transcript).countP Slot.isTail := by
    have htwo : phraseSlots index transcript
        = scanPhrases index [2] [] (tokens transcript.toList) :=
      scanPhrases_cons_of_le (by decide)
    rw [← List.length_map (f := (·.found)), map_found_spansOf, htwo, countP_isTail_scanPhrases]
  have hkept : (keptPositions (spansOf (phraseSlots index transcript))
        (words transcript.toList).length).length
      = (phraseSlots index transcript).countP fun slot => !slot.isTail := by
    have hshown : ∀ (slot : Slot) (word : Option Match),
        (piece? slot word).isSome = !slot.isTail := by
      intro slot word
      cases slot <;> cases word <;> rfl
    rw [← List.length_map, ← pieces_eq .standard, List.length_filterMap_eq_countP,
      ← map_fst_slots .standard, List.countP_map]
    refine List.countP_congr fun a _ => ?_
    rw [hshown, Function.comp_apply]
  have hslots : (phraseSlots index transcript).length = (words transcript.toList).length := by
    rw [← map_fst_slots .standard, List.length_map, length_slots]
  have hsplit := List.length_eq_countP_add_countP Slot.isTail (l := phraseSlots index transcript)
  simp only [Bool.not_eq_true, Bool.decide_eq_false] at hsplit
  rw [hspans, hkept, Nat.add_comm, ← hsplit, hslots]

/-- **How an answer is laid out.**  The annotated transcript has the layout of its tokens with the
spans of its phrases and the matches of its words, which are all the matches there are. -/
theorem resolve_isLayout (settings : MatcherSettings) (index : Mappings) (transcript : String) :
    IsLayout (words transcript.toList) (spansOf (phraseSlots index transcript))
        (wordAt (slots settings index transcript)) (resolve settings index transcript).annotated ∧
      discovered (slots settings index transcript)
        = (spansOf (phraseSlots index transcript)).map (·.found)
          ++ (List.range (words transcript.toList).length).filterMap
            (wordAt (slots settings index transcript)) := by
  have hgreedy := isGreedyScan_phraseSlots index transcript
  constructor
  · refine ⟨?_, ?_, ?_, ?_, length_keptPositions index transcript⟩
    · rw [resolve, pieces_eq]
    · intro i m hword
      obtain ⟨slot, hslot, htail⟩ := isTail_of_wordAt hword
      refine ⟨mem_keptPositions_of_not_isTail (getElem?_phraseSlots hslot) htail, ?_⟩
      rw [shownAt, hword]
    · intro span hspan
      have hhead := hgreedy.headAt?_eq hspan
      obtain ⟨slot, hslot⟩ : ∃ slot, (phraseSlots index transcript)[span.start]? = some slot := by
        have hstart : span.start < (phraseSlots index transcript).length := by
          obtain ⟨hsize, hstop⟩ := hgreedy.inside span hspan
          rw [phraseSlots, length_scanPhrases]
          rw [Span.stop] at hstop
          omega
        exact ⟨_, List.getElem?_eq_getElem hstart⟩
      have hmatch := phraseMatch?_of_getElem? hslot
      rw [hhead] at hmatch
      have htail : slot.isTail = false := by
        cases slot with
        | head t m => rfl
        | plain t => simp [Slot.phraseMatch?] at hmatch
        | tail t => simp [Slot.phraseMatch?] at hmatch
      refine ⟨mem_keptPositions_of_not_isTail hslot htail, fun hword => ?_⟩
      rw [shownAt, hword, hhead]
    · intro i text htext hout hword
      have hnone : headAt? (spansOf (phraseSlots index transcript)) i = none := by
        refine List.find?_eq_none.mpr fun span hspan hstart => hout span hspan ?_
        obtain rfl := beq_iff_eq.mp hstart
        have hsize := (hgreedy.inside span hspan).1
        exact ⟨Nat.le_refl _, by rw [Span.stop]; omega⟩
      refine ⟨mem_keptPositions.mpr ⟨(List.getElem?_eq_some_iff.mp htext).1, fun span hspan hin =>
        hout span hspan ⟨Nat.le_of_lt hin.1, hin.2⟩⟩, ?_⟩
      rw [shownAt, hword, hnone]
      simp [List.getD_eq_getElem?_getD, htext]
  · rw [discovered_slots, map_found_spansOf, ← length_slots settings index]
    exact congrArg _ (filterMap_range_getElem? Prod.snd _).symm

end SpokenIndex.Matching
