/-
What a display shows as it is written.

A marked text is cut into pieces, of which tags do not show and the others go through the
passes of `Proofs/Passes`.  A tag costs its bracket, or one of the backslashes before it,
and pieces side by side bring back nothing.  So what is shown of a text is the text if and
only if there is no tag in it and the passes leave it alone.

Last of all, blanks are dropped at the end of a line that is too long.  Blanks make the
display do nothing else, and no pass comes after that could bring them back.

Two tags that open and close a style show as if they were not there.
-/
import SpokenIndex.Display.Box
import SpokenIndex.Proofs.Fields
import SpokenIndex.Proofs.Passes

namespace SpokenIndex.Display

open SpokenIndex.Text (isBlank)

/-! ### Tags -/

/-- What can stand in the brackets of a tag. -/
def IsTag (inside : List Char) : Prop :=
  (∃ c, inside.head? = some c ∧ beginsTag c = true) ∧ ∀ c ∈ inside, c ≠ '[' ∧ c ≠ ']'

/-- Whether there is a tag in a text. -/
def HasTag (s : List Char) : Prop :=
  ∃ inside, IsTag inside ∧ '[' :: inside ++ [']'] <:+: s

theorem ne_brackets_of_beginsTag {c : Char} (h : beginsTag c = true) : c ≠ '[' ∧ c ≠ ']' := by
  constructor <;> rintro rfl <;> exact absurd h (by decide)

theorem upToBracket_eq_some_iff {s inside after : List Char} :
    upToBracket s = some (inside, after) ↔
      (∀ c ∈ inside, c ≠ '[' ∧ c ≠ ']') ∧ s = inside ++ ']' :: after := by
  rw [upToBracket_eq, upTo_eq_some_iff]
  simp only [beq_eq_false_iff_ne, and_comm]

theorem tagAt?_eq_some_iff {s inside after : List Char} :
    tagAt? s = some (inside, after) ↔ IsTag inside ∧ s = '[' :: inside ++ ']' :: after := by
  constructor
  · intro h
    unfold tagAt? at h
    split at h
    · rename_i c rest
      by_cases hc : beginsTag c = true
      · rw [if_pos hc, Option.map_eq_some_iff] at h
        obtain ⟨⟨front, behind⟩, hrest, heq⟩ := h
        obtain ⟨rfl, rfl⟩ := Prod.mk.inj heq
        obtain ⟨hfront, rfl⟩ := upToBracket_eq_some_iff.mp hrest
        refine ⟨⟨⟨c, rfl, hc⟩, ?_⟩, rfl⟩
        rw [List.forall_mem_cons]
        exact ⟨ne_brackets_of_beginsTag hc, hfront⟩
      · rw [if_neg hc] at h
        cases h
    · cases h
  · rintro ⟨⟨⟨c, hhead, hc⟩, hinside⟩, rfl⟩
    cases inside with
    | nil => cases hhead
    | cons d inside =>
      obtain rfl : d = c := Option.some.inj hhead
      have hrest : upToBracket (inside ++ ']' :: after) = some (inside, after) :=
        upToBracket_eq_some_iff.mpr ⟨fun e he => hinside e (List.mem_cons_of_mem _ he), rfl⟩
      rw [List.cons_append, List.cons_append, tagAt?, if_pos hc, hrest, Option.map_some]

/-- A tag begins at an opening bracket. -/
theorem hasTag_cons_iff {c : Char} {s : List Char} :
    HasTag (c :: s) ↔ (tagAt? (c :: s)).isSome ∨ HasTag s := by
  constructor
  · rintro ⟨inside, htag, hpart⟩
    rcases List.infix_cons_iff.mp hpart with ⟨after, heq⟩ | hpart
    · refine Or.inl (Option.isSome_iff_exists.mpr ⟨(inside, after), ?_⟩)
      rw [tagAt?_eq_some_iff, ← heq, List.append_assoc]
      exact ⟨htag, rfl⟩
    · exact Or.inr ⟨inside, htag, hpart⟩
  · rintro (h | ⟨inside, htag, hpart⟩)
    · obtain ⟨⟨inside, after⟩, h⟩ := Option.isSome_iff_exists.mp h
      obtain ⟨htag, heq⟩ := tagAt?_eq_some_iff.mp h
      refine ⟨inside, htag, [], after, ?_⟩
      rw [heq, List.nil_append, List.append_assoc]
      rfl
    · exact ⟨inside, htag, List.infix_cons_iff.mpr (Or.inr hpart)⟩

theorem hasTag_append_iff {front s : List Char} (hfront : '[' ∉ front) :
    HasTag (front ++ s) ↔ HasTag s := by
  induction front with
  | nil => rfl
  | cons c front ih =>
    rw [List.mem_cons, not_or] at hfront
    rw [List.cons_append, hasTag_cons_iff, ih hfront.2, or_iff_right]
    rw [Option.isSome_iff_exists]
    rintro ⟨⟨inside, after⟩, h⟩
    exact hfront.1 (List.cons.inj (tagAt?_eq_some_iff.mp h).2).1.symm

theorem not_hasTag_of_not_mem {s : List Char} (h : '[' ∉ s) : ¬ HasTag s := by
  rintro ⟨inside, -, hpart⟩
  exact h (hpart.subset (by simp))

/-! ### Pieces -/

@[simp] theorem active_replicate_backslash (n : Nat) : active (List.replicate n '\\') = n := by
  rw [active, List.countP_replicate, if_pos (by decide)]

theorem bracket_not_mem_backslashes (n : Nat) : '[' ∉ List.replicate n '\\' := by
  simp [List.mem_replicate]

theorem takeWhile_backslash (s : List Char) :
    s.takeWhile (· == '\\') = List.replicate (s.takeWhile (· == '\\')).length '\\' := by
  refine List.eq_replicate_iff.mpr ⟨rfl, fun c hc => ?_⟩
  simpa using List.mem_takeWhile_imp hc

/-- What is taken from the front of a text: a tag with the backslashes before it, backslashes, or a
character at which no tag begins. -/
theorem piecesFrom_cases (limit position : Nat) (plain : List Char) (c : Char)
    (rest : List Char) :
    (∃ n inside after, IsTag inside ∧
      c :: rest = List.replicate n '\\' ++ ('[' :: inside ++ ']' :: after) ∧
      piecesFrom (limit + 1) position plain (c :: rest)
        = .text plain.reverse :: .text (List.replicate (n / 2) '\\') ::
          (if n % 2 = 1 then Piece.text ('[' :: inside ++ [']'])
            else .tag inside (position + n)) ::
          piecesFrom limit (position + n + inside.length + 2) [] after) ∨
    (∃ n behind, 0 < n ∧ c :: rest = List.replicate n '\\' ++ behind ∧
      piecesFrom (limit + 1) position plain (c :: rest)
        = piecesFrom limit (position + n) (List.replicate n '\\' ++ plain) behind) ∨
    (tagAt? (c :: rest) = none ∧
      piecesFrom (limit + 1) position plain (c :: rest)
        = piecesFrom limit (position + 1) (c :: plain) rest) := by
  rw [piecesFrom]
  dsimp only
  have hslashes := takeWhile_backslash (c :: rest)
  have hsplit := List.prefix_iff_eq_append.mp
    (List.takeWhile_prefix (· == '\\') (l := c :: rest))
  generalize (c :: rest).takeWhile (· == '\\') = slashes at hslashes hsplit ⊢
  generalize slashes.length = n at hslashes hsplit ⊢
  subst hslashes
  generalize (c :: rest).drop n = behind at hsplit ⊢
  cases htag : tagAt? behind with
  | some found =>
    obtain ⟨inside, after⟩ := found
    obtain ⟨hinside, rfl⟩ := tagAt?_eq_some_iff.mp htag
    exact Or.inl ⟨n, inside, after, hinside, hsplit.symm, rfl⟩
  | none =>
    by_cases hzero : n = 0
    · subst hzero
      rw [List.replicate_zero, List.nil_append] at hsplit
      rw [hsplit] at htag
      exact Or.inr (Or.inr ⟨htag, if_pos rfl⟩)
    · exact Or.inr (Or.inl ⟨n, behind, Nat.pos_of_ne_zero hzero, hsplit.symm, if_neg hzero⟩)

theorem shownPieces_text_eq_ok_iff {openStyles : List String} {t r : List Char}
    {rest : List Piece} :
    shownPieces openStyles (.text t :: rest) = .ok r ↔
      ∃ more, shownPieces openStyles rest = .ok more ∧ r = shownText t ++ more := by
  rw [shownPieces]
  cases shownPieces openStyles rest with
  | error fault => simp [Except.map]
  | ok more => simp [Except.map, eq_comm]

/-- How a text is cut into pieces where `plain` is what is before, latest first: into one piece of
text if there is no tag in it, and otherwise into pieces of which less is shown. -/
def CutsInto (plain s : List Char) (found : List Piece) : Prop :=
  (¬ HasTag s ∧ found = [.text (plain.reverse ++ s)]) ∨
    (HasTag s ∧ ∀ openStyles r, shownPieces openStyles found = .ok r →
      active r < active plain + active s)

namespace CutsInto

variable {plain s r : List Char} {found : List Piece} {openStyles : List String}

theorem active_le (h : CutsInto plain s found) (hr : shownPieces openStyles found = .ok r) :
    active r ≤ active plain + active s := by
  rcases h with ⟨-, rfl⟩ | ⟨-, h⟩
  · obtain ⟨more, hmore, rfl⟩ := shownPieces_text_eq_ok_iff.mp hr
    obtain rfl : [] = more := Except.ok.inj hmore
    have hle := (comesOut_shownText (plain.reverse ++ s)).active_le
    rw [active_append, active_reverse] at hle
    rw [List.append_nil]
    exact hle
  · exact Nat.le_of_lt (h openStyles r hr)

/-- Characters in which no tag begins can be counted to what is before. -/
theorem of_front {front : List Char} (h : CutsInto (front.reverse ++ plain) s found)
    (htag : HasTag (front ++ s) ↔ HasTag s) : CutsInto plain (front ++ s) found := by
  rcases h with ⟨hno, rfl⟩ | ⟨hhas, h⟩
  · refine Or.inl ⟨fun hs => hno (htag.mp hs), ?_⟩
    rw [List.reverse_append, List.reverse_reverse, List.append_assoc]
  · refine Or.inr ⟨htag.mpr hhas, fun openStyles r hr => ?_⟩
    have hlt := h openStyles r hr
    rw [active_append, active_reverse] at hlt
    rw [active_append]
    omega

end CutsInto

/-- Of what is before a tag, of the tag with the backslashes before it and of what is behind it,
less is shown: the tag itself, or one of the backslashes, does not. -/
theorem active_shown_tag {n position : Nat} {plain inside after r : List Char}
    {openStyles : List String} {more : List Piece} (hafter : CutsInto [] after more)
    (hr : shownPieces openStyles (.text plain.reverse :: .text (List.replicate (n / 2) '\\') ::
      (if n % 2 = 1 then Piece.text ('[' :: inside ++ [']']) else .tag inside position) :: more)
        = .ok r) :
    active r < active plain
      + active (List.replicate n '\\' ++ ('[' :: inside ++ ']' :: after)) := by
  obtain ⟨_, hshown, rfl⟩ := shownPieces_text_eq_ok_iff.mp hr
  obtain ⟨_, hmarks, rfl⟩ := shownPieces_text_eq_ok_iff.mp hshown
  have hplain := (comesOut_shownText plain.reverse).active_le
  have hslashes := (comesOut_shownText (List.replicate (n / 2) '\\')).active_le
  have htag : active ('[' :: inside ++ ']' :: after)
      = active ('[' :: inside ++ [']']) + active after := by
    rw [← active_append, List.append_assoc]
    rfl
  have hopen : active ('[' :: inside ++ [']']) = active (inside ++ [']']) + 1 :=
    active_cons_of_pos (by decide) _
  rw [active_reverse] at hplain
  rw [active_replicate_backslash] at hslashes
  rw [active_append, active_append, active_append, active_replicate_backslash, htag]
  by_cases hodd : n % 2 = 1
  · rw [if_pos hodd] at hmarks
    obtain ⟨_, hmore, rfl⟩ := shownPieces_text_eq_ok_iff.mp hmarks
    have hinside := (comesOut_shownText ('[' :: inside ++ [']'])).active_le
    have hrest := hafter.active_le hmore
    rw [active_nil] at hrest
    rw [active_append]
    omega
  · rw [if_neg hodd, shownPieces] at hmarks
    cases hstyles : afterTag openStyles inside position with
    | error fault =>
      rw [hstyles] at hmarks
      cases hmarks
    | ok openStyles =>
      rw [hstyles] at hmarks
      have hrest := hafter.active_le hmarks
      rw [active_nil] at hrest
      omega

theorem cutsInto_piecesFrom (limit position : Nat) (plain s : List Char)
    (hlimit : s.length < limit) : CutsInto plain s (piecesFrom limit position plain s) := by
  induction limit generalizing position plain s with
  | zero => exact absurd hlimit (Nat.not_lt_zero _)
  | succ limit ih =>
    cases s with
    | nil =>
      exact Or.inl ⟨not_hasTag_of_not_mem List.not_mem_nil, by rw [piecesFrom, List.append_nil]⟩
    | cons c rest =>
      rcases piecesFrom_cases limit position plain c rest with
        ⟨n, inside, after, hinside, hs, hfound⟩ | ⟨n, behind, hn, hs, hfound⟩ | ⟨htag, hfound⟩
      · rw [hfound, hs]
        rw [hs] at hlimit
        simp only [List.length_append, List.length_cons] at hlimit
        refine Or.inr ⟨?_, fun openStyles r hr => ?_⟩
        · rw [hasTag_append_iff (bracket_not_mem_backslashes n)]
          exact ⟨inside, hinside, [], after, by rw [List.nil_append, List.append_assoc]; rfl⟩
        · exact active_shown_tag (ih _ [] after (by omega)) hr
      · rw [hfound, hs]
        rw [hs] at hlimit
        simp only [List.length_append, List.length_replicate] at hlimit
        refine CutsInto.of_front ?_ (hasTag_append_iff (bracket_not_mem_backslashes n))
        rw [List.reverse_replicate]
        exact ih _ _ behind (by omega)
      · rw [hfound]
        rw [List.length_cons] at hlimit
        have hrest : CutsInto ([c].reverse ++ plain) rest _ :=
          ih (position + 1) (c :: plain) rest (by omega)
        refine hrest.of_front ?_
        rw [List.singleton_append, hasTag_cons_iff, htag]
        simp

theorem cutsInto_pieces (s : List Char) : CutsInto [] s (pieces s) :=
  cutsInto_piecesFrom _ 0 [] s (Nat.lt_succ_self _)

theorem piecesFrom_of_not_hasTag {limit position : Nat} {plain s : List Char}
    (hlimit : s.length < limit) (htag : ¬ HasTag s) :
    piecesFrom limit position plain s = [.text (plain.reverse ++ s)] := by
  rcases cutsInto_piecesFrom limit position plain s hlimit with ⟨-, hcut⟩ | ⟨hhas, -⟩
  · exact hcut
  · exact absurd hhas htag

/-- A text without tags is shown in one piece. -/
theorem shownPieces_pieces_of_not_hasTag {s : List Char} (htag : ¬ HasTag s) :
    shownPieces [] (pieces s) = .ok (shownText s) := by
  rw [pieces, piecesFrom_of_not_hasTag (Nat.lt_succ_self _) htag, List.reverse_nil,
    List.nil_append, shownPieces, shownPieces, Except.map, List.append_nil]

/-- A text that is shown as it is, tags and all. -/
structure IsPlain (s : List Char) : Prop extends IsLiteral s where
  untagged : ¬ HasTag s

theorem shown_eq (p : String) : shown p = shownPieces [] (pieces p.toList) := by
  rw [shown]
  by_cases hbracket : p.toList.contains '[' = true
  · rw [if_pos hbracket]
  · rw [if_neg hbracket]
    have hno : '[' ∉ p.toList := by simpa using hbracket
    have hfreed : freeBrackets p.toList = p.toList := by
      rw [(comesOut_freeBrackets p.toList).eq_iff]
      exact fun hpart => hno (hpart.subset (by simp))
    rw [shownPieces_pieces_of_not_hasTag (not_hasTag_of_not_mem hno), shownText, hfreed]

theorem shown_of_isPlain {p : String} (h : IsPlain p.toList) : shown p = .ok p.toList := by
  rw [shown_eq, shownPieces_pieces_of_not_hasTag h.untagged,
    (comesOut_shownText p.toList).eq_iff.mpr h.toIsLiteral]

theorem comesOut_shown {p : String} {r : List Char} (h : shown p = .ok r) :
    ComesOut (IsPlain p.toList) p.toList r := by
  rw [shown_eq] at h
  rcases cutsInto_pieces p.toList with ⟨htag, -⟩ | ⟨htag, hcost⟩
  · rw [shownPieces_pieces_of_not_hasTag htag] at h
    obtain rfl : shownText p.toList = r := Except.ok.inj h
    exact (comesOut_shownText p.toList).congr
      ⟨fun hliteral => ⟨hliteral, htag⟩, fun hplain => hplain.toIsLiteral⟩
  · refine .less (fun hplain => hplain.untagged htag) ?_
    have hlt := hcost [] r h
    rwa [active_nil, Nat.zero_add] at hlt

/-! ### Lines -/

theorem length_dropEndWhile_eq_iff (q : Char → Bool) (s : List Char) :
    (Text.dropEndWhile q s).length = s.length ↔ ∀ c, s.getLast? = some c → q c = false := by
  have hlength : s.length = s.reverse.length := List.length_reverse.symm
  rw [Text.dropEndWhile, List.length_reverse, ← List.head?_reverse, hlength]
  cases s.reverse with
  | nil => simp
  | cons c rest =>
    by_cases hc : q c = true
    · have hle := (List.dropWhile_sublist q (l := rest)).length_le
      rw [List.dropWhile_cons_of_pos hc]
      simp [hc]
      omega
    · rw [Bool.not_eq_true] at hc
      rw [List.dropWhile_cons_of_neg (by simp [hc])]
      simp [hc]

theorem dropExcessBlanks_eq_self_iff (room : Nat) (line : List Char) :
    dropExcessBlanks room line = line ↔
      line.length ≤ room ∨ ∀ c, line.getLast? = some c → isBlank c = false := by
  have hle : (Text.dropEndWhile isBlank line).length ≤ line.length := by
    rw [Text.dropEndWhile, List.length_reverse]
    exact (List.dropWhile_sublist _).length_le.trans_eq List.length_reverse
  rw [dropExcessBlanks, List.take_eq_self_iff, ← length_dropEndWhile_eq_iff]
  omega

theorem active_dropExcessBlanks_le (room : Nat) (line : List Char) :
    active (dropExcessBlanks room line) ≤ active line :=
  (List.take_sublist _ _).countP_le

/-- A text that makes one line, which is the text. -/
structure IsVerbatim (room : Nat) (s : List Char) : Prop extends IsPlain s where
  unbroken : '\n' ∉ s
  untabbed : '\t' ∉ s
  /-- No blanks are dropped at its end. -/
  fits : s.length ≤ room ∨ ∀ c, s.getLast? = some c → isBlank c = false

/-- **What is shown verbatim.**  A marked text is shown as one line that is the text itself exactly
if there are no tags, no names of emoji and no brackets behind a backslash in it, no line ends,
tabulators or control characters, and if it does not end in blanks beyond the room. -/
theorem wholeLines_shown_iff (room : Nat) (p : String) :
    (∃ r, shown p = .ok r ∧ wholeLines room r = [p.toList]) ↔ IsVerbatim room p.toList := by
  constructor
  · rintro ⟨r, hr, hlines⟩
    obtain ⟨line, hfields, hline⟩ := List.map_eq_singleton_iff.mp hlines
    obtain rfl : line = r := by
      have hjoin := Text.joinWith_splitAt '\n' r
      rw [hfields] at hjoin
      simpa [Text.joinWith] using hjoin
    have hfield : line ∈ Text.splitAt '\n' line := by
      rw [hfields]
      exact List.mem_singleton_self line
    have hbroken : '\n' ∉ line := fun hmem =>
      absurd (Text.not_of_mem_splitWhen hfield '\n' hmem) (by decide)
    -- What the passes cost adds up to nothing, so each of them left the text alone.
    have hdropped := active_dropExcessBlanks_le room (expandTabs 0 line)
    rw [hline] at hdropped
    have hexpanded := comesOut_expandTabs line 0
    rcases comesOut_shown hr with ⟨hplain, rfl⟩ | ⟨-, hlt⟩
    · rcases hexpanded with ⟨htab, heq⟩ | ⟨-, hlt⟩
      · rw [heq, dropExcessBlanks_eq_self_iff] at hline
        exact ⟨hplain, hbroken, htab, hline⟩
      · exact absurd (Nat.lt_of_le_of_lt hdropped hlt) (Nat.lt_irrefl _)
    · exact absurd (Nat.lt_of_le_of_lt (Nat.le_trans hdropped hexpanded.active_le) hlt)
        (Nat.lt_irrefl _)
  · intro h
    refine ⟨p.toList, shown_of_isPlain h.toIsPlain, ?_⟩
    rw [wholeLines, Text.splitAt_of_not_mem h.unbroken, List.map_singleton,
      (comesOut_expandTabs p.toList 0).eq_iff.mpr h.untabbed,
      (dropExcessBlanks_eq_self_iff room p.toList).mpr h.fits]

/-! ### Words in a style -/

theorem piecesFrom_inactive {front : List Char} (hfront : active front = 0) (limit position : Nat)
    (plain rest : List Char) :
    piecesFrom (limit + front.length) position plain (front ++ rest)
      = piecesFrom limit (position + front.length) (front.reverse ++ plain) rest := by
  induction front generalizing position plain with
  | nil => rfl
  | cons c front ih =>
    rw [active_eq_zero_iff, List.forall_mem_cons] at hfront
    obtain ⟨hc, hrest⟩ := hfront
    have hslash : c ≠ '\\' := by rintro rfl; exact absurd hc (by decide)
    have hbracket : c ≠ '[' := by rintro rfl; exact absurd hc (by decide)
    have hnone : (c :: (front ++ rest)).takeWhile (· == '\\') = [] :=
      List.takeWhile_cons_of_neg (by simpa using hslash)
    have htag : tagAt? (c :: (front ++ rest)) = none := by
      rw [Option.eq_none_iff_forall_ne_some]
      rintro ⟨inside, after⟩ h
      exact hbracket (List.cons.inj (tagAt?_eq_some_iff.mp h).2).1
    rw [List.length_cons, ← Nat.add_assoc, List.cons_append, piecesFrom, hnone, List.length_nil,
      List.drop_zero, htag]
    dsimp only
    rw [if_pos rfl, ih (active_eq_zero_iff.mpr hrest), List.reverse_cons, List.append_assoc,
      List.singleton_append, Nat.add_right_comm]
    rfl

theorem piecesFrom_tag {inside : List Char} (h : IsTag inside) (limit position : Nat)
    (plain after : List Char) :
    piecesFrom (limit + 1) position plain ('[' :: inside ++ ']' :: after)
      = .text plain.reverse :: .text [] :: .tag inside position ::
        piecesFrom limit (position + inside.length + 2) [] after := by
  have htag : tagAt? ('[' :: inside ++ ']' :: after) = some (inside, after) :=
    tagAt?_eq_some_iff.mpr ⟨h, rfl⟩
  rw [List.cons_append] at htag ⊢
  have hnone : ('[' :: (inside ++ ']' :: after)).takeWhile (· == '\\') = [] :=
    List.takeWhile_cons_of_neg (by decide)
  rw [piecesFrom, hnone, List.length_nil, List.drop_zero, htag]
  rfl

theorem takeWhile_ne_of_not_mem {d : Char} {s : List Char} (h : d ∉ s) :
    s.takeWhile (· != d) = s :=
  List.takeWhile_eq_self_iff.mpr fun c hc => by
    simpa using fun heq : c = d => h (heq ▸ hc)

theorem afterTag_open {inside : List Char} (hname : '=' ∉ inside)
    (hopen : inside.head? ≠ some '/') (openStyles : List String) (position : Nat) :
    afterTag openStyles inside position = .ok (canonicalStyle inside :: openStyles) := by
  rw [afterTag.eq_def, takeWhile_ne_of_not_mem hname]
  dsimp only
  split
  · exact absurd rfl hopen
  · rfl

/-- A slash and the name of the style that was opened last close it. -/
theorem afterTag_close {inside : List Char} (hname : '=' ∉ inside)
    (hinside : Text.trim inside ≠ []) (openStyles : List String) (position : Nat) :
    afterTag (canonicalStyle (Text.trim inside) :: openStyles) ('/' :: inside) position
      = .ok openStyles := by
  have hslash : '=' ∉ '/' :: inside := by simpa using hname
  rw [afterTag.eq_def, takeWhile_ne_of_not_mem hslash]
  show (if (Text.trim inside).isEmpty then _ else _) = _
  rw [if_neg (by simpa using hinside), if_pos (by simp), List.erase_cons_head]

theorem shownText_of_active_eq_zero {s : List Char} (h : active s = 0) : shownText s = s :=
  (comesOut_shownText s).eq_iff.mpr ((comesOut_shownText s).of_active_eq_zero h)

/-- A word in a style of its own shows as it is, with the text behind it. -/
theorem shown_styled {p : String} {style word text : List Char}
    (hp : p.toList
      = '[' :: style ++ ']' :: (word ++ ('[' :: ('/' :: style) ++ ']' :: text)))
    (hstyle : IsTag style) (hopen : style.head? ≠ some '/') (hname : '=' ∉ style)
    (htrim : Text.trim style = style) (hword : active word = 0) (htext : active text = 0) :
    shown p = .ok (word ++ text) := by
  have hclose : IsTag ('/' :: style) := by
    refine ⟨⟨'/', rfl, by decide⟩, ?_⟩
    rw [List.forall_mem_cons]
    exact ⟨by decide, hstyle.2⟩
  have hne : Text.trim style ≠ [] := by
    obtain ⟨⟨c, hhead, -⟩, -⟩ := hstyle
    rw [htrim]
    rintro rfl
    cases hhead
  have hlength : p.toList.length + 1
      = style.length + style.length + text.length + 4 + 1 + word.length + 1 := by
    rw [hp]
    simp only [List.length_append, List.length_cons]
    omega
  have hbracket : '[' ∉ text := fun hmem =>
    absurd (active_eq_zero_iff.mp htext _ hmem) (by decide)
  have hbehind (position : Nat) :
      piecesFrom (style.length + style.length + text.length + 4) position [] text
        = [.text text] :=
    piecesFrom_of_not_hasTag (by omega) (not_hasTag_of_not_mem hbracket)
  have hshut := afterTag_close hname hne []
  rw [htrim] at hshut
  rw [shown_eq, pieces, hlength, hp, piecesFrom_tag hstyle, piecesFrom_inactive hword,
    piecesFrom_tag hclose, hbehind, List.append_nil, List.reverse_reverse, List.reverse_nil]
  simp only [shownPieces, afterTag_open hname hopen, hshut, shownText_of_active_eq_zero hword,
    shownText_of_active_eq_zero htext, shownText_of_active_eq_zero active_nil, Except.map,
    List.nil_append, List.append_nil]

end SpokenIndex.Display
