/-
What the passes over a marked text cost.

Text on a display goes through several passes: opening brackets are freed of their
backslashes, names of emoji replaced, control characters dropped, tabulators filled up.
Few characters make a display do anything (`isActive`), and each pass that changes a text
uses up some of them without bringing in any new ones; for emoji that is a fact about the
table of their names.  So passes cannot undo each other.  A text comes out of all of them
as it was if and only if each of them leaves it alone (`ComesOut.trans`), and each pass
has its own condition for that.
-/
import Mathlib.Data.List.TakeWhile
import SpokenIndex.Display.Markup
import SpokenIndex.Display.Lines

namespace SpokenIndex.Display

open SpokenIndex.Text (isBlank)

/-! ### Active characters -/

/-- Whether a character makes a display do something else than show it. -/
def isActive (c : Char) : Bool :=
  ['[', '\\', ':', '\t'].contains c || isDropped c

/-- How many characters of a text make a display do something. -/
def active (s : List Char) : Nat := s.countP isActive

@[simp] theorem active_nil : active [] = 0 := rfl

theorem active_cons_of_pos {c : Char} (hc : isActive c = true) (s : List Char) :
    active (c :: s) = active s + 1 :=
  List.countP_cons_of_pos hc

theorem active_cons_of_neg {c : Char} (hc : isActive c = false) (s : List Char) :
    active (c :: s) = active s :=
  List.countP_cons_of_neg (by simp [hc])

@[simp] theorem active_append (a b : List Char) : active (a ++ b) = active a + active b :=
  List.countP_append

@[simp] theorem active_reverse (s : List Char) : active s.reverse = active s :=
  List.countP_reverse

theorem active_eq_zero_iff {s : List Char} : active s = 0 ↔ ∀ c ∈ s, isActive c = false := by
  simp [active, List.countP_eq_zero]

theorem active_le_cons (c : Char) (s : List Char) : active s ≤ active (c :: s) :=
  (List.sublist_cons_self c s).countP_le

/-- Active characters lie below the signs and digits, or between digits and small letters. -/
theorem toNat_of_isActive {c : Char} (h : isActive c = true) :
    c.toNat < 14 ∨ 58 ≤ c.toNat ∧ c.toNat ≤ 92 := by
  rw [isActive, Bool.or_eq_true] at h
  rcases h with h | h
  · simp only [List.contains_eq_mem, decide_eq_true_eq, List.mem_cons, List.not_mem_nil,
      or_false] at h
    rcases h with rfl | rfl | rfl | rfl <;> decide
  · simp only [isDropped, List.contains_eq_mem, decide_eq_true_eq, List.mem_cons,
      List.not_mem_nil, or_false] at h
    omega

theorem isActive_eq_false {c : Char} (h : 92 < c.toNat ∨ 14 ≤ c.toNat ∧ c.toNat < 58) :
    isActive c = false := by
  by_contra hactive
  have hbounds := toNat_of_isActive (Bool.not_eq_false _ ▸ hactive)
  omega

theorem isActive_ofNat {code : Nat} (h : 92 < code ∨ 14 ≤ code ∧ code < 58) :
    isActive (Char.ofNat code) = false := by
  by_cases hvalid : code.isValidChar
  · have hcode : (Char.ofNat code).toNat = code := by
      rw [Char.ofNat, dif_pos hvalid]
      exact UInt32.toNat_ofNatLT
    exact isActive_eq_false (hcode.symm ▸ h)
  · rw [Char.ofNat, dif_neg hvalid]
    decide

/-- How a text comes out of a pass: as it is if `p`, and otherwise with fewer active characters
than it had. -/
inductive ComesOut (p : Prop) (s r : List Char) : Prop
  | same (hp : p) (heq : r = s)
  | less (hp : ¬ p) (hlt : active r < active s)

namespace ComesOut

variable {p q : Prop} {s r t : List Char}

theorem active_le (h : ComesOut p s r) : active r ≤ active s := by
  rcases h with ⟨-, rfl⟩ | ⟨-, hlt⟩
  · exact Nat.le_refl _
  · exact Nat.le_of_lt hlt

theorem eq_iff (h : ComesOut p s r) : r = s ↔ p := by
  rcases h with ⟨hp, heq⟩ | ⟨hp, hlt⟩
  · exact iff_of_true heq hp
  · refine iff_of_false (fun heq => ?_) hp
    rw [heq] at hlt
    exact Nat.lt_irrefl _ hlt

theorem congr (h : ComesOut p s r) (hpq : p ↔ q) : ComesOut q s r := by
  rwa [← hpq]

/-- A character that is passed over changes nothing. -/
theorem cons (h : ComesOut p s r) (c : Char) : ComesOut p (c :: s) (c :: r) := by
  rcases h with ⟨hp, heq⟩ | ⟨hp, hlt⟩
  · exact .same hp (by rw [heq])
  · refine .less hp ?_
    rw [active, active, List.countP_cons, List.countP_cons]
    exact Nat.add_lt_add_right hlt _

theorem append_left (h : ComesOut p s r) (front : List Char) :
    ComesOut p (front ++ s) (front ++ r) := by
  induction front with
  | nil => exact h
  | cons c front ih => exact ih.cons c

/-- Two passes in turn leave a text alone if each of them does. -/
theorem trans {Q : List Char → Prop} (h : ComesOut p s r) (hnext : ComesOut (Q r) r t) :
    ComesOut (p ∧ Q s) s t := by
  rcases h with ⟨hp, rfl⟩ | ⟨hp, hlt⟩
  · exact hnext.congr (by simp [hp])
  · exact .less (fun hboth => hp hboth.1) (Nat.lt_of_le_of_lt hnext.active_le hlt)

/-- A text without active characters is left alone. -/
theorem of_active_eq_zero (h : ComesOut p s r) (hs : active s = 0) : p := by
  rcases h with ⟨hp, -⟩ | ⟨-, hlt⟩
  · exact hp
  · rw [hs] at hlt
    exact absurd hlt (Nat.not_lt_zero _)

end ComesOut

/-! ### Control characters and tabulators -/

theorem isActive_of_isDropped {c : Char} (h : isDropped c = true) : isActive c = true := by
  rw [isActive, h, Bool.or_true]

theorem comesOut_filter (s : List Char) :
    ComesOut (∀ c ∈ s, isDropped c = false) s (s.filter fun c => !isDropped c) := by
  induction s with
  | nil => exact .same (by simp) rfl
  | cons c rest ih =>
    by_cases hc : isDropped c = true
    · refine .less (fun h => ?_) ?_
      · rw [h c List.mem_cons_self] at hc
        exact Bool.noConfusion hc
      · rw [List.filter_cons_of_neg (by simp [hc]),
          active_cons_of_pos (isActive_of_isDropped hc)]
        exact Nat.lt_succ_of_le ih.active_le
    · rw [Bool.not_eq_true] at hc
      rw [List.filter_cons_of_pos (by simp [hc])]
      exact (ih.cons c).congr (by simp [hc])

@[simp] theorem active_blanks (n : Nat) : active (blanks n) = 0 := by
  rw [active_eq_zero_iff]
  intro c hc
  rw [List.eq_of_mem_replicate hc]
  decide

theorem comesOut_expandTabs (s : List Char) (used : Nat) :
    ComesOut ('\t' ∉ s) s (expandTabs used s) := by
  induction s generalizing used with
  | nil => exact .same (by simp) rfl
  | cons c rest ih =>
    by_cases hc : c = '\t'
    · subst hc
      refine .less (fun h => h List.mem_cons_self) ?_
      rw [expandTabs, if_pos (by decide), active_append, active_blanks, Nat.zero_add,
        active_cons_of_pos (by decide)]
      exact Nat.lt_succ_of_le (ih _).active_le
    · rw [expandTabs, if_neg (by simpa using hc)]
      exact ((ih _).cons c).congr (by simp [Ne.symm hc])

/-! ### Brackets freed of a backslash -/

theorem freeBrackets_cons {c : Char} {rest : List Char}
    (h : ¬ ['\\', '['] <+: c :: rest) : freeBrackets (c :: rest) = c :: freeBrackets rest := by
  rw [freeBrackets]
  intro after hc hrest
  exact h ⟨after, by rw [hc, hrest]; rfl⟩

theorem comesOut_freeBrackets (s : List Char) :
    ComesOut (¬ ['\\', '['] <:+: s) s (freeBrackets s) := by
  induction s using freeBrackets.induct with
  | case1 rest ih =>
    refine .less (fun h => h ⟨[], rest, rfl⟩) ?_
    rw [freeBrackets, active_cons_of_pos (by decide), active_cons_of_pos (by decide),
      active_cons_of_pos (by decide)]
    exact Nat.lt_succ_of_le (Nat.succ_le_succ ih.active_le)
  | case2 c rest hne ih =>
    have hfront : ¬ ['\\', '['] <+: c :: rest := by
      rintro ⟨after, heq⟩
      obtain ⟨hc, hrest⟩ := List.cons.inj heq
      exact hne after hc.symm hrest.symm
    rw [freeBrackets_cons hfront]
    exact (ih.cons c).congr (by rw [List.infix_cons_iff, or_iff_right hfront])
  | case3 => exact .same (by simp) rfl

/-! ### What stands before a closing character -/

/-- The characters up to a closing one and those behind it, if no barred one comes before. -/
def upTo (close : Char) (isBarred : Char → Bool) : List Char → Option (List Char × List Char)
  | [] => none
  | c :: rest =>
    if c == close then some ([], rest)
    else if isBarred c then none
    else (upTo close isBarred rest).map fun (inside, after) => (c :: inside, after)

theorem upTo_eq_some_iff {close : Char} {isBarred : Char → Bool} {s inside after : List Char} :
    upTo close isBarred s = some (inside, after) ↔
      (∀ c ∈ inside, c ≠ close ∧ isBarred c = false) ∧ s = inside ++ close :: after := by
  induction s generalizing inside with
  | nil => simp [upTo]
  | cons c rest ih =>
    rw [upTo]
    by_cases hclose : c = close
    · rw [if_pos (by simp [hclose]), hclose]
      cases inside with
      | nil => simp
      | cons d inside =>
        refine iff_of_false (by simp) fun h => ?_
        exact (h.1 d List.mem_cons_self).1 (List.cons.inj h.2).1.symm
    rw [if_neg (by simpa using hclose)]
    by_cases hbarred : isBarred c = true
    · rw [if_pos hbarred]
      refine iff_of_false (by simp) fun h => ?_
      cases inside with
      | nil => exact hclose (List.cons.inj h.2).1
      | cons d inside =>
        rw [(List.cons.inj h.2).1, (h.1 d List.mem_cons_self).2] at hbarred
        exact Bool.noConfusion hbarred
    rw [if_neg hbarred, Option.map_eq_some_iff]
    rw [Bool.not_eq_true] at hbarred
    constructor
    · rintro ⟨⟨front, behind⟩, hrest, heq⟩
      obtain ⟨rfl, rfl⟩ := Prod.mk.inj heq
      obtain ⟨hfront, rfl⟩ := ih.mp hrest
      exact ⟨by simpa [hclose, hbarred] using hfront, rfl⟩
    · rintro ⟨hinside, heq⟩
      cases inside with
      | nil => exact absurd (List.cons.inj heq).1 hclose
      | cons d inside =>
        obtain ⟨rfl, rfl⟩ := List.cons.inj heq
        exact ⟨(inside, after), ih.mpr ⟨fun e he => hinside e (List.mem_cons_of_mem _ he), rfl⟩,
          rfl⟩

theorem upToColon_eq (s : List Char) : upToColon s = upTo ':' isBlank s := by
  induction s with
  | nil => rfl
  | cons c rest ih => rw [upToColon, upTo, ih]

theorem upToBracket_eq (s : List Char) : upToBracket s = upTo ']' (· == '[') s := by
  induction s with
  | nil => rfl
  | cons c rest ih => rw [upToBracket, upTo, ih]

/-! ### Names of emoji -/

/-- What a name between colons is made of: neither colons nor blanks. -/
def IsUnbroken (inside : List Char) : Prop :=
  ∀ c ∈ inside, c ≠ ':' ∧ isBlank c = false

/-- Whether a text between colons names an emoji, the end that tells a variant apart. -/
def NamesEmoji (inside : List Char) : Prop :=
  (emoji? (Text.lower (nameAndVariant inside).1)).isSome

/-- A text in which no emoji is named.  It is read from the left: a colon goes together with the
next one if no blank is between them, and neither of the two belongs to another name. -/
inductive IsNameless : List Char → Prop
  | nil : IsNameless []
  | other {c : Char} {rest : List Char} (hc : c ≠ ':') (h : IsNameless rest) :
      IsNameless (c :: rest)
  | lone {rest : List Char}
      (hlone : ∀ inside after, IsUnbroken inside → rest ≠ inside ++ ':' :: after)
      (h : IsNameless rest) : IsNameless (':' :: rest)
  | pair {inside after : List Char} (hinside : IsUnbroken inside) (hname : ¬ NamesEmoji inside)
      (h : IsNameless after) : IsNameless (':' :: (inside ++ ':' :: after))

theorem upToColon_eq_some_iff {s inside after : List Char} :
    upToColon s = some (inside, after) ↔ IsUnbroken inside ∧ s = inside ++ ':' :: after := by
  rw [upToColon_eq, upTo_eq_some_iff, IsUnbroken]

namespace IsNameless

variable {c : Char} {rest inside after : List Char}

theorem cons_iff_of_ne (hc : c ≠ ':') : IsNameless (c :: rest) ↔ IsNameless rest := by
  constructor
  · intro h
    cases h with
    | other _ h => exact h
    | lone _ _ => exact absurd rfl hc
    | pair _ _ _ => exact absurd rfl hc
  · exact IsNameless.other hc

theorem colon_iff_of_none (h : upToColon rest = none) :
    IsNameless (':' :: rest) ↔ IsNameless rest := by
  have hlone : ∀ inside after, IsUnbroken inside → rest ≠ inside ++ ':' :: after := by
    intro inside after hinside heq
    rw [upToColon_eq_some_iff.mpr ⟨hinside, heq⟩] at h
    cases h
  constructor
  · intro h
    cases h with
    | other hc _ => exact absurd rfl hc
    | lone _ h => exact h
    | @pair inside after hinside _ _ => exact absurd rfl (hlone inside after hinside)
  · exact IsNameless.lone hlone

theorem colon_iff_of_some (h : upToColon rest = some (inside, after)) :
    IsNameless (':' :: rest) ↔ ¬ NamesEmoji inside ∧ IsNameless after := by
  obtain ⟨hinside, rfl⟩ := upToColon_eq_some_iff.mp h
  constructor
  · intro hnameless
    generalize hs : ':' :: (inside ++ ':' :: after) = s at hnameless
    cases hnameless with
    | nil => cases hs
    | other hc _ => exact absurd (List.cons.inj hs).1.symm hc
    | lone hlone _ => exact absurd (List.cons.inj hs).2.symm (hlone inside after hinside)
    | @pair front behind hfront hname hbehind =>
      rw [upToColon_eq_some_iff.mpr ⟨hfront, (List.cons.inj hs).2⟩] at h
      obtain ⟨rfl, rfl⟩ := Prod.mk.inj (Option.some.inj h)
      exact ⟨hname, hbehind⟩
  · rintro ⟨hname, hafter⟩
    exact IsNameless.pair hinside hname hafter

end IsNameless

/-- Among the characters of emoji are digits and two signs; the others are beyond the letters. -/
theorem emojiNames_codes :
    ∀ e ∈ emojiNames, ∀ code ∈ e.2, 92 < code ∨ 14 ≤ code ∧ code < 58 := by
  decide +kernel

theorem active_emoji {name found : List Char} (h : emoji? name = some found) :
    active found = 0 := by
  obtain ⟨e, he, rfl⟩ := Option.map_eq_some_iff.mp h
  rw [active_eq_zero_iff]
  intro c hc
  obtain ⟨code, hcode, rfl⟩ := List.mem_map.mp hc
  exact isActive_ofNat (emojiNames_codes e (List.mem_of_find?_eq_some he) code hcode)

theorem active_variant (inside : List Char) : active (nameAndVariant inside).2 = 0 := by
  have hvariants : ∀ e ∈ emojiVariants, active [e.2] = 0 := by decide
  rw [nameAndVariant]
  split
  · rename_i ending mark h
    exact hvariants _ (List.mem_of_find?_eq_some h)
  · rfl

theorem emojiOrSelf_of_not_namesEmoji {inside : List Char} (h : ¬ NamesEmoji inside) :
    emojiOrSelf inside = ':' :: inside ++ [':'] := by
  rw [NamesEmoji, Option.not_isSome_iff_eq_none] at h
  simp only [emojiOrSelf, h]

theorem active_emojiOrSelf {inside : List Char} (h : NamesEmoji inside) :
    active (emojiOrSelf inside) = 0 := by
  obtain ⟨found, hfound⟩ := Option.isSome_iff_exists.mp h
  simp only [emojiOrSelf, hfound]
  rw [active_append, active_emoji hfound, active_variant]

/-- Emoji have no active characters, so a text in which one is named loses the two colons. -/
theorem comesOut_replaceEmojiWithin (limit : Nat) (s : List Char) (hlimit : s.length ≤ limit) :
    ComesOut (IsNameless s) s (replaceEmojiWithin limit s) := by
  induction limit generalizing s with
  | zero =>
    rw [List.eq_nil_of_length_eq_zero (Nat.le_zero.mp hlimit)]
    exact .same IsNameless.nil rfl
  | succ limit ih =>
    cases s with
    | nil => exact .same IsNameless.nil rfl
    | cons c rest =>
      have hrest := ih rest (Nat.le_of_succ_le_succ hlimit)
      rw [replaceEmojiWithin]
      by_cases hc : c ≠ ':'
      · rw [if_neg (by simpa using hc)]
        exact (hrest.cons c).congr (IsNameless.cons_iff_of_ne hc).symm
      obtain rfl : c = ':' := not_not.mp hc
      rw [if_pos (by decide)]
      cases hcolon : upToColon rest with
      | none => exact (hrest.cons ':').congr (IsNameless.colon_iff_of_none hcolon).symm
      | some found =>
        obtain ⟨inside, after⟩ := found
        obtain ⟨-, rfl⟩ := upToColon_eq_some_iff.mp hcolon
        have hafter := ih after (by simp at hlimit; omega)
        refine ComesOut.congr ?_ (IsNameless.colon_iff_of_some hcolon).symm
        show ComesOut _ _ (emojiOrSelf inside ++ replaceEmojiWithin limit after)
        by_cases hname : NamesEmoji inside
        · refine .less (fun h => h.1 hname) ?_
          rw [active_append, active_emojiOrSelf hname, Nat.zero_add,
            active_cons_of_pos (by decide), active_append]
          have hle := hafter.active_le
          have hcons := active_le_cons ':' after
          omega
        · rw [emojiOrSelf_of_not_namesEmoji hname, List.append_assoc]
          have hpassed := (hafter.cons ':').append_left (':' :: inside)
          exact hpassed.congr (by simp [hname])

/-! ### Text outside of tags -/

/-- A text in which nothing is freed of a backslash, replaced or dropped. -/
structure IsLiteral (s : List Char) : Prop where
  unescaped : ¬ ['\\', '['] <:+: s
  nameless : IsNameless s
  undropped : ∀ c ∈ s, isDropped c = false

theorem comesOut_shownText (s : List Char) : ComesOut (IsLiteral s) s (shownText s) := by
  have hfreed := comesOut_freeBrackets s
  have hnamed := comesOut_replaceEmojiWithin _ (freeBrackets s) (Nat.le_refl _)
  have hdropped := comesOut_filter (replaceEmoji (freeBrackets s))
  refine ((hfreed.trans hnamed).trans (Q := fun s => ∀ c ∈ s, isDropped c = false)
    hdropped).congr ?_
  exact ⟨fun h => ⟨h.1.1, h.1.2, h.2⟩, fun h => ⟨⟨h.unescaped, h.nameless⟩, h.undropped⟩⟩

end SpokenIndex.Display
