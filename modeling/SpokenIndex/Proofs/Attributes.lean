/-
The language that attributes tell.

The attributes of a script element are not taken apart.  Its language is read off the first
`lang` in their text that begins a word and has an equals sign and a word behind it.  When the
text is that of a list of attributes, such a place never reaches from one attribute into the
next.  So each attribute can be asked on its own what word it tells (`Attribute.told?`), and
the first word that is told decides (`firstLang?_attributesText`).

An attribute is asked about its name first.  Only the end of the name counts, since the equals
sign has to follow, and what stands before that end need not be the beginning of the name: the
dash of `data-lang` is as good.  Of the value the first word is taken, so `tsx-like` tells
`tsx`.  If nothing is told by the name, the value is searched as the whole text was.

Where only an attribute `lang` tells a word, and tells its whole value if that matters, the
language is what that attribute declares.
-/
import SpokenIndex.Proofs.Spelling
import SpokenIndex.Source.Vue

namespace SpokenIndex.Vue

open SpokenIndex.Text

variable {before : Option Char} {s name value rest tail word : List Char} {c : Char}

/-! ### What stands behind `lang` -/

/-- The word that begins the declaration of a language. -/
def langWord : List Char := "lang".toList

/-- The word at the front of a text, if there is one. -/
def frontWord? (s : List Char) : Option (List Char) :=
  let word := s.takeWhile isWordChar
  if word.isEmpty then none else some word

/-- A text without a quote at its front. -/
def unquoted (s : List Char) : List Char :=
  match s with
  | '"' :: more => more
  | '\'' :: more => more
  | _ => s

/-- The word behind an equals sign, if that is what comes next. -/
def behindEquals? (s : List Char) : Option (List Char) :=
  match s.dropWhile isBlank with
  | '=' :: more => frontWord? (unquoted (more.dropWhile isBlank))
  | _ => none

theorem unquoted_of_ne (hdouble : c ≠ '"') (hsingle : c ≠ '\'') (s : List Char) :
    unquoted (c :: s) = c :: s := by
  simp [unquoted, hdouble, hsingle]

theorem langValue?_eq (s : List Char) :
    langValue? s = (dropWord langWord s).bind behindEquals? := by
  rw [langValue?, langWord]
  cases dropWord "lang".toList s with
  | none => rfl
  | some rest => rfl

theorem frontWord?_append (hc : isWordChar c = false) (s rest : List Char) :
    frontWord? (s ++ c :: rest) = frontWord? s := by
  have hword : (s ++ c :: rest).takeWhile isWordChar = s.takeWhile isWordChar := by
    rw [List.takeWhile_append, List.takeWhile_cons_of_neg (by simp [hc]), List.append_nil]
    split_ifs with hwhole
    · exact ((List.takeWhile_prefix isWordChar).eq_of_length hwhole).symm
    · rfl
  rw [frontWord?, frontWord?, hword]

/-- Nothing but an equals sign may stand between the word and its value. -/
theorem behindEquals?_name (hname : ∀ c ∈ name, isBlank c = false ∧ c ≠ '=') (rest : List Char) :
    behindEquals? (name ++ '=' :: '"' :: rest) = if name = [] then frontWord? rest else none := by
  cases name with
  | nil => rfl
  | cons c name =>
      obtain ⟨hblank, hequals⟩ := hname c List.mem_cons_self
      rw [behindEquals?, List.cons_append, List.dropWhile_cons_of_neg (by simp [hblank])]
      simp [hequals]

/-- A text that can stand behind a quoted value: it is empty or begins with a space. -/
def IsSetOff (tail : List Char) : Prop :=
  tail = [] ∨ ∃ behind, tail = ' ' :: behind

theorem IsSetOff.frontWord? (h : IsSetOff tail) : frontWord? tail = none := by
  rcases h with rfl | ⟨behind, rfl⟩
  · rfl
  · rfl

/-- Nothing is found across the end of a quoted value. -/
theorem behindEquals?_value (hvalue : '"' ∉ value) (htail : IsSetOff tail) :
    behindEquals? (value ++ '"' :: tail) = behindEquals? value := by
  have hquote : isBlank '"' = false ∧ isWordChar '"' = false := by decide
  -- blanks are passed over, and what is left is the end of the value or another character of it
  have hpassed : ∀ s : List Char, (s ++ '"' :: tail).dropWhile isBlank
      = s.dropWhile isBlank ++ '"' :: tail := by
    intro s
    rw [List.dropWhile_append, List.dropWhile_cons_of_neg (by simp [hquote.1])]
    split_ifs with hblank
    · rw [List.isEmpty_iff.mp hblank, List.nil_append]
    · rfl
  have hrest : '"' ∉ value.dropWhile isBlank := fun hmem =>
    hvalue ((List.dropWhile_sublist isBlank).mem hmem)
  rw [behindEquals?, behindEquals?, hpassed]
  cases hsign : value.dropWhile isBlank with
  | nil => rfl
  | cons d more =>
      by_cases hequals : d = '='
      · subst hequals
        have hmore : '"' ∉ more.dropWhile isBlank := fun hmem =>
          hrest (hsign ▸ List.mem_cons_of_mem _ ((List.dropWhile_sublist isBlank).mem hmem))
        simp only [List.cons_append, hpassed]
        cases hword : more.dropWhile isBlank with
        | nil => exact htail.frontWord?
        | cons e word =>
            rw [hword] at hmore
            by_cases hsingle : e = '\''
            · subst hsingle
              exact frontWord?_append hquote.2 word tail
            · have hdouble : e ≠ '"' := fun heq => hmore (by simp [heq])
              rw [List.cons_append, unquoted_of_ne hdouble hsingle, unquoted_of_ne hdouble hsingle,
                ← List.cons_append, frontWord?_append hquote.2]
      · simp [hequals]

theorem langValue?_name (hname : ∀ c ∈ name, isBlank c = false ∧ c ≠ '=') (rest : List Char) :
    langValue? (name ++ '=' :: '"' :: rest)
      = if dropWord langWord name = some [] then frontWord? rest else none := by
  rw [langValue?_eq]
  cases hword : dropWord langWord name with
  | none =>
      have hletters : (langWord.all fun a => !sameLetter a '=') = true := by decide
      rw [dropWord_append_of_none (by simpa using hletters) hword]
      rfl
  | some behind =>
      have hbehind : ∀ c ∈ behind, isBlank c = false ∧ c ≠ '=' := fun c hc =>
        hname c ((dropWord_suffix hword).mem hc)
      rw [dropWord_append hword, Option.bind_some, behindEquals?_name hbehind]
      simp

theorem langValue?_value (hvalue : '"' ∉ value) (htail : IsSetOff tail) :
    langValue? (value ++ '"' :: tail) = langValue? value := by
  rw [langValue?_eq, langValue?_eq]
  cases hword : dropWord langWord value with
  | none =>
      have hletters : (langWord.all fun a => !sameLetter a '"') = true := by decide
      rw [dropWord_append_of_none (by simpa using hletters) hword]
  | some behind =>
      rw [dropWord_append hword, Option.bind_some, Option.bind_some]
      exact behindEquals?_value (fun hmem => hvalue ((dropWord_suffix hword).mem hmem)) htail

/-! ### The first word that is told -/

theorem firstLang?_cons (before : Option Char) (c : Char) (rest : List Char) :
    firstLang? before (c :: rest)
      = (if before.any isWordChar then none else langValue? (c :: rest)).or
          (firstLang? (some c) rest) := by
  rw [firstLang?]
  cases if before.any isWordChar then none else langValue? (c :: rest) <;> rfl

/-- What comes before a text only matters if it is part of a word. -/
theorem firstLang?_congr {other : Option Char}
    (h : before.any isWordChar = other.any isWordChar) (s : List Char) :
    firstLang? before s = firstLang? other s := by
  cases s with
  | nil => rfl
  | cons c rest => rw [firstLang?_cons, firstLang?_cons, h]

/-- Nothing is told where no `l` is. -/
theorem firstLang?_skip (hc : sameLetter 'l' c = false) (before : Option Char) (rest : List Char) :
    firstLang? before (c :: rest) = firstLang? (some c) rest := by
  have hnone : langValue? (c :: rest) = none := by
    rw [langValue?_eq, langWord, show "lang".toList = 'l' :: "ang".toList by rfl, dropWord,
      if_neg (by simp [hc])]
    rfl
  rw [firstLang?_cons, hnone]
  simp

/-- Whether the end of a name that follows `before` is `lang` at the beginning of a word. -/
def endsInLang (before : Option Char) : List Char → Bool
  | [] => false
  | c :: rest =>
    (!before.any isWordChar && dropWord langWord (c :: rest) == some []) || endsInLang (some c) rest

theorem endsInLang_congr {other : Option Char}
    (h : before.any isWordChar = other.any isWordChar) (name : List Char) :
    endsInLang before name = endsInLang other name := by
  cases name with
  | nil => rfl
  | cons c rest => rw [endsInLang, endsInLang, h]

theorem firstLang?_name (hname : ∀ c ∈ name, isBlank c = false ∧ c ≠ '=') (before : Option Char)
    (rest : List Char) :
    firstLang? before (name ++ '=' :: '"' :: rest)
      = (if endsInLang before name then frontWord? rest else none).or
          (firstLang? (some '"') rest) := by
  induction name generalizing before with
  | nil =>
      rw [List.nil_append, firstLang?_skip (by decide), firstLang?_skip (by decide)]
      rfl
  | cons c name ih =>
      have hrest := ih (fun d hd => hname d (List.mem_cons_of_mem _ hd)) (some c)
      have hhere := langValue?_name hname rest
      rw [List.cons_append] at hhere
      rw [List.cons_append, firstLang?_cons, hhere, hrest, endsInLang]
      by_cases hbefore : before.any isWordChar = true
      · simp [hbefore]
      · by_cases hword : dropWord langWord (c :: name) = some []
        · simp only [hbefore, hword, Bool.false_eq_true, ↓reduceIte, beq_self_eq_true,
            Bool.not_false, Bool.and_true, Bool.true_or]
          rw [← Option.or_assoc]
          split <;> simp
        · simp [hbefore, hword]

theorem firstLang?_value (hvalue : '"' ∉ value) (htail : IsSetOff tail) (before : Option Char) :
    firstLang? before (value ++ '"' :: tail)
      = (firstLang? before value).or (firstLang? (some '"') tail) := by
  induction value generalizing before with
  | nil =>
      rw [List.nil_append, firstLang?_skip (by decide)]
      rfl
  | cons c value ih =>
      have hrest := ih (fun hmem => hvalue (List.mem_cons_of_mem _ hmem)) (some c)
      have hhere := langValue?_value hvalue htail
      rw [List.cons_append] at hhere
      rw [List.cons_append, firstLang?_cons, firstLang?_cons, hhere, hrest, Option.or_assoc]

/-! ### Attributes -/

/-- An attribute: a name and a value that is written in double quotes. -/
structure Attribute where
  name : List Char
  value : List Char
  deriving DecidableEq

namespace Attribute

/-- The text of an attribute. -/
def text (a : Attribute) : List Char :=
  ' ' :: (a.name ++ '=' :: '"' :: (a.value ++ ['"']))

/-- An attribute is written properly. -/
structure IsProper (a : Attribute) : Prop where
  /-- Nothing in the name ends it. -/
  name : ∀ c ∈ a.name, isBlank c = false ∧ c ∉ ['=', '"', '\'', '>']
  /-- Nothing in the value ends it or the tag. -/
  value : ∀ c ∈ a.value, c ∉ ['"', '>']

theorem isProper_iff (a : Attribute) : a.IsProper ↔
    (a.name.all fun c => !isBlank c && !"=\"'>".toList.contains c) = true ∧
      (a.value.all fun c => !"\">".toList.contains c) = true := by
  constructor
  · intro h
    refine ⟨List.all_eq_true.mpr fun c hc => ?_, List.all_eq_true.mpr fun c hc => ?_⟩
    · obtain ⟨hblank, hend⟩ := h.name c hc
      simpa [hblank] using hend
    · simpa using h.value c hc
  · rintro ⟨hname, hvalue⟩
    refine ⟨fun c hc => ?_, fun c hc => ?_⟩
    · simpa using List.all_eq_true.mp hname c hc
    · simpa using List.all_eq_true.mp hvalue c hc

instance (a : Attribute) : Decidable a.IsProper := decidable_of_iff' _ (isProper_iff a)

/-- The name is `lang`, in any case. -/
def IsLang (a : Attribute) : Prop :=
  dropWord langWord a.name = some []

instance (a : Attribute) : Decidable a.IsLang := inferInstanceAs (Decidable (_ = _))

/-- The word that an attribute tells: the first of its value if its name ends in `lang`, or else
what the value tells if it is searched. -/
def told? (a : Attribute) : Option (List Char) :=
  (if endsInLang none a.name then frontWord? a.value else none).or (firstLang? none a.value)

variable {a : Attribute}

theorem IsProper.firstLang?_text (h : a.IsProper) (htail : IsSetOff tail) (before : Option Char) :
    firstLang? before (a.text ++ tail) = a.told?.or (firstLang? none tail) := by
  have hname : ∀ c ∈ a.name, isBlank c = false ∧ c ≠ '=' := fun c hc => by
    obtain ⟨hblank, hend⟩ := h.name c hc
    exact ⟨hblank, fun heq => hend (by simp [heq])⟩
  have hvalue : '"' ∉ a.value := fun hmem => h.value '"' hmem (by simp)
  have hspace : isWordChar ' ' = false ∧ isWordChar '"' = false := by decide
  have hstart : endsInLang (some ' ') a.name = endsInLang none a.name :=
    endsInLang_congr (by simp [hspace.1]) a.name
  have htext : a.text ++ tail = ' ' :: (a.name ++ '=' :: '"' :: (a.value ++ '"' :: tail)) := by
    simp [text]
  have hnone : ∀ c s, isWordChar c = false → firstLang? (some c) s = firstLang? none s :=
    fun c s hc => firstLang?_congr (by simp [hc]) s
  rw [htext, firstLang?_skip (by decide), firstLang?_name hname,
    frontWord?_append hspace.2, firstLang?_value hvalue htail, hnone _ _ hspace.2,
    hnone _ _ hspace.2, hstart, told?, Option.or_assoc]

end Attribute

/-- The text of attributes, one behind the other. -/
def attributesText (attributes : List Attribute) : List Char :=
  attributes.flatMap Attribute.text

variable {attributes : List Attribute}

theorem isSetOff_attributesText (attributes : List Attribute) :
    IsSetOff (attributesText attributes) := by
  cases attributes with
  | nil => exact Or.inl rfl
  | cons a rest => exact Or.inr ⟨_, rfl⟩

/-- The first word that is told by an attribute is the first word that is told. -/
theorem firstLang?_attributesText (h : ∀ a ∈ attributes, a.IsProper) :
    firstLang? none (attributesText attributes) = attributes.findSome? Attribute.told? := by
  induction attributes with
  | nil => rfl
  | cons a rest ih =>
      have htext : attributesText (a :: rest) = a.text ++ attributesText rest := rfl
      rw [htext, (h a List.mem_cons_self).firstLang?_text (isSetOff_attributesText rest),
        ih fun b hb => h b (List.mem_cons_of_mem _ hb), List.findSome?_cons]
      cases a.told? <;> rfl

/-! ### The language -/

/-- Whether a word is the name of a language with markup inside scripts. -/
def allowsMarkup (word : List Char) : Bool :=
  markupLanguages.contains (String.ofList (lower word))

theorem scriptLanguage_eq (s : List Char) :
    scriptLanguage s = if (firstLang? none s).any allowsMarkup then .tsx else .typescript := by
  rw [scriptLanguage]
  cases firstLang? none s <;> rfl

/-- The name of such a language is a word. -/
theorem frontWord?_of_allowsMarkup (h : allowsMarkup value = true) :
    frontWord? value = some value := by
  have hnames : markupLanguages.all (fun name => name.toList.all fun d =>
      d.toNat < 128 && d != 'k' && isWordChar d) = true := by decide
  have hsmall : ∀ d ∈ lower value, d.toNat < 128 ∧ d ≠ 'k' ∧ isWordChar d = true := by
    have hname := List.all_eq_true.mp hnames _ (List.contains_iff_mem.mp h)
    simpa [and_assoc] using hname
  have hwhole : value.takeWhile isWordChar = value :=
    List.takeWhile_eq_self_iff.mpr fun c hc => isWordChar_of_lower hsmall hc
  have hne : value ≠ [] := by
    rintro rfl
    exact absurd h (by decide)
  rw [frontWord?, hwhole]
  simp [hne]

/-- The language that an attribute `lang` declares. -/
def declaredLanguage (attributes : List Attribute) : Language :=
  if attributes.any fun a => decide a.IsLang && allowsMarkup a.value then .tsx else .typescript

/-- An attribute `lang` tells the language that it declares. -/
theorem Attribute.told?_of_isLang {a : Attribute} (h : a.IsLang)
    (hvalue : allowsMarkup a.value = true) : a.told? = some a.value := by
  have hname : endsInLang none a.name = true := by
    rw [IsLang] at h
    cases hname : a.name with
    | nil => simp [hname, langWord, dropWord] at h
    | cons c rest =>
      rw [hname] at h
      simp [endsInLang, h]
  rw [told?, hname, if_pos rfl, frontWord?_of_allowsMarkup hvalue]
  rfl

/-- **The language of a script element.**  It is told by the first attribute that tells a word.  If
no attribute but one named `lang` tells a word, and that word is its whole value where it allows
markup, the language is the one that this attribute declares. -/
theorem scriptLanguage_attributes (h : ∀ a ∈ attributes, a.IsProper) :
    scriptLanguage (attributesText attributes)
        = (if (attributes.findSome? Attribute.told?).any allowsMarkup then .tsx
          else .typescript) ∧
      ((∀ a ∈ attributes, ∀ b ∈ attributes, a.IsLang → b.IsLang → a = b) →
        (∀ a ∈ attributes, ∀ word, a.told? = some word →
          a.IsLang ∧ (allowsMarkup word = true → word = a.value)) →
        scriptLanguage (attributesText attributes) = declaredLanguage attributes) := by
  have hfirst : scriptLanguage (attributesText attributes)
      = if (attributes.findSome? Attribute.told?).any allowsMarkup then .tsx else .typescript := by
    rw [scriptLanguage_eq, firstLang?_attributesText h]
  refine ⟨hfirst, fun hone honly => ?_⟩
  rw [hfirst, declaredLanguage]
  refine if_congr ?_ rfl rfl
  rw [Option.any_eq_true, List.any_eq_true]
  constructor
  · rintro ⟨word, htold, hmarkup⟩
    obtain ⟨a, ha, hword⟩ := List.exists_of_findSome?_eq_some htold
    obtain ⟨hlang, hwhole⟩ := honly a ha word hword
    exact ⟨a, ha, by simp [hlang, ← hwhole hmarkup, hmarkup]⟩
  · rintro ⟨a, ha, hdeclares⟩
    simp only [Bool.and_eq_true, decide_eq_true_eq] at hdeclares
    obtain ⟨hlang, hmarkup⟩ := hdeclares
    have htold := Attribute.told?_of_isLang hlang hmarkup
    cases hfound : attributes.findSome? Attribute.told? with
    | none => simp [List.findSome?_eq_none_iff.mp hfound a ha] at htold
    | some word =>
        obtain ⟨b, hb, hword⟩ := List.exists_of_findSome?_eq_some hfound
        obtain rfl := hone a ha b hb hlang (honly b hb word hword).1
        obtain rfl := Option.some.inj (hword.symm.trans htold)
        exact ⟨_, rfl, hmarkup⟩

/-- Other attributes may come first, as long as they tell nothing. -/
theorem scriptLanguage_attributes_setup :
    let attributes : List Attribute := [⟨"setup".toList, "lang".toList⟩,
      ⟨"data-language".toList, "tsx".toList⟩, ⟨"LANG".toList, "TSX".toList⟩]
    (∀ a ∈ attributes, a.IsProper) ∧
    (∀ a ∈ attributes, ∀ b ∈ attributes, a.IsLang → b.IsLang → a = b) ∧
    (∀ a ∈ attributes, ∀ word, a.told? = some word →
      a.IsLang ∧ (allowsMarkup word = true → word = a.value)) ∧
    attributesText attributes = " setup=\"lang\" data-language=\"tsx\" LANG=\"TSX\"".toList ∧
    scriptLanguage (attributesText attributes) = .tsx := by
  intro attributes
  have hproper : ∀ a ∈ attributes, a.IsProper := by decide
  have hone : ∀ a ∈ attributes, ∀ b ∈ attributes, a.IsLang → b.IsLang → a = b := by decide
  have honly : ∀ a ∈ attributes, ∀ word, a.told? = some word →
      a.IsLang ∧ (allowsMarkup word = true → word = a.value) := by
    have hall : ∀ a ∈ attributes, a.told? = none ∨
        a.IsLang ∧ a.told? = some a.value := by decide
    intro a ha word hword
    rcases hall a ha with hnone | ⟨hlang, hwhole⟩
    · rw [hnone] at hword
      simp at hword
    · exact ⟨hlang, fun _ => Option.some.inj (hword.symm.trans hwhole)⟩
  refine ⟨hproper, hone, honly, by decide, ?_⟩
  rw [(scriptLanguage_attributes hproper).2 hone honly]
  decide

/-- Attributes that are no `lang` tell a language: one with a name that ends so behind a dash, and
one with a value that reads so.  Of a longer value the beginning is taken, and what is told first
hides what `lang` declares. -/
theorem language_told_by_others :
    let named : List Attribute := [⟨"data-lang".toList, "tsx".toList⟩]
    let valued : List Attribute := [⟨"title".toList, "lang=tsx".toList⟩]
    let longer : List Attribute := [⟨"lang".toList, "tsx-like".toList⟩]
    let hidden : List Attribute :=
      [⟨"data-lang".toList, "ts".toList⟩, ⟨"lang".toList, "tsx".toList⟩]
    (∀ attributes ∈ [named, valued, longer, hidden],
      (∀ a ∈ attributes, a.IsProper) ∧ (attributes.map Attribute.name).Nodup) ∧
    [named, valued, longer].map declaredLanguage = [.typescript, .typescript, .typescript] ∧
    [named, valued, longer].map (fun attributes => scriptLanguage (attributesText attributes))
      = [.tsx, .tsx, .tsx] ∧
    declaredLanguage hidden = .tsx ∧ scriptLanguage (attributesText hidden) = .typescript := by
  decide

end SpokenIndex.Vue
