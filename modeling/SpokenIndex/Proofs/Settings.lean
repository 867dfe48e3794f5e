/-
Settings that have been read.

What is read is brought into a normal form: numbers within their bounds, extensions and stop
words in lowercase, a dot in front of every extension (`IndexSettings.IsNormal` and its like).
Each kind of field is read by a function of its own, and there are two things to know of it
(`Settles`): what it gives is normal, and what is normal it gives back.  The first holds of the
defaults as well, so settings that are read from any table are normal; by the second, normal
settings are what is read from the table they are written to.  So to write settings and read
them again changes nothing, and never fails.

That a word in lowercase stays as it is, whatever script it is written in, is the work of
`Proofs/Lowering`.
-/
import SpokenIndex.Proofs.Lowering
import SpokenIndex.Settings.Validate

namespace SpokenIndex

open SpokenIndex.Text

/-! ### Normal settings -/

/-- An extension as it is kept: a dot in front, and in lowercase. -/
def IsExtension (s : String) : Prop :=
  startsWith "." s = true ∧ lowercase s = s

instance (s : String) : Decidable (IsExtension s) := inferInstanceAs (Decidable (_ ∧ _))

/-- A whole number between two bounds. -/
def IsBetween (low high : Nat) (n : Int) : Prop :=
  (low : Int) ≤ n ∧ n ≤ high

instance (low high : Nat) (n : Int) : Decidable (IsBetween low high n) :=
  inferInstanceAs (Decidable (_ ∧ _))

/-- A number from zero to a whole bound. -/
def IsUpTo (high : Nat) (x : Binary64) : Prop :=
  0 ≤ x.signedUnits ∧ x.signedUnits ≤ (high * unitsOfOne : Nat)

instance (high : Nat) (x : Binary64) : Decidable (IsUpTo high x) :=
  inferInstanceAs (Decidable (_ ∧ _))

/-- The settings of the index are within their bounds and in lowercase. -/
structure IndexSettings.IsNormal (s : IndexSettings) : Prop where
  tracked : ∀ e ∈ s.trackedExtensions, IsExtension e
  source : ∀ e ∈ s.sourceExtensions, IsExtension e
  size : IsBetween 10 100000 s.maxFileSizeKb

/-- The settings of the matcher are within their bounds and in lowercase. -/
structure MatcherSettings.IsNormal (s : MatcherSettings) : Prop where
  threshold : IsUpTo 1 s.acceptThreshold
  token : IsBetween 1 20 s.minTokenLength
  function : IsBetween 1 40 s.functionMinLength
  words : ∀ w ∈ s.stopWords, lowercase w = w

/-- The settings of listings are within their bounds. -/
structure ListingSettings.IsNormal (s : ListingSettings) : Prop where
  /-- A listing stays valid for a day at the most. -/
  seconds : IsUpTo 86400 s.cacheSeconds

namespace Settings

variable {α : Type} {entries : List (Key × Value)} {name s : String} {default x : α}
  {read : Value → Checked α} {write : α → Value} {P : α → Prop} {v : Value}
  {texts : List String} {f : String → String} {IsKept : String → Prop} {low high : Nat}

/-! ### Extensions -/

theorem isExtension_normalExtension (s : String) : IsExtension (normalExtension s) := by
  rw [normalExtension]
  split_ifs with hdot
  · refine ⟨?_, lowercase_lowercase s⟩
    obtain ⟨rest, hrest⟩ := startsWith_iff.mp hdot
    have hlower : (lowercase s).toList = '.' :: lowerFrom ['.'] rest := by
      rw [lowercase, String.toList_ofList, ← hrest]
      rfl
    exact startsWith_iff.mpr ⟨_, hlower.symm⟩
  · have hsmall : ∀ c ∈ '.' :: lower s.toList, IsSmall c :=
      List.forall_mem_cons.mpr ⟨by decide, fun c hc => isSmall_of_mem_lowerFrom hc⟩
    have htext : ("." ++ lowercase s).toList = '.' :: lower s.toList := by
      simp [lowercase]
    refine ⟨startsWith_iff.mpr ⟨_, htext.symm⟩, ?_⟩
    rw [lowercase, htext, lower_of_isSmall hsmall, ← htext, String.ofList_toList]

/-- An extension that is as it is kept is not changed. -/
theorem normalExtension_of_isExtension (h : IsExtension s) : normalExtension s = s := by
  rw [normalExtension, if_pos h.1, h.2]

/-! ### Kinds of field -/

/-- What is read is normal, and what is normal is read from what it is written as. -/
structure Settles (read : Value → Checked α) (write : α → Value) (P : α → Prop) : Prop where
  gives : ∀ v x, read v = .ok x → P x
  again : ∀ x, P x → read (write x) = .ok x

/-- What has been read is read again from what it is written as. -/
theorem Settles.stands (h : Settles read write P) (v : Value) (x : α) (hread : read v = .ok x) :
    P x ∧ read (write x) = .ok x := by
  have hx := h.gives v x hread
  exact ⟨hx, h.again x hx⟩

theorem settles_textOf : Settles textOf .text fun _ => True where
  gives _ _ _ := trivial
  again _ _ := rfl

theorem settles_optionalTextOf :
    Settles optionalTextOf (fun s => (s.map Value.text).getD .null) fun _ => True where
  gives _ _ _ := trivial
  again s _ := by cases s <;> rfl

theorem settles_wholeBetween : Settles (wholeBetween low high) .whole (IsBetween low high) where
  gives v n h := by
    unfold wholeBetween at h
    split at h
    · simp at h
    · split_ifs at h with habove hbelow
      · simp [Checked.fail] at h
      · simp [Checked.fail] at h
      · obtain rfl := Except.ok.inj h
        exact ⟨Int.not_lt.mp hbelow, Int.not_lt.mp habove⟩
  again n h := by
    rw [wholeBetween, wholeOf]
    simp only [Int.not_lt.mpr h.1, Int.not_lt.mpr h.2, ↓reduceIte]

/-- The bound is a number of 64 bits itself. -/
def IsExact (high : Nat) : Prop :=
  (wholeNumber high).signedUnits = (high * unitsOfOne : Nat)

/-- The bounds of a threshold and of a day in seconds are. -/
theorem exact_bounds : IsExact 1 ∧ IsExact 86400 := by
  unfold IsExact
  decide +kernel

/-- The fractions that stand by default keep to their bounds. -/
theorem standard_isUpTo : IsUpTo 1 MatcherSettings.standard.acceptThreshold ∧
    IsUpTo 86400 ListingSettings.standard.cacheSeconds := by
  decide +kernel

theorem settles_fractionUpTo (hhigh : IsExact high) :
    Settles (fractionUpTo high) (fun x => .fraction (.finite x)) (IsUpTo high) where
  gives v x h := by
    unfold fractionUpTo at h
    split at h
    · simp at h
    · simp [Checked.fail] at h
    · simp [Checked.fail] at h
    · rename_i y _
      split_ifs at h with habove hbelow
      · simp [Checked.fail] at h
      · simp [Checked.fail] at h
      · obtain rfl := Except.ok.inj h
        have hle : y.signedUnits ≤ (wholeNumber high).signedUnits := Binary64.not_lt.mp habove
        exact ⟨Binary64.not_lt.mp hbelow, hle.trans_eq hhigh⟩
  again x h := by
    have habove : ¬ wholeNumber high < x := Binary64.not_lt.mpr (h.2.trans_eq hhigh.symm)
    have hbelow : ¬ x < .zero := Binary64.not_lt.mpr h.1
    rw [fractionUpTo, numeralOf]
    simp only [habove, hbelow, ↓reduceIte]

theorem textItems_texts (index : Nat) : textItems index (texts.map .text) = .ok texts := by
  induction texts generalizing index with
  | nil => rfl
  | cons s rest ih =>
      rw [List.map_cons, textItems, ih]
      rfl

theorem settles_textsOf : Settles textsOf .ofTexts fun _ => True where
  gives _ _ _ := trivial
  again _ _ := textItems_texts 0

/-- Texts that are each brought into a normal form. -/
theorem settles_map_textsOf (hgives : ∀ s, IsKept (f s)) (hagain : ∀ s, IsKept s → f s = s) :
    Settles (fun v => (textsOf v).map (·.map f)) .ofTexts (fun texts => ∀ s ∈ texts, IsKept s) where
  gives v texts h := by
    cases hread : textsOf v with
    | error ps =>
        rw [hread] at h
        exact absurd h (by simp [Except.map])
    | ok given =>
        rw [hread] at h
        obtain rfl := Except.ok.inj h
        simpa using fun s _ => hgives s
  again texts h := by
    rw [settles_textsOf.again texts trivial]
    show Except.ok (texts.map f) = .ok texts
    rw [List.map_congr_left fun s hs => hagain s (h s hs), List.map_id']

theorem settles_extensionsOf :
    Settles extensionsOf .ofTexts fun texts => ∀ s ∈ texts, IsExtension s :=
  settles_map_textsOf isExtension_normalExtension fun _ => normalExtension_of_isExtension

theorem settles_wordsOf : Settles wordsOf .ofTexts fun texts => ∀ s ∈ texts, lowercase s = s :=
  settles_map_textsOf lowercase_lowercase fun _ h => h

/-! ### Fields -/

/-- A field is normal if its default is. -/
theorem Settles.field (hread : Settles read write P) (hdefault : P default)
    (h : fieldOf entries name default read = .ok x) : P x := by
  unfold fieldOf at h
  split at h
  · obtain rfl := Except.ok.inj h
    exact hdefault
  · rename_i v _
    cases hv : read v with
    | error ps =>
        rw [hv] at h
        exact absurd h (by simp [Checked.inside, Except.mapError])
    | ok y =>
        rw [hv] at h
        obtain rfl := Except.ok.inj h
        exact hread.gives v y hv

theorem Settles.field_again (hread : Settles read write P) (hx : P x)
    (hfield : Value.lookup name entries = some (write x)) :
    fieldOf entries name default read = .ok x := by
  rw [fieldOf, hfield]
  show Checked.inside _ (read (write x)) = _
  rw [hread.again x hx]
  rfl

/-! ### Groups of fields -/

theorem exists_entries_of_groupOf {model : String} {read : List (Key × Value) → Checked α}
    (h : groupOf model read v = .ok x) : ∃ entries, read entries = .ok x := by
  cases v with
  | table entries => exact ⟨entries, h⟩
  | _ => simp [groupOf, Checked.fail] at h

theorem indexOfTable_eq_ok_iff {s : IndexSettings} : indexOfTable entries = .ok s ↔
    fieldOf entries "include_glob" IndexSettings.standard.includeGlob textOf =
      .ok s.includeGlob ∧
    fieldOf entries "exclude_glob" IndexSettings.standard.excludeGlob optionalTextOf =
      .ok s.excludeGlob ∧
    fieldOf entries "tracked_extensions" IndexSettings.standard.trackedExtensions extensionsOf =
      .ok s.trackedExtensions ∧
    fieldOf entries "source_extensions" IndexSettings.standard.sourceExtensions extensionsOf =
      .ok s.sourceExtensions ∧
    fieldOf entries "max_file_size_kb" IndexSettings.standard.maxFileSizeKb
      (wholeBetween 10 100000) = .ok s.maxFileSizeKb := by
  constructor
  · intro h
    unfold indexOfTable at h
    simp only at h
    split at h
    · rename_i hinclude hexclude htracked hsource hsize
      obtain rfl := Except.ok.inj h
      exact ⟨hinclude, hexclude, htracked, hsource, hsize⟩
    · simp at h
  · intro h
    obtain ⟨hinclude, hexclude, htracked, hsource, hsize⟩ := h
    simp only [indexOfTable, hinclude, hexclude, htracked, hsource, hsize]

theorem settles_index :
    Settles (groupOf "IndexConfig" indexOfTable) dumpIndex IndexSettings.IsNormal where
  gives v s h := by
    obtain ⟨entries, hread⟩ := exists_entries_of_groupOf h
    obtain ⟨-, -, htracked, hsource, hsize⟩ := indexOfTable_eq_ok_iff.mp hread
    exact {
      tracked := settles_extensionsOf.field (by decide) htracked
      source := settles_extensionsOf.field (by decide) hsource
      size := settles_wholeBetween.field (by decide) hsize }
  again s h := indexOfTable_eq_ok_iff.mpr
    ⟨settles_textOf.field_again trivial rfl,
      settles_optionalTextOf.field_again trivial rfl,
      settles_extensionsOf.field_again h.tracked rfl,
      settles_extensionsOf.field_again h.source rfl,
      settles_wholeBetween.field_again h.size rfl⟩

theorem matcherOfTable_eq_ok_iff {s : MatcherSettings} : matcherOfTable entries = .ok s ↔
    fieldOf entries "accept_threshold" MatcherSettings.standard.acceptThreshold (fractionUpTo 1) =
      .ok s.acceptThreshold ∧
    fieldOf entries "min_token_length" MatcherSettings.standard.minTokenLength
      (wholeBetween 1 20) = .ok s.minTokenLength ∧
    fieldOf entries "function_min_length" MatcherSettings.standard.functionMinLength
      (wholeBetween 1 40) = .ok s.functionMinLength ∧
    fieldOf entries "stop_words" MatcherSettings.standard.stopWords wordsOf =
      .ok s.stopWords := by
  constructor
  · intro h
    unfold matcherOfTable at h
    simp only at h
    split at h
    · rename_i hthreshold htoken hfunction hwords
      obtain rfl := Except.ok.inj h
      exact ⟨hthreshold, htoken, hfunction, hwords⟩
    · simp at h
  · intro h
    obtain ⟨hthreshold, htoken, hfunction, hwords⟩ := h
    simp only [matcherOfTable, hthreshold, htoken, hfunction, hwords]

theorem settles_matcher :
    Settles (groupOf "MatcherConfig" matcherOfTable) dumpMatcher MatcherSettings.IsNormal where
  gives v s h := by
    obtain ⟨entries, hread⟩ := exists_entries_of_groupOf h
    obtain ⟨hthreshold, htoken, hfunction, hwords⟩ := matcherOfTable_eq_ok_iff.mp hread
    exact {
      threshold := (settles_fractionUpTo exact_bounds.1).field standard_isUpTo.1 hthreshold
      token := settles_wholeBetween.field (by decide) htoken
      function := settles_wholeBetween.field (by decide) hfunction
      words := settles_wordsOf.field (by decide) hwords }
  again s h := matcherOfTable_eq_ok_iff.mpr
    ⟨(settles_fractionUpTo exact_bounds.1).field_again h.threshold rfl,
      settles_wholeBetween.field_again h.token rfl,
      settles_wholeBetween.field_again h.function rfl,
      settles_wordsOf.field_again h.words rfl⟩

theorem listingOfTable_eq_ok_iff {s : ListingSettings} : listingOfTable entries = .ok s ↔
    fieldOf entries "cache_ttl_seconds" ListingSettings.standard.cacheSeconds
      (fractionUpTo 86400) = .ok s.cacheSeconds ∧
    fieldOf entries "ignore_patterns" ListingSettings.standard.ignorePatterns textsOf =
      .ok s.ignorePatterns := by
  constructor
  · intro h
    unfold listingOfTable at h
    simp only at h
    split at h
    · rename_i hseconds hignore
      obtain rfl := Except.ok.inj h
      exact ⟨hseconds, hignore⟩
    · simp at h
  · intro h
    obtain ⟨hseconds, hignore⟩ := h
    simp only [listingOfTable, hseconds, hignore]

theorem settles_listing :
    Settles (groupOf "TreeConfig" listingOfTable) dumpListing ListingSettings.IsNormal where
  gives v s h := by
    obtain ⟨entries, hread⟩ := exists_entries_of_groupOf h
    obtain ⟨hseconds, -⟩ := listingOfTable_eq_ok_iff.mp hread
    exact ⟨(settles_fractionUpTo exact_bounds.2).field standard_isUpTo.2 hseconds⟩
  again s h := listingOfTable_eq_ok_iff.mpr
    ⟨(settles_fractionUpTo exact_bounds.2).field_again h.seconds rfl,
      settles_textsOf.field_again trivial rfl⟩

/-- **Settings that are read from anything are normal, and writing them and reading them again
changes nothing.**  No normal settings are refused. -/
theorem read_settles :
    ((∀ v s, groupOf "IndexConfig" indexOfTable v = .ok s →
        s.IsNormal ∧ groupOf "IndexConfig" indexOfTable (dumpIndex s) = .ok s) ∧
      ∀ s, s.IsNormal → groupOf "IndexConfig" indexOfTable (dumpIndex s) = .ok s) ∧
    ((∀ v s, groupOf "MatcherConfig" matcherOfTable v = .ok s →
        s.IsNormal ∧ groupOf "MatcherConfig" matcherOfTable (dumpMatcher s) = .ok s) ∧
      ∀ s, s.IsNormal → groupOf "MatcherConfig" matcherOfTable (dumpMatcher s) = .ok s) ∧
    ((∀ v s, groupOf "TreeConfig" listingOfTable v = .ok s →
        s.IsNormal ∧ groupOf "TreeConfig" listingOfTable (dumpListing s) = .ok s) ∧
      ∀ s, s.IsNormal → groupOf "TreeConfig" listingOfTable (dumpListing s) = .ok s) :=
  ⟨⟨settles_index.stands, settles_index.again⟩, ⟨settles_matcher.stands, settles_matcher.again⟩,
    ⟨settles_listing.stands, settles_listing.again⟩⟩

/-- Settings in capitals, with numbers as texts, truth values and fractions. -/
def looseTable : Value :=
  .ofFields [("tracked_extensions", .ofTexts ["TS", ".Vue", "ΑΣ", "İ", ""]),
    ("max_file_size_kb", .text " +1_024.0 "), ("min_token_length", .fraction (Binary64.ofInt 5)),
    ("accept_threshold", .truth true), ("stop_words", .ofTexts ["The", "ΟΔΟΣ"]),
    ("cache_ttl_seconds", .text "8.64e4")]

theorem read_settles_looseTable :
    (∃ s, groupOf "IndexConfig" indexOfTable looseTable = .ok s ∧
      s.trackedExtensions = [".ts", ".vue", ".ας", ".i\u0307", "."] ∧ s.maxFileSizeKb = 1024 ∧
      s.IsNormal ∧ groupOf "IndexConfig" indexOfTable (dumpIndex s) = .ok s) ∧
    (∃ s, groupOf "MatcherConfig" matcherOfTable looseTable = .ok s ∧
      s.minTokenLength = 5 ∧ s.stopWords = ["the", "οδος"] ∧
      s.IsNormal ∧ groupOf "MatcherConfig" matcherOfTable (dumpMatcher s) = .ok s) ∧
    (∃ s, groupOf "TreeConfig" listingOfTable looseTable = .ok s ∧
      s.cacheSeconds = wholeNumber 86400 ∧
      s.IsNormal ∧ groupOf "TreeConfig" listingOfTable (dumpListing s) = .ok s) := by
  have hindex : groupOf "IndexConfig" indexOfTable looseTable = .ok { IndexSettings.standard with
      trackedExtensions := [".ts", ".vue", ".ας", ".i\u0307", "."], maxFileSizeKb := 1024 } := by
    decide +kernel
  have hmatcher : groupOf "MatcherConfig" matcherOfTable looseTable =
      .ok { MatcherSettings.standard with
        acceptThreshold := wholeNumber 1, minTokenLength := 5, stopWords := ["the", "οδος"] } := by
    decide +kernel
  have hlisting : groupOf "TreeConfig" listingOfTable looseTable =
      .ok { ListingSettings.standard with cacheSeconds := wholeNumber 86400 } := by
    decide +kernel
  obtain ⟨⟨hsettledIndex, -⟩, ⟨hsettledMatcher, -⟩, ⟨hsettledListing, -⟩⟩ := read_settles
  exact ⟨⟨_, hindex, rfl, rfl, hsettledIndex looseTable _ hindex⟩,
    ⟨_, hmatcher, rfl, rfl, hsettledMatcher looseTable _ hmatcher⟩,
    ⟨_, hlisting, by dsimp only, hsettledListing looseTable _ hlisting⟩⟩

end Settings

end SpokenIndex
