/-
From tables to settings.

Each group of settings is read from a table: a field that is missing takes its
default, a field that is present must fit, and every problem is reported, in the
order of the fields.  Extensions are lowered and given a dot in front, stop words are
lowered.  `Settings.ofTable` forbids names that are no fields; inside the groups such
names are passed over.

`dump` writes settings as the table that would be read back as the same settings.
-/
import SpokenIndex.Settings.Basic
import SpokenIndex.Settings.Numeric
import SpokenIndex.Text.Lowercase

namespace SpokenIndex.Settings

/-! ### Kinds of field -/

/-- A text. -/
def textOf : Value → Checked String
  | .text s => .ok s
  | _ => .fail .noText

/-- A text or nothing. -/
def optionalTextOf : Value → Checked (Option String)
  | .null => .ok none
  | .text s => .ok (some s)
  | _ => .fail .noText

/-- The items of a list of texts from an index on, or the problems of all that are none. -/
def textItems : (index : Nat) → List Value → Checked (List String)
  | _, [] => .ok []
  | index, item :: rest =>
    match Checked.inside (.item index) (textOf item), textItems (index + 1) rest with
    | .ok s, .ok more => .ok (s :: more)
    | head, tail => .error (head.problems ++ tail.problems)

/-- A list of texts. -/
def textsOf : Value → Checked (List String)
  | .list items => textItems 0 items
  | _ => .fail .noList

/-- An extension in lowercase with a dot in front. -/
def normalExtension (s : String) : String :=
  if Text.startsWith "." s then Text.lowercase s else "." ++ Text.lowercase s

/-- A list of extensions. -/
def extensionsOf (v : Value) : Checked (List String) :=
  (textsOf v).map (·.map normalExtension)

/-- A list of words in lowercase. -/
def wordsOf (v : Value) : Checked (List String) :=
  (textsOf v).map (·.map Text.lowercase)

/-- The level of a given name. -/
def levelOf : Value → Checked LogLevel
  | .text s =>
    match LogLevel.all.find? (·.label == s) with
    | some level => .ok level
    | none => .fail .noLevel
  | _ => .fail .noLevel

/-- The field of a name, its default if it is missing. -/
def fieldOf {α : Type} (entries : List (Key × Value)) (name : String) (default : α)
    (read : Value → Checked α) : Checked α :=
  match Value.lookup name entries with
  | none => .ok default
  | some v => Checked.inside (.field name) (read v)

/-! ### Groups -/

/-- The settings of the index from a table. -/
def indexOfTable (entries : List (Key × Value)) : Checked IndexSettings :=
  let std := IndexSettings.standard
  let includeGlob := fieldOf entries "include_glob" std.includeGlob textOf
  let excludeGlob := fieldOf entries "exclude_glob" std.excludeGlob optionalTextOf
  let tracked := fieldOf entries "tracked_extensions" std.trackedExtensions extensionsOf
  let source := fieldOf entries "source_extensions" std.sourceExtensions extensionsOf
  let size := fieldOf entries "max_file_size_kb" std.maxFileSizeKb (wholeBetween 10 100000)
  match includeGlob, excludeGlob, tracked, source, size with
  | .ok a, .ok b, .ok c, .ok d, .ok e => .ok ⟨a, b, c, d, e⟩
  | a, b, c, d, e =>
    .error (a.problems ++ b.problems ++ c.problems ++ d.problems ++ e.problems)

/-- The settings of the matcher from a table. -/
def matcherOfTable (entries : List (Key × Value)) : Checked MatcherSettings :=
  let std := MatcherSettings.standard
  let threshold := fieldOf entries "accept_threshold" std.acceptThreshold (fractionUpTo 1)
  let token := fieldOf entries "min_token_length" std.minTokenLength (wholeBetween 1 20)
  let function := fieldOf entries "function_min_length" std.functionMinLength (wholeBetween 1 40)
  let stop := fieldOf entries "stop_words" std.stopWords wordsOf
  match threshold, token, function, stop with
  | .ok a, .ok b, .ok c, .ok d => .ok ⟨a, b, c, d⟩
  | a, b, c, d => .error (a.problems ++ b.problems ++ c.problems ++ d.problems)

/-- The settings of listings from a table. -/
def listingOfTable (entries : List (Key × Value)) : Checked ListingSettings :=
  let std := ListingSettings.standard
  let seconds := fieldOf entries "cache_ttl_seconds" std.cacheSeconds (fractionUpTo 86400)
  let ignore := fieldOf entries "ignore_patterns" std.ignorePatterns textsOf
  match seconds, ignore with
  | .ok a, .ok b => .ok ⟨a, b⟩
  | a, b => .error (a.problems ++ b.problems)

/-- A group of settings from a value. -/
def groupOf {α : Type} (model : String) (read : List (Key × Value) → Checked α) :
    Value → Checked α
  | .table entries => read entries
  | _ => .fail (.noTable model)

/-- The names of the fields of all settings. -/
def fieldNames : List String := ["project_root", "log_level", "index", "matcher", "tree"]

/-- A complaint for each name that is no field. -/
def unknownFields (entries : List (Key × Value)) : List Problem :=
  entries.filterMap fun
    | (.name name, _) =>
      if fieldNames.contains name then none else some ⟨[.field name], .unknownField⟩
    | _ => none

/-- Why a table makes no settings. -/
inductive Refusal where
  /-- The root of the tree is given, but not as a text. -/
  | rootNotText
  /-- Some fields do not fit. -/
  | problems (ps : List Problem)
  deriving DecidableEq, Repr

/-- The refusal as a message. -/
def Refusal.message : Refusal → String
  | rootNotText => "project_root: " ++ Complaint.noText.message
  | problems ps => "; ".intercalate (ps.map Problem.text)

/-- All settings from a table.  `root` gives the real form of a path; `here` is the root if
none is given. -/
def ofTable (root : String → String) (here : String) (entries : List (Key × Value)) :
    Except Refusal SpokenIndex.Settings :=
  let projectRoot : Except Refusal String :=
    match Value.lookup "project_root" entries with
    | none => .ok here
    | some (.text s) => .ok (root s)
    | some _ => .error .rootNotText
  match projectRoot with
  | .error refusal => .error refusal
  | .ok projectRoot =>
    let level := fieldOf entries "log_level" LogLevel.info levelOf
    let index :=
      fieldOf entries "index" IndexSettings.standard (groupOf "IndexConfig" indexOfTable)
    let matcher :=
      fieldOf entries "matcher" MatcherSettings.standard (groupOf "MatcherConfig" matcherOfTable)
    let listing :=
      fieldOf entries "tree" ListingSettings.standard (groupOf "TreeConfig" listingOfTable)
    let unknown := unknownFields entries
    match level, index, matcher, listing, unknown with
    | .ok a, .ok b, .ok c, .ok d, [] => .ok ⟨projectRoot, a, b, c, d⟩
    | a, b, c, d, unknown =>
      .error (.problems (a.problems ++ b.problems ++ c.problems ++ d.problems ++ unknown))

/-! ### Writing settings -/

/-- The table of the settings of the index. -/
def dumpIndex (s : IndexSettings) : Value :=
  .ofFields [("include_glob", .text s.includeGlob),
    ("exclude_glob", (s.excludeGlob.map Value.text).getD .null),
    ("tracked_extensions", .ofTexts s.trackedExtensions),
    ("source_extensions", .ofTexts s.sourceExtensions),
    ("max_file_size_kb", .whole s.maxFileSizeKb)]

/-- The table of the settings of the matcher. -/
def dumpMatcher (s : MatcherSettings) : Value :=
  .ofFields [("accept_threshold", .fraction (.finite s.acceptThreshold)),
    ("min_token_length", .whole s.minTokenLength),
    ("function_min_length", .whole s.functionMinLength),
    ("stop_words", .ofTexts s.stopWords)]

/-- The table of the settings of listings. -/
def dumpListing (s : ListingSettings) : Value :=
  .ofFields [("cache_ttl_seconds", .fraction (.finite s.cacheSeconds)),
    ("ignore_patterns", .ofTexts s.ignorePatterns)]

/-- The table of all settings. -/
def dump (s : SpokenIndex.Settings) : Value :=
  .ofFields [("project_root", .text s.projectRoot), ("log_level", .text s.logLevel.label),
    ("index", dumpIndex s.index), ("matcher", dumpMatcher s.matcher),
    ("tree", dumpListing s.listing)]

end SpokenIndex.Settings
