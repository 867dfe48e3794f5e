/-
The settings of the program.

Three groups with a default for each field: what is indexed, how transcripts are
matched, how files are listed.  `Settings` holds them with the root of the tree and
the level of logging.
-/
import SpokenIndex.Number.Binary64

namespace SpokenIndex

/-- What is indexed. -/
structure IndexSettings where
  /-- The glob of the files that are indexed. -/
  includeGlob : String
  /-- The glob of the files and folders that are passed over, if any. -/
  excludeGlob : Option String
  /-- The extensions of files that are indexed by name. -/
  trackedExtensions : List String
  /-- The extensions of files that are scanned for symbols. -/
  sourceExtensions : List String
  /-- Larger files, in units of 1024 bytes, are indexed by name only. -/
  maxFileSizeKb : Int
  deriving DecidableEq

/-- How transcripts are matched. -/
structure MatcherSettings where
  /-- A match of a word scores strictly above this. -/
  acceptThreshold : Binary64
  /-- Shorter tokens are never matched on their own. -/
  minTokenLength : Int
  /-- Functions are considered for longer tokens only. -/
  functionMinLength : Int
  /-- Words that are never matched on their own. -/
  stopWords : List String
  deriving DecidableEq

/-- How files are listed. -/
structure ListingSettings where
  /-- How many seconds a listing stays valid. -/
  cacheSeconds : Binary64
  /-- The globs of files and folders that are not listed. -/
  ignorePatterns : List String
  deriving DecidableEq

/-- How much is logged. -/
inductive LogLevel where
  | debug
  | info
  | warning
  | error
  deriving DecidableEq, Repr

namespace LogLevel

/-- The levels, least severe first. -/
def all : List LogLevel := [debug, info, warning, error]

/-- The name of a level. -/
def label : LogLevel → String
  | debug => "DEBUG"
  | info => "INFO"
  | warning => "WARNING"
  | error => "ERROR"

end LogLevel

/-- All settings. -/
structure Settings where
  projectRoot : String
  logLevel : LogLevel
  index : IndexSettings
  matcher : MatcherSettings
  listing : ListingSettings
  deriving DecidableEq

/-! ### Defaults -/

/-- Words too common to refer to anything. -/
def defaultStopWords : List String :=
  ["the", "to", "and", "in", "on", "at", "with", "by", "from", "up", "down", "for", "of",
    "above", "below", "change", "update", "modify", "set", "get", "make", "do", "does",
    "section", "some", "want", "need", "please", "can", "could", "would", "should", "will",
    "show", "me", "my", "open", "close", "save", "delete", "remove", "add", "new", "create",
    "component", "file", "folder", "function"]

/-- The number of 64 bits nearest to a decimal that is known to lie in their range. -/
def decimalSetting (digits : Nat) (exponent : Int) : Binary64 :=
  match Binary64.ofDecimal false digits exponent with
  | .finite value => value
  | _ => .zero

/-- What is indexed by default. -/
def IndexSettings.standard : IndexSettings where
  includeGlob := "**/*.\x7bts,tsx,js,jsx,vue,scss,css,less,json,md\x7d"
  excludeGlob := some "**/node_modules/**"
  trackedExtensions :=
    [".ts", ".tsx", ".js", ".jsx", ".vue", ".scss", ".css", ".less", ".json", ".md"]
  sourceExtensions := [".js", ".jsx", ".ts", ".tsx", ".vue"]
  maxFileSizeKb := 1024

/-- How transcripts are matched by default. -/
def MatcherSettings.standard : MatcherSettings where
  acceptThreshold := decimalSetting 7 (-1)
  minTokenLength := 3
  functionMinLength := 4
  stopWords := defaultStopWords

/-- How files are listed by default. -/
def ListingSettings.standard : ListingSettings where
  cacheSeconds := decimalSetting 300 0
  ignorePatterns := ["**/.git/**", "**/node_modules/**"]

/-- The default settings for a tree. -/
def Settings.standard (projectRoot : String) : Settings where
  projectRoot := projectRoot
  logLevel := .info
  index := .standard
  matcher := .standard
  listing := .standard

end SpokenIndex
