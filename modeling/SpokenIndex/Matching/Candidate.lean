/-
Candidates and matches.

A candidate is an entry of the index with the kind of artifact that it names; folders
are never candidates.  The order of candidates is fixed here for both passes over a
transcript: phrases look at components before files, words at files before
components, and at functions last and only for longer words.
-/
import SpokenIndex.Artifact
import SpokenIndex.Index.Mappings
import SpokenIndex.Matching.Score

namespace SpokenIndex.Matching

/-- An indexed name that a part of a transcript may refer to. -/
structure Candidate where
  name : String
  path : String
  kind : ArtifactKind
  deriving DecidableEq, Repr

/-- An artifact that a transcript refers to. -/
structure Match where
  /-- The name that is shown. -/
  name : String
  path : String
  kind : ArtifactKind
  score : Score
  deriving DecidableEq, Repr

/-- What stands in an annotated transcript for a match. -/
def Match.marker (m : Match) : String :=
  "@" ++ m.name

/-- The match of a candidate with a score. -/
def Candidate.toMatch (c : Candidate) (score : Score) : Match :=
  ⟨displayName c.name c.path c.kind, c.path, c.kind, score⟩

/-- The entries of a mapping as candidates of one kind. -/
def candidatesOf (kind : ArtifactKind) (map : NameMap) : List Candidate :=
  map.entries.map fun (name, path) => ⟨name, path, kind⟩

/-- The candidates for a phrase. -/
def phraseCandidates (index : Mappings) : List Candidate :=
  candidatesOf .component index.components ++ candidatesOf .file index.files

/-- The candidates for a word; functions only if `withFunctions`. -/
def wordCandidates (index : Mappings) (withFunctions : Bool) : List Candidate :=
  candidatesOf .file index.files ++ candidatesOf .component index.components
    ++ if withFunctions then candidatesOf .function index.functions else []

end SpokenIndex.Matching
