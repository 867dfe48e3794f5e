/-
Extractors.

An extractor finds the declarations of a text.  It may refuse a text, which is
expected of broken source, or crash; the index treats the two alike but for how they
are reported.
-/
import SpokenIndex.Artifact
import SpokenIndex.Source.Language

namespace SpokenIndex

/-- Why an extractor gives no declarations. -/
inductive ExtractorFault where
  | refused (reason : String)
  | crashed (reason : String)
  deriving DecidableEq, Repr

/-- A way to find the declarations of a text in a language. -/
abbrev Extractor := Language → String → Except ExtractorFault (List Declaration)

end SpokenIndex
