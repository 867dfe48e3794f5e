/-
Finding the declarations of a source text.

A script is parsed and its declarations are collected; a text that is not well formed
is refused.  A file of components holds scripts in blocks: its declarations are those
of its blocks, one block after the other, and the first block that is refused refuses
it as a whole.  How a script is read is a parameter of that rule.
-/
import SpokenIndex.Script.Program
import SpokenIndex.Source.Extractor
import SpokenIndex.Source.Vue

namespace SpokenIndex

/-- The dialect of a language; blocks of scripts have none of their own. -/
def Language.dialect? : Language → Option Script.Dialect
  | .javascript => some ⟨false, true⟩
  | .typescript => some ⟨true, false⟩
  | .tsx => some ⟨true, true⟩
  | .vue => none

/-- The refusal of a name that is no language. -/
def unsupportedLanguage (label : String) : ExtractorFault :=
  .refused ("Unsupported language: " ++ label)

/-- The declarations of a script. -/
def extractScript : Extractor := fun language text =>
  match language.dialect? with
  | none => .error (unsupportedLanguage language.label)
  | some dialect =>
    match Script.parse? dialect text with
    | some tree => .ok tree.declarations
    | none => .error (.refused ("Syntax error in " ++ language.label ++ " source"))

/-- The declarations of script blocks, in order. -/
def extractBlocks (script : Extractor) :
    List Vue.Block → Except ExtractorFault (List Declaration)
  | [] => .ok []
  | b :: rest =>
    match script (Vue.scriptLanguage b.attributes) (String.ofList b.body) with
    | .error fault => .error fault
    | .ok found => (extractBlocks script rest).map (found ++ ·)

/-- The declarations of a text, scripts being read by the given extractor. -/
def extractWith (script : Extractor) : Extractor := fun language text =>
  match language with
  | .vue => extractBlocks script (Vue.blocks text.toList)
  | language => script language text

/-- The declarations of a text. -/
def extract : Extractor :=
  extractWith extractScript

/-- The declarations of a text in the language of a given name. -/
def extractNamed (label text : String) : Except ExtractorFault (List Declaration) :=
  match Language.ofLabel? label with
  | some language => extract language text
  | none => .error (unsupportedLanguage label)

end SpokenIndex
