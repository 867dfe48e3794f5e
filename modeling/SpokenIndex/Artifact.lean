/-
What a transcript can refer to.

The artifacts of a tree are its files, its folders, and the symbols that its source
files declare.  A declared name is a component if it begins with a capital letter and
a function otherwise, whatever form the declaration has.  The display name of an
artifact is its base name, and for a symbol its own name with the base name of its
file behind it.
-/
import SpokenIndex.Path
import SpokenIndex.Text.Uppercase

namespace SpokenIndex

/-- The forms of declaration that name a symbol. -/
inductive DeclarationForm where
  | classDeclaration
  | functionDeclaration
  | functionExpression
  deriving DecidableEq, Repr

namespace DeclarationForm

/-- The forms, in the order in which they are listed. -/
def all : List DeclarationForm := [classDeclaration, functionDeclaration, functionExpression]

/-- The name of a form. -/
def label : DeclarationForm → String
  | classDeclaration => "class"
  | functionDeclaration => "function_declaration"
  | functionExpression => "function_expression"

/-- The form of a given name. -/
def ofLabel? (s : String) : Option DeclarationForm :=
  all.find? (·.label == s)

end DeclarationForm

/-- A named declaration found in a source text. -/
structure Declaration where
  name : String
  form : DeclarationForm
  deriving DecidableEq, Repr

/-- The two kinds of symbol. -/
inductive SymbolKind where
  | component
  | function
  deriving DecidableEq, Repr

/-- The name of a kind of symbol. -/
def SymbolKind.label : SymbolKind → String
  | .component => "component"
  | .function => "function"

/-- The kind of symbol that a name makes. -/
def SymbolKind.ofName (name : String) : SymbolKind :=
  if Text.beginsWithCapital name then .component else .function

/-- A declared name with the file that declares it. -/
structure Symbol where
  name : String
  kind : SymbolKind
  owner : String
  deriving DecidableEq, Repr

/-- The symbol that a declaration in a file makes. -/
def Declaration.toSymbol (declaration : Declaration) (owner : String) : Symbol :=
  ⟨declaration.name, SymbolKind.ofName declaration.name, owner⟩

/-- The kinds of artifact. -/
inductive ArtifactKind where
  | file
  | folder
  | component
  | function
  deriving DecidableEq, Repr

namespace ArtifactKind

/-- The kinds, in the order in which they are listed. -/
def all : List ArtifactKind := [file, folder, component, function]

/-- The name of a kind. -/
def label : ArtifactKind → String
  | file => "file"
  | folder => "folder"
  | component => "component"
  | function => "function"

/-- The kind of a given name. -/
def ofLabel? (s : String) : Option ArtifactKind :=
  all.find? (·.label == s)

/-- Whether a kind is one of symbols. -/
def isSymbol : ArtifactKind → Bool
  | component => true
  | function => true
  | _ => false

end ArtifactKind

/-- How an artifact is shown. -/
def displayName (name path : String) (kind : ArtifactKind) : String :=
  if kind.isSymbol then name ++ " (" ++ Path.baseName path ++ ")" else Path.baseName path

end SpokenIndex
