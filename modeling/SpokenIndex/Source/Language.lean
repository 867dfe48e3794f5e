/-
The languages of source files.

The extension of a file, in any case, tells its language; other files are no source
code.
-/
import SpokenIndex.Path
import SpokenIndex.Text.Lowercase

namespace SpokenIndex

/-- The languages in which declarations are found. -/
inductive Language where
  | javascript
  | typescript
  | tsx
  | vue
  deriving DecidableEq, Repr

namespace Language

/-- The languages, in the order in which they are listed. -/
def all : List Language := [javascript, typescript, tsx, vue]

/-- The name of a language. -/
def label : Language → String
  | javascript => "javascript"
  | typescript => "typescript"
  | tsx => "tsx"
  | vue => "vue"

/-- The language of a given name. -/
def ofLabel? (s : String) : Option Language :=
  all.find? (·.label == s)

/-- Extensions and their languages. -/
def byExtension : List (String × Language) :=
  [(".js", javascript), (".jsx", javascript), (".ts", typescript), (".tsx", tsx), (".vue", vue)]

/-- The language of a file. -/
def ofPath? (path : String) : Option Language :=
  (byExtension.find? (·.1 == Text.lowercase (Path.extension path))).map Prod.snd

end Language

end SpokenIndex
