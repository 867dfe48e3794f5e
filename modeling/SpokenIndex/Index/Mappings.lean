/-
The four mappings of an index.

Files and folders are found under lowercase names, symbols under their own.  A key
leads to one path, the one registered last; the order of a mapping is that of first
registration, and ties between candidates are broken by it.
-/
import SpokenIndex.Collection.OrderedMap

namespace SpokenIndex

/-- Names and the paths they lead to. -/
abbrev NameMap := OrderedMap String String

/-- The mappings from names of artifacts to paths. -/
@[ext] structure Mappings where
  files : NameMap
  folders : NameMap
  components : NameMap
  functions : NameMap

/-- The mappings of an index that holds nothing. -/
def Mappings.empty : Mappings := ⟨.empty, .empty, .empty, .empty⟩

instance : Inhabited Mappings := ⟨.empty⟩

end SpokenIndex
