/-
Settings in files.

A file of settings is TOML, YAML or JSON by the suffix of its name.  What it says is
laid over the environment.  A project has its settings in one of a few files below its
root, of which the first that exists counts, unless a file is named that exists; its
root is the root of the project whatever the file says.
-/
import SpokenIndex.Disk.Basic
import SpokenIndex.Document.Json
import SpokenIndex.Document.Toml.Reader
import SpokenIndex.Document.Yaml.Reader
import SpokenIndex.Settings.Environment
import SpokenIndex.Source.Reading

namespace SpokenIndex.Settings

/-! ### Formats -/

/-- The formats of files of settings. -/
inductive FileFormat where
  | toml
  | yaml
  | json
  deriving DecidableEq, Repr

/-- The format that a lowercase suffix tells. -/
def FileFormat.ofSuffix? : String → Option FileFormat
  | ".toml" => some .toml
  | ".yaml" => some .yaml
  | ".yml" => some .yaml
  | ".json" => some .json
  | _ => none

/-- The name of a format. -/
def FileFormat.label : FileFormat → String
  | toml => "TOML"
  | yaml => "YAML"
  | json => "JSON"

/-- The value of a document.  In YAML a value that counts as nothing is an empty table. -/
def FileFormat.read? (format : FileFormat) (text : String) : Option Value :=
  match format with
  | toml => Document.Toml.read? text
  | json => Document.Json.read? text
  | yaml => (Document.Yaml.read? text).map fun v => if v.isVoid then .table [] else v

/-! ### Faults -/

/-- Why a file gives no settings. -/
inductive FileFault where
  | missing (path : String)
  | unreadable (fault : Fault) (path : String)
  | notText (fault : Utf8.Fault)
  | unknownFormat (suffix : String)
  | malformed (format : FileFormat)
  /-- The document is no table whose keys are texts. -/
  | notTable
  /-- What it says does not fit. -/
  | unfit (fault : SourceFault)
  deriving DecidableEq, Repr

/-- The fault as a message. -/
def FileFault.message : FileFault → String
  | missing path => "Configuration file not found: " ++ path
  | unreadable fault path => fault.message path
  | notText fault => fault.message
  | unknownFormat suffix => "Unsupported config format: " ++ suffix
  | malformed format => "Malformed " ++ format.label ++ " document"
  | notTable => "Settings are no table"
  | unfit fault => fault.message

/-! ### Reading a file -/

/-- Where settings are looked for: a disk, the directory in which relative paths begin, and an
environment. -/
structure Site where
  disk : Disk
  workDir : String
  env : List (String × String)

/-- A path as an absolute one. -/
def Site.absolute (site : Site) (path : String) : String :=
  String.ofList (Path.absolute site.workDir.toList path.toList)

/-- The real form of a path. -/
def Site.resolve (site : Site) (path : String) : String :=
  site.disk.resolve (site.absolute path)

/-- The settings that entries make at a site. -/
def Site.settings (site : Site) (entries : List (Key × Value)) :
    Except SourceFault SpokenIndex.Settings :=
  ofSources site.resolve site.workDir site.env entries

/-- The text of a file of settings. -/
def Site.fileText (site : Site) (path : String) : Except FileFault String :=
  match site.disk.read (site.absolute path) with
  | .error fault => .error (.unreadable fault path)
  | .ok content => (textOfBytes content).mapError .notText

/-- The entries of a value that is a table whose keys are texts. -/
def namedEntries? : Value → Option (List (Key × Value))
  | .table entries => if entries.any (·.1 == .nameless) then none else some entries
  | _ => none

/-- The lowercase suffix of the name of a file. -/
def suffixOf (path : String) : String :=
  Text.lowercase (String.ofList (Path.suffix (Path.base path.toList)))

/-- The settings in a file at a tidy path. -/
def Site.readFile (site : Site) (path : String) : Except FileFault SpokenIndex.Settings :=
  if !site.disk.exists? (site.absolute path) then .error (.missing path)
  else
    match site.fileText path with
    | .error fault => .error fault
    | .ok text =>
      match FileFormat.ofSuffix? (suffixOf path) with
      | none => .error (.unknownFormat (suffixOf path))
      | some format =>
        match format.read? text with
        | none => .error (.malformed format)
        | some v =>
          match namedEntries? v with
          | none => .error .notTable
          | some entries =>
            match site.settings entries with
            | .ok settings => .ok settings
            | .error fault => .error (.unfit fault)

/-- The settings in a file. -/
def Site.fromFile (site : Site) (path : String) : Except FileFault SpokenIndex.Settings :=
  site.readFile (String.ofList (Path.tidy path.toList))

/-! ### The settings of a project -/

/-- The files in which a project has its settings, the one that counts most first. -/
def projectFiles : List String :=
  ["voxref.toml", ".voxref/config.toml", "voxref.yaml", ".voxref/config.yaml"]

/-- The file that has the settings of the project at a root. -/
def Site.projectFile? (site : Site) (file : Option String) (root : String) : Option String :=
  let below := (projectFiles.map (Path.join root)).find? site.disk.exists?
  match file with
  | some path => if site.disk.exists? (site.absolute path) then some path else below
  | none => below

/-- The settings of a project: of the one at a root, or else at the working directory. -/
def Site.load (site : Site) (file root : Option String) :
    Except FileFault SpokenIndex.Settings :=
  let root := site.resolve (root.getD "")
  match site.projectFile? file root with
  | some path =>
    (site.fromFile path).map fun settings => { settings with projectRoot := root }
  | none =>
    match site.settings [(.name "project_root", .text root)] with
    | .ok settings => .ok settings
    | .error fault => .error (.unfit fault)

end SpokenIndex.Settings
