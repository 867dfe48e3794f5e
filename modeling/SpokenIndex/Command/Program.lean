/-
The commands of the program.

The program indexes a project and resolves transcripts against the index, lists the
files of the project, or keeps the index and resolves one transcript after the other.
Its options say where the settings are and which project is meant.  They are read
first, then the settings, then the words of the command.
-/
import SpokenIndex.Command.Scene
import SpokenIndex.Command.Session
import SpokenIndex.Pattern.Match
import SpokenIndex.Pattern.Reader
import SpokenIndex.Service
import SpokenIndex.Source.Extraction

namespace SpokenIndex.Command

/-! ### The commands -/

/-- The option that shows a page. -/
def helpOption : OptionForm := ⟨.help, none, "help", none, "Show this message and exit."⟩

/-- The option that names a file of settings. -/
def configOption : OptionForm :=
  ⟨.config, some 'c', "config", some "PATH", "Path to configuration file"⟩

/-- The option that names a project. -/
def projectOption : OptionForm :=
  ⟨.project, some 'p', "project", some "DIRECTORY",
    "Project root directory (defaults to the current directory)"⟩

/-- The options of the program. -/
def programOptions : List OptionForm :=
  [⟨.version, none, "version", none, "Show the version and exit."⟩, configOption,
    projectOption, ⟨.verbose, some 'v', "verbose", none, "Enable verbose logging"⟩, helpOption]

/-- The commands. -/
inductive Verb where
  | files
  | index
  | resolve
  | watch
  deriving DecidableEq, Repr

namespace Verb

/-- All commands in the order of their names. -/
def all : List Verb := [.files, .index, .resolve, .watch]

/-- The name of a command. -/
def label : Verb → String
  | files => "files"
  | index => "index"
  | resolve => "match"
  | watch => "watch"

/-- What a command is for. -/
def purpose : Verb → String
  | files => "List or search the files under the project root."
  | index => "Build the index and show its size."
  | resolve => "Resolve artifact references in a transcript."
  | watch => "Keep the index live and match transcripts read from stdin."

/-- What stands for the words of a transcript. -/
def transcriptText : String := "TRANSCRIPT..."

/-- The options of a command. -/
def options : Verb → List OptionForm
  | files =>
    [⟨.pattern, some 'r', "pattern", some "TEXT", "Regular expression searched in file names"⟩,
      ⟨.name, some 'n', "name", some "TEXT", "Exact file name to look for"⟩, helpOption]
  | _ => [helpOption]

end Verb

/-- What the program is called. -/
def programName : String := "cli"

/-- The form of the program. -/
def programForm : CommandForm where
  calledAs := programName
  usage := "[OPTIONS] COMMAND [ARGS]..."
  purpose := "voxref - resolve spoken phrases to files, components and functions."
  options := programOptions
  commands := Verb.all.map fun v => (v.label, v.purpose)

/-- The form of a command. -/
def Verb.form (v : Verb) : CommandForm where
  calledAs := programName ++ " " ++ v.label
  usage := if v = .resolve then "[OPTIONS] " ++ Verb.transcriptText else "[OPTIONS]"
  purpose := v.purpose
  options := v.options
  commands := []

/-- The version of the program. -/
def versionText : String := "voxref, version 0.1.0"

/-! ### Showing results -/

/-- The columns of a table of matches. -/
def matchColumns : List Display.Column :=
  [⟨"#", .left, some 3⟩, ⟨"Name", .left, none⟩, ⟨"Kind", .left, none⟩, ⟨"Path", .left, none⟩,
    ⟨"Score", .right, none⟩]

/-- A score with two places. -/
def scoreText (s : Score) : String :=
  toString (s.tenths / 10) ++ "." ++ toString (s.tenths % 10) ++ "0"

/-- The row of a match. -/
def matchRow (m : Matching.Match) (index : Nat) : List String :=
  [toString (index + 1), m.name, m.kind.label, m.path, scoreText m.score]

/-- Prints a resolved transcript. -/
def showResolution (width : Nat) (r : Matching.Resolution) : Act Unit := do
  let text := if r.annotated.isEmpty then "[dim](empty)[/dim]" else r.annotated
  putChars (← displayed (Display.panel width "Transcript" text))
  if r.found.isEmpty then inform width "No matches"
  else
    let rows := r.found.zipIdx.map fun (m, i) => matchRow m i
    putChars (← displayed (Display.table width none matchColumns rows))

/-- The columns of a table of sizes. -/
def sizeColumns : List Display.Column :=
  [⟨"Mapping", .left, none⟩, ⟨"Entries", .right, none⟩]

/-- The sizes of the mappings of an index. -/
def sizeRows (m : Mappings) : List (List String) :=
  [("files", m.files), ("folders", m.folders), ("components", m.components),
    ("functions", m.functions)].map fun (name, map) => [name, toString map.size]

/-! ### The work of the commands -/

/-- Indexes the project of settings. -/
def indexed (scene : Scene) (plan : ServicePlan) : Act ServiceState := do
  match plan.start scene.world none .empty with
  | (.ok (), service, _) => pure service
  | (.error fault, _, _) =>
    complain scene.screenWidth fault.message
    exit 1

/-- Resolves a transcript and prints what comes out. -/
def resolveAndShow (scene : Scene) (service : ServiceState) (transcript : String) : Act Unit :=
  match ServicePlan.find transcript service with
  | .ok r => showResolution scene.screenWidth r
  | .error fault => throw (.escape (.service fault))

/-- Prints the sizes of the index. -/
def runIndex (scene : Scene) (plan : ServicePlan) : Act Unit := do
  let service ← indexed scene plan
  say scene.screenWidth ("[bold]Root:[/bold] " ++ service.root.getD "None")
  putChars (← displayed (Display.table scene.screenWidth (some "Index") sizeColumns
    (sizeRows service.mappings)))

/-- Resolves one transcript. -/
def runResolve (scene : Scene) (plan : ServicePlan) (words : List String) : Act Unit := do
  let service ← indexed scene plan
  resolveAndShow scene service (" ".intercalate words)

/-- The transcripts in the lines of an input; blank lines have none. -/
def transcriptsOf (input : String) : List String :=
  ((Text.splitAt '\n' (plainLineEnds input.toList)).map Text.trim).filterMap fun line =>
    if line.isEmpty then none else some (String.ofList line)

/-- Resolves the transcripts of an input. -/
def runWatch (scene : Scene) (plan : ServicePlan) : Act Unit := do
  let service ← indexed scene plan
  inform scene.screenWidth "Watching for changes. Enter a transcript per line, Ctrl+D to stop."
  (transcriptsOf scene.input).forM (resolveAndShow scene service)

/-- The listing of the project of settings. -/
def listingOf (scene : Scene) (settings : Settings) : ListingPlan :=
  .forRoots scene.world.disk [settings.projectRoot] settings.listing.cacheSeconds
    settings.listing.ignorePatterns

/-- Says whether a file of a name is there. -/
def runFileName (scene : Scene) (listing : ListingPlan) (name : String) : Act Unit := do
  let (isThere, _, _) := listing.hasFile scene.world.disk scene.world.clock name .none
  if isThere then say scene.screenWidth (name ++ ": [green]found[/green]")
  else
    say scene.screenWidth (name ++ ": [red]not found[/red]")
    exit 1

/-- The files whose names a pattern is found in. -/
def filesFound (scene : Scene) (listing : ListingPlan) (pattern : String) :
    Act (List String) := do
  match Pattern.read false pattern with
  | .error problem => throw (.escape (.pattern pattern problem))
  | .ok e =>
    let (paths, _, _) :=
      listing.search scene.world.disk scene.world.clock e.occursIn .none
    pure paths

/-- Prints the files of the project, or those whose names a pattern is found in. -/
def runFileList (scene : Scene) (listing : ListingPlan) (pattern : String) : Act Unit := do
  let paths ←
    if pattern.isEmpty then
      pure (listing.list scene.world.disk scene.world.clock true .none).1
    else filesFound scene listing pattern
  paths.forM (sayWhole scene.screenWidth)
  inform scene.screenWidth ("Found " ++ toString paths.length ++ " files")

/-- Lists files or looks for one. -/
def runFiles (scene : Scene) (settings : Settings) (line : LineReading) : Act Unit := do
  let listing := listingOf scene settings
  let name := (line.value? .name).getD ""
  if name.isEmpty then runFileList scene listing ((line.value? .pattern).getD "")
  else runFileName scene listing name

/-! ### Command lines -/

/-- Reads the command line of a form. -/
def lineOf (form : CommandForm) (isOuter : Bool) (args : List String) : Act LineReading := do
  match readLine form.options isOuter none args with
  | .ok line => pure line
  | .error fault => misused form fault

/-- Shows a page or the version if one of these was asked for first, and ends. -/
def showPages (form : CommandForm) (line : LineReading) : Act Unit := do
  match line.order.find? fun o => o = .help ∨ o = .version with
  | some .help =>
    put form.page
    exit 0
  | some _ =>
    put [versionText]
    exit 0
  | none => pure ()

/-- Fails unless a path that an option names is there, and is a folder if it has to be. -/
def checkPath (scene : Scene) (form : OptionForm) (noun : String) (isFolder : Bool)
    (path : String) : Act Unit := do
  let disk := scene.world.disk
  let real := if path.isEmpty then "" else scene.site.absolute path
  if path.isEmpty || !disk.exists? real then
    misused programForm (.badValue form (noun ++ " " ++ Text.quoted path ++ " does not exist."))
  else if isFolder && disk.isFile real then
    misused programForm (.badValue form (noun ++ " " ++ Text.quoted path ++ " is a file."))

/-- Checks the paths that options of the program name, in the order of the options. -/
def checkPaths (scene : Scene) (line : LineReading) : Act Unit :=
  line.order.forM fun o =>
    match o, line.value? o with
    | .config, some path => checkPath scene configOption "Path" false path
    | .project, some path => checkPath scene projectOption "Directory" true path
    | _, _ => pure ()

/-- Fails because words name no command.  Words that look like options of the program are read
as such first, so that what is wrong with them is told instead. -/
def unknownCommand (scene : Scene) (words : List String) (word : String) : Act Verb := do
  if hasOptions word.toList then
    let line ← lineOf programForm true words
    showPages programForm line
    checkPaths scene line
  misused programForm (.noSuchCommand word)

/-- Runs a command with its own words. -/
def runVerb (scene : Scene) (settings : Settings) (v : Verb) (args : List String) : Act Unit := do
  let line ← lineOf v.form false args
  showPages v.form line
  if v = .resolve && line.words.isEmpty then misused v.form (.missing Verb.transcriptText)
  if v ≠ .resolve && !line.words.isEmpty then misused v.form (.excess line.words)
  let plan : ServicePlan := ⟨settings, extract⟩
  match v with
  | .index => runIndex scene plan
  | .resolve => runResolve scene plan line.words
  | .watch => runWatch scene plan
  | .files => runFiles scene settings line

/-- Runs the program. -/
def program (scene : Scene) (args : List String) : Act Unit := do
  if args.isEmpty then
    putErrors programForm.page
    exit 2
  let line ← lineOf programForm true args
  showPages programForm line
  checkPaths scene line
  match line.words with
  | [] => misused programForm .noCommand
  | word :: rest =>
    let v ←
      match Verb.all.find? (·.label == word) with
      | some v => pure v
      | none => unknownCommand scene (word :: rest) word
    match scene.site.load (line.value? .config) (line.value? .project) with
    | .error fault => throw (.escape (.settings fault))
    | .ok settings => runVerb scene settings v rest

/-- What a command line comes to. -/
def run (scene : Scene) (args : List String) : Outcome :=
  (program scene args).outcome

end SpokenIndex.Command
