/-
What the commands say of themselves.

A command is described by a page with its usage, its purpose, its options and its own
commands.  A complaint about a command line names the usage and where help is.
-/
import SpokenIndex.Command.Option
import SpokenIndex.Text.Blank
import SpokenIndex.Text.Quoted

namespace SpokenIndex.Command

/-- What a command is called and takes. -/
structure CommandForm where
  /-- The words that call the command. -/
  calledAs : String
  /-- What follows those words. -/
  usage : String
  purpose : String
  options : List OptionForm
  /-- The commands of the command, and what they are for. -/
  commands : List (String × String)

/-! ### The usage -/

/-- How a command is used. -/
def CommandForm.usageLine (form : CommandForm) : String :=
  "Usage: " ++ form.calledAs ++ " " ++ form.usage

/-! ### Rows of two columns -/

/-- How many characters a line of a page has. -/
def pageWidth : Nat := 78

/-- How far columns are apart, and how far they are from the edge. -/
def spacing : Nat := 2

/-- Fills lines with words; `line` is the one that is being filled. -/
def fillLines (room : Nat) (line : String) : List String → List String
  | [] => [line]
  | w :: rest =>
    if line.isEmpty then fillLines room w rest
    else if line.length + 1 + w.length ≤ room then fillLines room (line ++ " " ++ w) rest
    else line :: fillLines room w rest

/-- A number of blanks. -/
def indent (n : Nat) : String := String.ofList (List.replicate n ' ')

/-- Rows of two columns, the second broken into lines. -/
def twoColumns (rows : List (String × String)) : List String :=
  let first := (rows.map (·.1.length)).foldl max 0 + spacing
  rows.flatMap fun (a, b) =>
    match fillLines (pageWidth - first - spacing) "" (b.splitOn " ") with
    | [] => [indent spacing ++ a]
    | line :: more =>
      (indent spacing ++ a ++ indent (first - a.length) ++ line)
        :: more.map fun l => indent (first + spacing) ++ l

/-! ### Pages -/

/-- How an option is written on a page. -/
def OptionForm.text (form : OptionForm) : String :=
  (form.letter.map fun c => letterText c ++ ", ").getD "" ++ form.longText
    ++ (form.value.map (" " ++ ·)).getD ""

/-- The lines of the page of a command. -/
def CommandForm.page (form : CommandForm) : List String :=
  let commands :=
    if form.commands.isEmpty then []
    else "" :: "Commands:" :: twoColumns form.commands
  [form.usageLine, "", indent spacing ++ form.purpose, "", "Options:"]
    ++ twoColumns (form.options.map fun o => (o.text, o.purpose)) ++ commands

/-! ### Complaints -/

/-- How an option is named in complaints about its value. -/
def OptionForm.hint (form : OptionForm) : String :=
  Text.quoted form.longText
    ++ (form.letter.map fun c => " / " ++ Text.quoted (letterText c)).getD ""

/-- Close names that may have been meant. -/
def meantText : List String → String
  | [] => ""
  | [name] => " Did you mean " ++ name ++ "?"
  | names => " (Possible options: " ++ ", ".intercalate names ++ ")"

/-- What is wrong with a command line, in words. -/
def UsageFault.message : UsageFault → String
  | noSuchOption written close => "No such option: " ++ written ++ meantText close
  | needsValue written => "Option " ++ Text.quoted written ++ " requires an argument."
  | takesNoValue written => "Option " ++ Text.quoted written ++ " does not take a value."
  | noSuchCommand written => "No such command " ++ Text.quoted written ++ "."
  | noCommand => "Missing command."
  | missing argument => "Missing argument " ++ Text.quoted argument ++ "."
  | excess arguments =>
    "Got unexpected extra argument" ++ (if arguments.length = 1 then "" else "s") ++ " ("
      ++ " ".intercalate arguments ++ ")"
  | badValue form complaint => "Invalid value for " ++ form.hint ++ ": " ++ complaint

/-- The lines of a complaint about the use of a command. -/
def CommandForm.complaint (form : CommandForm) (fault : UsageFault) : List String :=
  [form.usageLine, "Try '" ++ form.calledAs ++ " --help' for help.", "",
    "Error: " ++ fault.message]

end SpokenIndex.Command
