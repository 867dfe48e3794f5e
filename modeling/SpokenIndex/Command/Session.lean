/-
Running a command.

A command prints lines and ends: by itself, with an exit code, or because of a fault that
it does not handle.  What was printed before stays printed.
-/
import SpokenIndex.Command.Page
import SpokenIndex.Display.Box
import SpokenIndex.Pattern.Problem
import SpokenIndex.Service
import SpokenIndex.Settings.File

namespace SpokenIndex.Command

/-- Faults that a command does not handle. -/
inductive Escape where
  | settings (fault : Settings.FileFault)
  | pattern (text : String) (problem : Pattern.Problem)
  | service (fault : ServiceFault)
  | markup (fault : Display.MarkupFault)
  deriving DecidableEq, Repr

/-- The fault as a message. -/
def Escape.message : Escape → String
  | settings fault => fault.message
  | pattern text problem => problem.message text
  | service fault => fault.message
  | markup fault => fault.message

/-- Why a command ends before its end. -/
inductive Ending where
  | exit (code : Nat)
  | escape (fault : Escape)
  deriving DecidableEq, Repr

/-- What was printed. -/
structure Printed where
  lines : List String
  errorLines : List String
  deriving DecidableEq, Repr

/-- Nothing printed yet. -/
def Printed.none : Printed := ⟨[], []⟩

/-- A step of running a command. -/
abbrev Act := ExceptT Ending (StateM Printed)

/-- What running a command came to. -/
structure Outcome where
  code : Nat
  printed : Printed
  escaped : Option Escape
  deriving DecidableEq, Repr

/-- Runs a command from its beginning. -/
def Act.outcome (act : Act Unit) : Outcome :=
  match act.run.run .none with
  | (.ok (), printed) => ⟨0, printed, .none⟩
  | (.error (.exit code), printed) => ⟨code, printed, .none⟩
  | (.error (.escape fault), printed) => ⟨1, printed, some fault⟩

/-! ### Printing -/

/-- Prints lines. -/
def put (lines : List String) : Act Unit :=
  modify fun p => { p with lines := p.lines ++ lines }

/-- Prints lines as errors. -/
def putErrors (lines : List String) : Act Unit :=
  modify fun p => { p with errorLines := p.errorLines ++ lines }

/-- Ends the command with an exit code. -/
def exit {α : Type} (code : Nat) : Act α :=
  throw (.exit code)

/-- Goes on with what a display makes, or ends with its fault. -/
def displayed {α : Type} (r : Except Display.MarkupFault α) : Act α :=
  match r with
  | .ok a => pure a
  | .error fault => throw (.escape (.markup fault))

/-- Prints lines of characters. -/
def putChars (lines : List (List Char)) : Act Unit :=
  put (lines.map String.ofList)

/-- The lines of a marked text on a screen of a width. -/
def screenLines (width : Nat) (markup : String) : Act (List String) := do
  let s ← displayed (Display.shown markup)
  return (Display.linesOf .natural .fold width s).map String.ofList

/-- Prints a marked text. -/
def say (width : Nat) (markup : String) : Act Unit := do
  put (← screenLines width markup)

/-- Prints a marked text behind a sign that it is for information. -/
def inform (width : Nat) (markup : String) : Act Unit :=
  say width ("[bold blue]i[/bold blue] " ++ markup)

/-- Prints a marked text as an error. -/
def complain (width : Nat) (markup : String) : Act Unit := do
  putErrors (← screenLines width ("[bold red]Error:[/bold red] " ++ markup))

/-- Prints a marked text whose lines are not broken. -/
def sayWhole (width : Nat) (markup : String) : Act Unit := do
  let s ← displayed (Display.shown markup)
  putChars (Display.wholeLines width s)

/-- Complains about the use of a command and ends. -/
def misused {α : Type} (form : CommandForm) (fault : UsageFault) : Act α := do
  putErrors (form.complaint fault)
  exit 2

end SpokenIndex.Command
