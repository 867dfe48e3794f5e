/-
The options of a command line.

An option has a long name behind two dashes and may have a letter behind one.  A value
follows as the next word, or behind an equals sign, or right behind the letter; letters
without values may stand together.  Two dashes end the options.  Where a command has
commands of its own, its options end with the first other word.
-/
import SpokenIndex.Text.Closeness

namespace SpokenIndex.Command

/-- The options that there are. -/
inductive OptionName where
  | version
  | config
  | project
  | verbose
  | pattern
  | name
  | help
  deriving DecidableEq, Repr

/-- What an option looks like. -/
structure OptionForm where
  option : OptionName
  letter : Option Char
  long : String
  /-- What stands for the value, if there is one. -/
  value : Option String
  /-- What the option is for. -/
  purpose : String

/-- The option with its dashes, as it is written in full. -/
def OptionForm.longText (form : OptionForm) : String := "--" ++ form.long

/-- The letter of an option with its dash. -/
def letterText (c : Char) : String := String.ofList ['-', c]

/-- What is wrong with a command line. -/
inductive UsageFault where
  | noSuchOption (written : String) (close : List String)
  | needsValue (written : String)
  | takesNoValue (written : String)
  | noSuchCommand (written : String)
  | noCommand
  | missing (argument : String)
  | excess (arguments : List String)
  | badValue (form : OptionForm) (complaint : String)

/-- The value of an option where it was given: nothing for one without a value. -/
abbrev Given := OptionName × Option String

/-- What a word of options gives, and an option as it was written that has its value in the
next word. -/
structure WordReading where
  given : List Given
  waiting : Option (OptionForm × String)

/-! ### Words -/

/-- Whether a word has options. -/
def hasOptions (word : List Char) : Bool :=
  match word with
  | '-' :: _ :: _ => true
  | _ => false

/-- What letters behind a dash give. -/
def readLetters (forms : List OptionForm) (given : List Given) :
    List Char → Except UsageFault WordReading
  | [] => .ok ⟨given.reverse, none⟩
  | c :: rest =>
    match forms.find? (·.letter == some c) with
    | none => .error (.noSuchOption (letterText c) [])
    | some form =>
      if form.value.isNone then readLetters forms ((form.option, none) :: given) rest
      else if rest.isEmpty then .ok ⟨given.reverse, some (form, letterText c)⟩
      else .ok ⟨((form.option, some (String.ofList rest)) :: given).reverse, none⟩

/-- What a word that begins with a dash gives. -/
def readWord (forms : List OptionForm) (word : List Char) : Except UsageFault WordReading :=
  let name := String.ofList (word.takeWhile (· != '='))
  let value :=
    if word.contains '=' then some (String.ofList ((word.dropWhile (· != '=')).drop 1)) else none
  match forms.find? (·.longText == name), value with
  | some form, some value =>
    if form.value.isSome then .ok ⟨[(form.option, some value)], none⟩
    else .error (.takesNoValue name)
  | some form, none =>
    if form.value.isSome then .ok ⟨[], some (form, name)⟩ else .ok ⟨[(form.option, none)], none⟩
  | none, _ =>
    match word with
    | '-' :: '-' :: _ =>
      .error (.noSuchOption name (Text.closeWords name (forms.map (·.longText))))
    | _ => readLetters forms [] word.tail

/-! ### Command lines -/

/-- What a command line gives: options in the order in which they were given, and other
words. -/
structure LineReading where
  given : List Given
  words : List String

/-- Reads a command line; `waiting` is an option that has its value next.  With `isOuter` the
options end with the first other word. -/
def readLine (forms : List OptionForm) (isOuter : Bool) :
    (waiting : Option (OptionForm × String)) → List String → Except UsageFault LineReading
  | some (_, written), [] => .error (.needsValue written)
  | none, [] => .ok ⟨[], []⟩
  | some (form, _), value :: rest =>
    (readLine forms isOuter none rest).map fun r =>
      { r with given := (form.option, some value) :: r.given }
  | none, word :: rest =>
    if word == "--" then .ok ⟨[], rest⟩
    else if hasOptions word.toList then
      match readWord forms word.toList with
      | .error fault => .error fault
      | .ok reading =>
        (readLine forms isOuter reading.waiting rest).map fun r =>
          { r with given := reading.given ++ r.given }
    else if isOuter then .ok ⟨[], word :: rest⟩
    else
      (readLine forms isOuter none rest).map fun r => { r with words := word :: r.words }

/-- Whether an option was given. -/
def LineReading.has (r : LineReading) (option : OptionName) : Bool :=
  r.given.any (·.1 == option)

/-- The value of an option; of several the last counts. -/
def LineReading.value? (r : LineReading) (option : OptionName) : Option String :=
  (r.given.reverse.find? (·.1 == option)).bind (·.2)

/-- The options that were given, each once, in the order of their first places. -/
def LineReading.order (r : LineReading) : List OptionName :=
  (r.given.map (·.1)).foldl (fun seen o => if seen.contains o then seen else seen ++ [o]) []

end SpokenIndex.Command
