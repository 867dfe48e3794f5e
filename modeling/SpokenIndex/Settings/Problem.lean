/-
What can be wrong with settings.

A problem has a place, the way from the whole to the part that is wrong, and a
complaint.  Each complaint has a code and a wording; bounds are written as whole
numbers.
-/
namespace SpokenIndex.Settings

/-- A step on the way to a part: the name of a field or the index of an item. -/
inductive Place where
  | field (name : String)
  | item (index : Nat)
  deriving DecidableEq, Repr

/-- Why a part is not accepted. -/
inductive Complaint where
  | belowBound (bound : Nat)
  | aboveBound (bound : Nat)
  | noWhole
  | noWholeText
  | fractional
  | tooManyDigits
  | notFinite
  | noNumber
  | noNumberText
  | noText
  | noList
  | noTable (model : String)
  | noLevel
  | unknownField
  | rejected (reason : String)
  deriving DecidableEq, Repr

namespace Complaint

/-- The code of a complaint. -/
def code : Complaint → String
  | belowBound _ => "greater_than_equal"
  | aboveBound _ => "less_than_equal"
  | noWhole => "int_type"
  | noWholeText => "int_parsing"
  | fractional => "int_from_float"
  | tooManyDigits => "int_parsing_size"
  | notFinite => "finite_number"
  | noNumber => "float_type"
  | noNumberText => "float_parsing"
  | noText => "string_type"
  | noList => "list_type"
  | noTable _ => "model_type"
  | noLevel => "literal_error"
  | unknownField => "extra_forbidden"
  | rejected _ => "value_error"

/-- The wording of a complaint. -/
def message : Complaint → String
  | belowBound n => "Input should be greater than or equal to " ++ toString n
  | aboveBound n => "Input should be less than or equal to " ++ toString n
  | noWhole => "Input should be a valid integer"
  | noWholeText => "Input should be a valid integer, unable to parse string as an integer"
  | fractional => "Input should be a valid integer, got a number with a fractional part"
  | tooManyDigits => "Unable to parse input string as an integer, exceeded maximum size"
  | notFinite => "Input should be a finite number"
  | noNumber => "Input should be a valid number"
  | noNumberText => "Input should be a valid number, unable to parse string as a number"
  | noText => "Input should be a valid string"
  | noList => "Input should be a valid list"
  | noTable model => "Input should be a valid dictionary or instance of " ++ model
  | noLevel => "Input should be 'DEBUG', 'INFO', 'WARNING' or 'ERROR'"
  | unknownField => "Extra inputs are not permitted"
  | rejected reason => "Value error, " ++ reason

end Complaint

/-- A complaint about the part at a place. -/
structure Problem where
  place : List Place
  complaint : Complaint
  deriving DecidableEq, Repr

/-- The place of a problem in words, its steps with dots between them. -/
def placeText (place : List Place) : String :=
  ".".intercalate (place.map fun | .field name => name | .item index => toString index)

/-- The problem in words. -/
def Problem.text (p : Problem) : String :=
  placeText p.place ++ ": " ++ p.complaint.message

/-- The same problem seen from one step further out. -/
def Problem.inside (step : Place) (p : Problem) : Problem :=
  { p with place := step :: p.place }

/-- A value, or all that is wrong with it. -/
abbrev Checked (α : Type) := Except (List Problem) α

/-- A value that is wrong as a whole. -/
def Checked.fail {α : Type} (c : Complaint) : Checked α :=
  .error [⟨[], c⟩]

/-- What is wrong with a value, nothing if it is accepted. -/
def Checked.problems {α : Type} : Checked α → List Problem
  | .ok _ => []
  | .error ps => ps

/-- The same answer for a part one step further in. -/
def Checked.inside {α : Type} (step : Place) (c : Checked α) : Checked α :=
  c.mapError (·.map (Problem.inside step))

end SpokenIndex.Settings
