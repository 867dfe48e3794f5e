/-
Programs.

Tying the knot: each goal is parsed by its construct, given the parsers of all goals
with one less of fuel.  From a goal to a goal within it at most a few steps are taken
without reading a character, so fuel in proportion to the length of the text is never
used up by a text that is well formed.
-/
import SpokenIndex.Script.Statement

namespace SpokenIndex.Script

open SpokenIndex.Text.Reader (attempt ahead require manyFrom)

/-- The parser of a goal. -/
def parseGoal (dialect : Dialect) : (fuel : Nat) → Goal → Parser Tree
  | 0, _ => failure
  | fuel + 1, goal =>
    let sc : Scope := ⟨dialect, fuel, parseGoal dialect fuel⟩
    match goal with
    | .statement => sc.statement
    | .sequence => sc.sequence
    | .expression => sc.expression false
    | .plainExpression => sc.expression true
    | .operand => sc.operand false
    | .plainOperand => sc.operand true
    | .pattern => sc.pattern
    | .typeNotation => sc.typeNotation
    | .element => sc.element

/-- The most steps from goal to goal before a character is read. -/
def stepsPerCharacter : Nat := 8

/-- Skips a first line that names an interpreter. -/
def skipInterpreter : List Char → List Char
  | '#' :: '!' :: rest => rest.dropWhile (· != '\n')
  | s => s

/-- The tree of a text, if the text is well formed. -/
def parse? (dialect : Dialect) (text : String) : Option Tree :=
  let s := skipInterpreter text.toList
  let fuel := stepsPerCharacter * (s.length + 2)
  match manyFrom (parseGoal dialect fuel .statement) fuel [] s with
  | some (statements, rest) =>
    if (nextToken rest).1 = .ending then some (.group statements) else none
  | none => none

end SpokenIndex.Script
