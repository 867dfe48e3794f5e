/-
Patterns that are searched for in names.

A pattern is an expression over characters, places between them and what was captured
before.  How letters are compared and what `.` and the edges of lines mean is part of
each place where it matters, so an expression means the same wherever it stands.
-/
namespace SpokenIndex.Pattern

/-- In which way a part of a pattern is meant. -/
structure Modes where
  /-- Letters are the same whatever their case. -/
  ignoresCase : Bool
  /-- The edges of lines are meant, not those of the text. -/
  eachLine : Bool
  /-- A dot stands for a line feed too. -/
  dotIsAll : Bool
  /-- Blanks and comments in the pattern count for nothing. -/
  spaced : Bool
  /-- Only ASCII has letters, digits and blanks. -/
  asciiOnly : Bool
  deriving DecidableEq, Repr

/-- Every mode switched off. -/
def Modes.plain : Modes := ⟨false, false, false, false, false⟩

/-- The kinds of characters that have a name. -/
inductive CharKind where
  | digit
  | blank
  | wordChar
  deriving DecidableEq, Repr

/-- An item of a set of characters. -/
inductive SetItem where
  | code (n : Nat)
  | range (low high : Nat)
  | kind (k : CharKind) (negated : Bool)
  deriving DecidableEq, Repr

/-- Places between characters. -/
inductive Place where
  | textStart
  | textEnd
  /-- At the end, or before a line feed at the end. -/
  | lastLineEnd
  | lineStart
  | lineEnd
  /-- Between a word character and another one, or not so. -/
  | wordEdge (asciiOnly negated : Bool)
  deriving DecidableEq, Repr

/-- How a repetition goes on. -/
inductive Eagerness where
  /-- As often as possible, less often if need be. -/
  | greedy
  /-- As seldom as possible, more often if need be. -/
  | lazy
  /-- As often as possible and no less. -/
  | possessive
  deriving DecidableEq, Repr

/-- How many characters an expression takes at least and at most. -/
structure Width where
  least : Nat
  most : Option Nat
  deriving DecidableEq, Repr

/-- Expressions. -/
inductive Expression where
  | char (modes : Modes) (negated : Bool) (items : List SetItem)
  | place (p : Place)
  | sequence (parts : List Expression)
  | choice (alternatives : List Expression)
  | repetition (eagerness : Eagerness) (least : Nat) (most : Option Nat) (part : Expression)
  | capture (group : Nat) (part : Expression)
  /-- The first way in which the part fits, and no other. -/
  | atomic (part : Expression)
  | ahead (wanted : Bool) (part : Expression)
  | behind (wanted : Bool) (width : Width) (part : Expression)
  | sameAs (modes : Modes) (group : Nat)
  /-- One of two parts, by whether a group has captured something. -/
  | conditional (group : Nat) (yes no : Expression)
  deriving Repr

instance : Inhabited Expression := ⟨.sequence []⟩

/-- The expression that fits everywhere and takes nothing. -/
def Expression.nothing : Expression := .sequence []

/-- The character of a code. -/
def Expression.code (modes : Modes) (n : Nat) : Expression := .char modes false [.code n]

/-! ### Widths -/

namespace Width

/-- The width of one thing behind another. -/
def add (a b : Width) : Width :=
  ⟨a.least + b.least, a.most.bind fun m => b.most.map (m + ·)⟩

/-- The width of one thing or another. -/
def either (a b : Width) : Width :=
  ⟨min a.least b.least, a.most.bind fun m => b.most.map (max m)⟩

/-- The width of a thing that is repeated. -/
def times (a : Width) (least : Nat) (most : Option Nat) : Width :=
  ⟨a.least * least,
    if a.most == some 0 || most == some 0 then some 0
    else a.most.bind fun m => most.map (m * ·)⟩

/-- The width of nothing. -/
def zero : Width := ⟨0, some 0⟩

end Width

mutual

/-- The width of an expression, by the widths of the groups before it. -/
def Expression.width (groups : Nat → Width) : Expression → Width
  | .char _ _ _ => ⟨1, some 1⟩
  | .place _ => .zero
  | .sequence parts => widthOfParts groups parts
  | .choice alternatives => widthOfAlternatives groups alternatives
  | .repetition _ least most part => (part.width groups).times least most
  | .capture _ part => part.width groups
  | .atomic part => part.width groups
  | .ahead _ _ => .zero
  | .behind _ _ _ => .zero
  | .sameAs _ group => groups group
  | .conditional _ yes no => (yes.width groups).either (no.width groups)

/-- The width of expressions behind each other. -/
def widthOfParts (groups : Nat → Width) : List Expression → Width
  | [] => .zero
  | part :: rest => (part.width groups).add (widthOfParts groups rest)

/-- The width of the one of some expressions that fits. -/
def widthOfAlternatives (groups : Nat → Width) : List Expression → Width
  | [] => .zero
  | [part] => part.width groups
  | part :: rest => (part.width groups).either (widthOfAlternatives groups rest)

end

/-! ### Looking behind

What is looked for behind a place begins a known number of characters before it.
-/

mutual

/-- The widths of all that an expression looks for behind places, outer ones first. -/
def Expression.widthsBehind : Expression → List Width
  | .char _ _ _ => []
  | .place _ => []
  | .sequence parts => widthsBehindIn parts
  | .choice alternatives => widthsBehindIn alternatives
  | .repetition _ _ _ part => part.widthsBehind
  | .capture _ part => part.widthsBehind
  | .atomic part => part.widthsBehind
  | .ahead _ part => part.widthsBehind
  | .behind _ width part => width :: part.widthsBehind
  | .sameAs _ _ => []
  | .conditional _ yes no => yes.widthsBehind ++ no.widthsBehind

/-- The widths of all that some expressions look for behind places. -/
def widthsBehindIn : List Expression → List Width
  | [] => []
  | part :: rest => part.widthsBehind ++ widthsBehindIn rest

end

end SpokenIndex.Pattern
