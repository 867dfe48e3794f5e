/-
Syntax trees and the declarations in them.

A tree is a node with the trees beneath it, in the order of the text.  A node keeps
only what declarations are read from: what kind of construct it is, the part that it
plays in the node above it, and its text where that is a name.

Declarations are collected with a stack: the topmost tree is taken off, its own
declaration is noted, and the trees beneath it are put on in its place, first on top.
`nodes` lists all nodes of a tree by recursion on the tree, a node before those beneath
it; the stack visits them in that order.
-/
import SpokenIndex.Artifact

namespace SpokenIndex.Script

/-- The kinds of construct that are told apart. -/
inductive NodeKind where
  | classDeclaration
  | functionDeclaration
  | variableDeclarator
  /-- An arrow function, a function expression or a generator expression. -/
  | functionValue
  | identifier
  /-- A member, an element or an expression in parentheses: it can be assigned to. -/
  | reference
  /-- An array or an object: as a pattern it can be assigned to. -/
  | collection
  /-- An array or an object that makes sense as a pattern only. -/
  | bareTarget
  | other
  deriving DecidableEq, Repr

/-- The parts that a node plays in the node above it. -/
inductive Role where
  | name
  | value
  | member
  deriving DecidableEq, Repr

/-- What a node keeps of a construct. -/
structure NodeLabel where
  kind : NodeKind
  role : Role
  text : String
  deriving DecidableEq, Repr

/-- A node and the trees beneath it. -/
inductive Tree where
  | node (label : NodeLabel) (beneath : List Tree)

namespace Tree

/-- The label of the topmost node. -/
def label : Tree → NodeLabel
  | .node label _ => label

/-- The trees right beneath the topmost node. -/
def beneath : Tree → List Tree
  | .node _ beneath => beneath

/-- The kind of the topmost node. -/
def kind (t : Tree) : NodeKind := t.label.kind

/-- A construct of a kind, made of the given trees. -/
def ofKind (kind : NodeKind) (beneath : List Tree) : Tree :=
  .node ⟨kind, .member, ""⟩ beneath

/-- Trees in a row that make no construct that is told apart. -/
def group (beneath : List Tree) : Tree :=
  ofKind .other beneath

/-- A construct without anything of interest in it. -/
def blank : Tree := group []

/-- A name. -/
def named (text : String) : Tree :=
  .node ⟨.identifier, .member, text⟩ []

/-- The same tree in another role. -/
def withRole (role : Role) : Tree → Tree
  | .node label beneath => .node { label with role := role } beneath

/-- The first tree beneath that plays a role. -/
def part? (t : Tree) (role : Role) : Option Tree :=
  t.beneath.find? fun u => decide (u.label.role = role)

/-! ### Declarations -/

/-- A declaration of a form under the name that a tree holds, unless that is empty. -/
def declared? (form : DeclarationForm) (name : Tree) : Option Declaration :=
  if name.label.text.isEmpty then none else some ⟨name.label.text, form⟩

/-- The declaration that the topmost node makes: a class or function with a name, or a name
that a variable gives to a function. -/
def declaration? (t : Tree) : Option Declaration :=
  match t.kind with
  | .classDeclaration => (t.part? .name).bind (declared? .classDeclaration)
  | .functionDeclaration => (t.part? .name).bind (declared? .functionDeclaration)
  | .variableDeclarator =>
    match t.part? .value, t.part? .name with
    | some value, some name =>
      if value.kind = .functionValue ∧ name.kind = .identifier then
        declared? .functionExpression name
      else none
    | _, _ => none
  | _ => none

/-! ### All nodes -/

mutual

/-- How many nodes a tree has. -/
def size : Tree → Nat
  | .node _ beneath => sizeAll beneath + 1

/-- How many nodes some trees have. -/
def sizeAll : List Tree → Nat
  | [] => 0
  | t :: rest => t.size + sizeAll rest

end

mutual

/-- The trees whose top is a node of the given one: itself, then those beneath. -/
def nodes : Tree → List Tree
  | .node label beneath => .node label beneath :: nodesAll beneath

/-- The nodes of trees in a row. -/
def nodesAll : List Tree → List Tree
  | [] => []
  | t :: rest => t.nodes ++ nodesAll rest

end

theorem sizeAll_append (a b : List Tree) : sizeAll (a ++ b) = sizeAll a + sizeAll b := by
  induction a with
  | nil => simp [sizeAll]
  | cons t rest ih => simp [sizeAll, ih, Nat.add_assoc]

theorem sizeAll_beneath_append_lt (t : Tree) (rest : List Tree) :
    sizeAll (t.beneath ++ rest) < sizeAll (t :: rest) := by
  cases t with
  | node label beneath => simp [Tree.beneath, sizeAll_append, sizeAll, size]

/-- The declarations of the trees on a stack, topmost tree first; `found` are those noted
so far, latest first. -/
def collectFrom (stack : List Tree) (found : List Declaration) : List Declaration :=
  match stack with
  | [] => found.reverse
  | t :: rest => collectFrom (t.beneath ++ rest) (t.declaration?.toList ++ found)
termination_by sizeAll stack
decreasing_by exact sizeAll_beneath_append_lt t rest

/-- The declarations of a tree in the order of the text. -/
def declarations (t : Tree) : List Declaration :=
  collectFrom [t] []

end Tree

end SpokenIndex.Script
