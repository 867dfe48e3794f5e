/-
What is stored on a disk.

A node is a file with its bytes, a symbolic link with the text of its target, or a
folder with named entries.  A folder's entries are a list, so that a walk over a
folder is recursion on that list; `Node.WellFormed` says that names are proper and
distinct, which every change of a disk keeps.
-/
import SpokenIndex.Path

namespace SpokenIndex

/-- A file, a symbolic link or a folder. -/
inductive Node where
  | file (content : ByteArray)
  | link (target : String)
  | folder (entries : List (String × Node))

instance : Inhabited Node := ⟨.folder []⟩

namespace Node

/-- The named entries of a folder; other nodes have none. -/
def entries : Node → List (String × Node)
  | .folder es => es
  | _ => []

/-- Whether a node is a folder. -/
def isFolder : Node → Bool
  | .folder _ => true
  | _ => false

/-- The entry of a given name. -/
def lookup (name : String) : List (String × Node) → Option Node
  | [] => none
  | (n, node) :: rest => if n = name then some node else lookup name rest

/-- Replaces the entry of a given name, or adds it at the end. -/
def setEntry (name : String) (node : Node) : List (String × Node) → List (String × Node)
  | [] => [(name, node)]
  | (n, old) :: rest =>
    if n = name then (n, node) :: rest else (n, old) :: setEntry name node rest

/-- Drops the entry of a given name. -/
def dropEntry (name : String) (es : List (String × Node)) : List (String × Node) :=
  es.filter fun e => e.1 != name

/-- A name that a folder's entry may have. -/
def IsName (name : String) : Prop :=
  name ≠ "" ∧ name ≠ "." ∧ name ≠ ".." ∧ '/' ∉ name.toList

mutual

/-- Names are proper and distinct in every folder beneath a node. -/
def WellFormed : Node → Prop
  | .file _ => True
  | .link _ => True
  | .folder es => (es.map Prod.fst).Nodup ∧ EntriesWellFormed es

/-- Each entry has a proper name and a well-formed node. -/
def EntriesWellFormed : List (String × Node) → Prop
  | [] => True
  | (name, node) :: rest => IsName name ∧ node.WellFormed ∧ EntriesWellFormed rest

end

/-- The node reached by following names down through folders, links not followed. -/
def descend : List String → Node → Option Node
  | [], node => some node
  | name :: rest, .folder es =>
    match lookup name es with
    | some node => node.descend rest
    | none => none
  | _ :: _, _ => none

mutual

/-- The places of the links at and beneath a node that stands at `here`, deepest name first. -/
def linkPlaces (here : List String) : Node → List (List String)
  | .file _ => []
  | .link _ => [here]
  | .folder es => linkPlacesOf here es

/-- The places of the links at and beneath the entries of a folder that stands at `here`. -/
def linkPlacesOf (here : List String) : List (String × Node) → List (List String)
  | [] => []
  | (name, node) :: rest => node.linkPlaces (name :: here) ++ linkPlacesOf here rest

end

theorem mem_linkPlacesOf {name : String} {es : List (String × Node)} {node : Node}
    {here place : List String} (hlookup : lookup name es = some node)
    (h : place ∈ node.linkPlaces (name :: here)) : place ∈ linkPlacesOf here es := by
  induction es with
  | nil => simp [lookup] at hlookup
  | cons e rest ih =>
    obtain ⟨n, first⟩ := e
    rw [lookup] at hlookup
    rw [linkPlacesOf, List.mem_append]
    by_cases hn : n = name
    · rw [if_pos hn] at hlookup
      obtain rfl := Option.some.inj hlookup
      exact Or.inl (hn ▸ h)
    · rw [if_neg hn] at hlookup
      exact Or.inr (ih hlookup)

/-- A link that is reached by names is among the links beneath. -/
theorem mem_linkPlaces {names : List String} {node : Node} {target : String}
    (here : List String) (h : node.descend names = some (.link target)) :
    names.reverse ++ here ∈ node.linkPlaces here := by
  induction names generalizing node here with
  | nil =>
    obtain rfl : node = .link target := Option.some.inj h
    simp [linkPlaces]
  | cons name rest ih =>
    cases node with
    | file _ => simp [descend] at h
    | link _ => simp [descend] at h
    | folder es =>
      simp only [descend] at h
      cases hlookup : lookup name es with
      | none => simp [hlookup] at h
      | some below =>
        rw [hlookup] at h
        have hbelow := ih (name :: here) h
        rw [List.reverse_cons, List.append_assoc, List.singleton_append, linkPlaces]
        exact mem_linkPlacesOf hlookup hbelow

/-- Puts a node at a place, making the folders on the way that are missing.  A place beneath
a file or a link is left alone. -/
def put (node : Node) : List String → Node → Node
  | [], _ => node
  | name :: rest, .folder es =>
    .folder (setEntry name (put node rest ((lookup name es).getD (.folder []))) es)
  | _ :: _, other => other

/-- Removes the node at a place, if there is one. -/
def remove : List String → Node → Node
  | [], node => node
  | [name], .folder es => .folder (dropEntry name es)
  | name :: next :: rest, .folder es =>
    match lookup name es with
    | some node => .folder (setEntry name (node.remove (next :: rest)) es)
    | none => .folder es
  | _ :: _, other => other

end Node

end SpokenIndex
