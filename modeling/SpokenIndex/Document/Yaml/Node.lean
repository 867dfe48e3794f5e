/-
From the tokens of a YAML document to its nodes.

A node is a scalar, a sequence or a mapping with what was said of it by a tag.  An
alias stands for the node that its anchor names; an anchor is named once, before its
alias, and not inside its own node.
-/
import SpokenIndex.Document.Yaml.Tokens

namespace SpokenIndex.Document.Yaml

/-- The tag of a node as it is written: none, or a prefix and a suffix. -/
abbrev Tag := Option (String × String)

/-- The nodes of a document. -/
inductive Node where
  | scalar (tag : Tag) (text : String) (plain : Bool)
  | sequence (tag : Tag) (items : List Node)
  | mapping (tag : Tag) (entries : List (Node × Node))

instance : Inhabited Node := ⟨.scalar none "" true⟩

/-- The node where nothing is written. -/
def Node.missing : Node := .scalar none "" true

/-- What is read while tokens become nodes. -/
structure Reading where
  tokens : List Token
  /-- Anchors and their nodes; without a node while that is being read. -/
  anchors : List (String × Option Node)
  /-- The prefixes that handles of tags stand for. -/
  handles : List (String × String)

/-- A step of making nodes. -/
abbrev Build := StateT Reading Option

/-! ### Tokens -/

/-- The next token. -/
def upcoming : Build (Option Token) := do
  return (← get).tokens.head?

/-- Passes over the next token. -/
def drop : Build Unit :=
  modify fun r => { r with tokens := r.tokens.tail }

/-- Passes over a token if it comes next. -/
def dropIf (t : Token) : Build Bool := do
  if (← upcoming) == some t then
    drop
    pure true
  else pure false

/-- Passes over a token that must come next. -/
def expect (t : Token) : Build Unit := do
  if !(← dropIf t) then failure

/-- Whether one of some tokens comes next. -/
def atOneOf (ts : List Token) : Build Bool := do
  match ← upcoming with
  | some t => pure (ts.contains t)
  | none => pure false

/-! ### What is said of a node -/

/-- What stands before a node: its anchor and its tag. -/
structure Properties where
  anchor : Option String
  tag : Tag

/-- Whether nothing is said of a node. -/
def Properties.isBlank (p : Properties) : Bool :=
  p.anchor.isNone && p.tag.isNone

/-- The tag that a handle and a suffix make. -/
def resolveTag (handle suffix : String) : Build Tag := do
  if handle == "" then pure (some ("", suffix))
  else
    match (← get).handles.find? (·.1 == handle) with
    | some (_, start) => pure (some (start, suffix))
    | none => failure

/-- Reads an anchor and a tag, in either order. -/
def properties : (limit : Nat) → Properties → Build Properties
  | 0, p => pure p
  | limit + 1, p => do
    match ← upcoming with
    | some (.anchor name) =>
      if p.anchor.isSome then pure p
      else
        drop
        properties limit { p with anchor := some name }
    | some (.tag handle suffix) =>
      if p.tag.isSome then pure p
      else
        drop
        properties limit { p with tag := ← resolveTag handle suffix }
    | _ => pure p

/-- Names an anchor whose node is being read. -/
def beginAnchor (name : String) : Build Unit := do
  let r ← get
  if r.anchors.any (·.1 == name) then failure
  set { r with anchors := (name, none) :: r.anchors }

/-- Gives an anchor its node. -/
def endAnchor (name : String) (node : Node) : Build Unit :=
  modify fun r =>
    { r with anchors := (name, some node) :: r.anchors.filter fun a => a.1 != name }

/-- The node that an alias stands for. -/
def aliased (name : String) : Build Node := do
  match (← get).anchors.find? (·.1 == name) with
  | some (_, some node) => pure node
  | _ => failure

/-! ### Collections

Each kind of collection is read with readers for the nodes in it.  Where a token shows
that a key, a value or an item is not written, it is the missing node.
-/

/-- Reads a node unless one of some tokens comes next. -/
def unlessAt (ts : List Token) (node : Build Node) : Build Node := do
  if ← atOneOf ts then pure .missing else node

/-- Reads the entries of a block sequence; `found` are those before, latest first. -/
def blockItems (node : Build Node) (ends : List Token) :
    (limit : Nat) → (found : List Node) → Build (List Node)
  | 0, _ => failure
  | limit + 1, found => do
    if ← dropIf .blockEntry then
      let item ← unlessAt ends node
      blockItems node ends limit (item :: found)
    else pure found.reverse

/-- Reads the entries of a block mapping; `found` are those before, latest first. -/
def blockPairs (node : Build Node) :
    (limit : Nat) → (found : List (Node × Node)) → Build (List (Node × Node))
  | 0, _ => failure
  | limit + 1, found => do
    if ← dropIf .key then
      let ends := [Token.key, Token.value, Token.blockEnd]
      let k ← unlessAt ends node
      let v ← if ← dropIf .value then unlessAt ends node else pure .missing
      blockPairs node limit ((k, v) :: found)
    else pure found.reverse

/-- Reads a key and a value of a flow collection behind the token that tells the key. -/
def flowPair (node : Build Node) (close : Token) : Build (Node × Node) := do
  let k ← unlessAt [.value, .flowEntry, close] node
  let v ← if ← dropIf .value then unlessAt [.flowEntry, close] node else pure .missing
  pure (k, v)

/-- Reads the items of a flow sequence; a key makes an item a mapping of one entry. -/
def flowItems (node : Build Node) : (limit : Nat) → (found : List Node) → Build (List Node)
  | 0, _ => failure
  | limit + 1, found => do
    if ← dropIf .flowSequenceEnd then pure found.reverse
    else
      if !found.isEmpty then expect .flowEntry
      if ← dropIf .key then
        let pair ← flowPair node .flowSequenceEnd
        flowItems node limit (.mapping none [pair] :: found)
      else if ← dropIf .flowSequenceEnd then pure found.reverse
      else
        let item ← node
        flowItems node limit (item :: found)

/-- Reads the entries of a flow mapping; an entry may be a key without a value. -/
def flowPairs (node : Build Node) :
    (limit : Nat) → (found : List (Node × Node)) → Build (List (Node × Node))
  | 0, _ => failure
  | limit + 1, found => do
    if ← dropIf .flowMappingEnd then pure found.reverse
    else
      if !found.isEmpty then expect .flowEntry
      if ← dropIf .key then
        let pair ← flowPair node .flowMappingEnd
        flowPairs node limit (pair :: found)
      else if ← dropIf .flowMappingEnd then pure found.reverse
      else
        let k ← node
        flowPairs node limit ((k, .missing) :: found)

/-! ### Nodes -/

/-- Where a node stands: what collections may begin there. -/
inductive Place where
  | flow
  | block
  /-- Where a sequence need not be indented. -/
  | entry
  deriving DecidableEq, Repr

/-- Reads the content of a node of which some things were said.  `node` reads the nodes
within. -/
def content (node : Place → Build Node) (limit : Nat) (place : Place) (p : Properties) :
    Build Node := do
  match ← upcoming with
  | some (.scalar text plain) =>
    drop
    pure (.scalar p.tag text plain)
  | some .flowSequence =>
    drop
    return .sequence p.tag (← flowItems (node .flow) limit [])
  | some .flowMapping =>
    drop
    return .mapping p.tag (← flowPairs (node .flow) limit [])
  | some .blockEntry =>
    if place == .entry then
      let ends := [Token.blockEntry, Token.key, Token.value, Token.blockEnd]
      return .sequence p.tag (← blockItems (node .block) ends limit [])
    else if p.isBlank then failure
    else pure (.scalar p.tag "" true)
  | some .blockSequence =>
    if place == .flow then
      if p.isBlank then failure else pure (.scalar p.tag "" true)
    else
      drop
      let items ← blockItems (node .block) [.blockEntry, .blockEnd] limit []
      expect .blockEnd
      pure (.sequence p.tag items)
  | some .blockMapping =>
    if place == .flow then
      if p.isBlank then failure else pure (.scalar p.tag "" true)
    else
      drop
      let pairs ← blockPairs (node .entry) limit []
      expect .blockEnd
      pure (.mapping p.tag pairs)
  | _ => if p.isBlank then failure else pure (.scalar p.tag "" true)

/-- Reads a node; `depth` bounds how deep nodes are in each other. -/
def node (limit : Nat) : (depth : Nat) → Place → Build Node
  | 0, _ => failure
  | depth + 1, place => do
    match ← upcoming with
    | some (.alias name) =>
      drop
      aliased name
    | _ =>
      let p ← properties 2 ⟨none, none⟩
      match p.anchor with
      | none => content (node limit depth) limit place p
      | some name =>
        beginAnchor name
        let n ← content (node limit depth) limit place p
        endAnchor name n
        pure n

/-! ### Documents -/

/-- What handles stand for unless a directive says otherwise. -/
def standardHandles : List (String × String) :=
  [("!", "!"), ("!!", "tag:yaml.org,2002:")]

/-- Whether a text is a version that can be read. -/
def isVersion (s : String) : Bool :=
  match s.toList with
  | '1' :: '.' :: digits => !digits.isEmpty && digits.all Char.isDigit
  | _ => false

/-- Reads directives; `seen` tells whether a version was given. -/
def directives : (limit : Nat) → (seen : Bool) → Build Unit
  | 0, _ => pure ()
  | limit + 1, seen => do
    match ← upcoming with
    | some (.directive words) =>
      drop
      match words with
      | ["YAML", version] =>
        if seen || !isVersion version then failure
        directives limit true
      | ["TAG", handle, start] =>
        let r ← get
        if r.handles.any fun h => h.1 == handle && !standardHandles.contains h then failure
        set { r with
          handles := (handle, start) :: r.handles.filter fun h => h.1 != handle }
        directives limit seen
      | "YAML" :: _ => failure
      | "TAG" :: _ => failure
      | _ => directives limit seen
    | _ => pure ()

/-- Passes over marks of ends of documents. -/
def dropEnds : (limit : Nat) → Build Unit
  | 0 => pure ()
  | limit + 1 => do
    if ← dropIf .documentEnd then dropEnds limit

/-- Whether a document begins without being told to. -/
def beginsUntold : Token → Bool
  | .directive _ => false
  | .documentStart => false
  | _ => true

/-- Reads the only document, if there is one. -/
def document (limit : Nat) : Build (Option Node) := do
  match ← upcoming with
  | none => pure none
  | some t =>
    if beginsUntold t then
      let n ← node limit limit .block
      dropEnds limit
      if (← upcoming).isSome then failure
      pure (some n)
    else
      dropEnds limit
      if (← upcoming).isNone then pure none
      else
        directives limit false
        expect .documentStart
        let n ← match ← upcoming with
          | none | some .documentStart | some .documentEnd | some (.directive _) =>
            pure .missing
          | some _ => node limit limit .block
        dropEnds limit
        if (← upcoming).isSome then failure
        pure (some n)

/-- The node of a document: none if the document is empty, nothing if it is broken. -/
def node? (text : String) : Option (Option Node) :=
  match tokens? text with
  | none => none
  | some ts => ((document (ts.length + 2)) ⟨ts, [], standardHandles⟩).map Prod.fst

end SpokenIndex.Document.Yaml
