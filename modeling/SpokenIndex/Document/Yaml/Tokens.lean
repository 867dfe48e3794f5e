/-
From the text of a YAML document to its tokens.
-/
import SpokenIndex.Document.Yaml.Scalar

namespace SpokenIndex.Document.Yaml

/-! ### Names -/

/-- Whether a character may stand in the name of an anchor. -/
def isNameChar (c : Char) : Bool :=
  c.isAlphanum || c == '-' || c == '_'

/-- Reads the name of an anchor or alias behind its mark. -/
def anchorName : Scan String := do
  skip 1
  let cs ← takeWhile isNameChar
  demand !cs.isEmpty
  let next ← peek
  demand (isGap next || next.any fun c => "?:,]\x7d%@`".toList.contains c)
  pure (String.ofList cs)

/-- Whether a character may stand in a tag. -/
def isTagChar (c : Char) : Bool :=
  c.isAlphanum || "-;/?:@&=+$,_.!~*'()[]%".toList.contains c

/-- Reads a tag behind its exclamation mark. -/
def tagToken : Scan Token := do
  skip 1
  let s ← get
  let t ← match s.rest with
    | '<' :: _ =>
      skip 1
      let cs ← takeWhile isTagChar
      demand (!cs.isEmpty && (← readChar) == '>')
      pure (Token.tag "" (String.ofList cs))
    | _ =>
      if isGap s.rest.head? then pure (Token.tag "!" "")
      else
        let word := s.rest.takeWhile fun c => !isGap (some c)
        if word.contains '!' then
          let cs ← takeWhile isNameChar
          demand ((← readChar) == '!')
          let suffix ← takeWhile isTagChar
          demand !suffix.isEmpty
          pure (Token.tag ("!" ++ String.ofList cs ++ "!") (String.ofList suffix))
        else
          let suffix ← takeWhile isTagChar
          demand !suffix.isEmpty
          pure (Token.tag "!" (String.ofList suffix))
  demand (isGap (← peek))
  pure t

/-- Reads the words of a directive; `limit` bounds how many. -/
def directiveWords : (limit : Nat) → (found : List String) → Scan (List String)
  | 0, found => pure found.reverse
  | limit + 1, found => do
    let _ ← takeWhile (· == ' ')
    if (← peek) == some '#' then pure found.reverse
    else
      let cs ← takeWhile fun c => !isGap (some c)
      if cs.isEmpty then pure found.reverse
      else directiveWords limit (String.ofList cs :: found)

/-! ### Structure -/

/-- Begins a flow collection. -/
def beginFlow (t : Token) : Scan Unit := do
  noteKey
  modify fun s => { s with level := s.level + 1 }
  allowKey true
  skip 1
  emit t

/-- Ends a flow collection. -/
def endFlow (t : Token) : Scan Unit := do
  forgetKey
  modify fun s => { s with level := s.level - 1 }
  allowKey false
  skip 1
  emit t

/-- Reads the comma between entries of a flow collection. -/
def flowEntry : Scan Unit := do
  allowKey true
  forgetKey
  skip 1
  emit .flowEntry

/-- Opens a block here, outside of flow collections. -/
def openBlockHere (t : Token) : Scan Unit := do
  let s ← get
  if s.level == 0 then
    demand s.keyAllowed
    if ← openBlock s.column then emit t

/-- Reads the dash of an entry. -/
def blockEntry : Scan Unit := do
  openBlockHere .blockSequence
  allowKey true
  forgetKey
  skip 1
  emit .blockEntry

/-- Reads the question mark before a key. -/
def explicitKey : Scan Unit := do
  openBlockHere .blockMapping
  allowKey ((← get).level == 0)
  forgetKey
  skip 1
  emit .key

/-- Reads the colon before a value; a possible key before it becomes one. -/
def valueMark : Scan Unit := do
  let s ← get
  match s.keys.find? fun k => k.level == s.level with
  | some k =>
    set { s with keys := s.keys.filter fun k => k.level != s.level }
    let opened ← if s.level == 0 then openBlock k.column else pure false
    insertAfter k.tokensBefore (if opened then [.blockMapping, .key] else [.key])
    allowKey false
  | none =>
    openBlockHere .blockMapping
    allowKey (s.level == 0)
    forgetKey
  skip 1
  emit .value

/-- Reads something that a colon can make a key. -/
def keyLike (t : Scan Token) : Scan Unit := do
  noteKey
  allowKey false
  emit (← t)

/-- Reads a block scalar, which is no key. -/
def blockScalarHere (foldedStyle : Bool) : Scan Unit := do
  allowKey true
  forgetKey
  emit (← blockScalar foldedStyle)

/-- Reads a directive. -/
def directive : Scan Unit := do
  closeAll
  skip 1
  let words ← directiveWords (← remaining) []
  restOfLine
  emit (.directive words)

/-- Reads the border of a document. -/
def border (t : Token) : Scan Unit := do
  closeAll
  skip 3
  emit t

/-! ### The next token -/

/-- Passes over blanks, comments and line ends. -/
def skipToToken : (limit : Nat) → Scan Unit
  | 0 => pure ()
  | limit + 1 => do
    if (← get).index == 0 && (← peek) == some '\ufeff' then skip 1
    let _ ← takeWhile (· == ' ')
    if (← peek) == some '#' then
      let _ ← takeWhile (! isBreak ·)
    match ← lineBreak with
    | some _ =>
      if (← get).level == 0 then allowKey true
      skipToToken limit
    | none => pure ()

/-- Whether a plain scalar begins here. -/
def beginsPlain (inFlow : Bool) (c : Char) (after : Option Char) : Bool :=
  if "-?:,[]\x7b\x7d#&*!|>'\"%@`".toList.contains c || isGap (some c) then
    !isGap after && (c == '-' || (!inFlow && (c == '?' || c == ':')))
  else true

/-- Reads the token that a character begins. -/
def tokenAt (c : Char) : Scan Unit := do
  let s ← get
  let after := s.rest[1]?
  let inFlow := s.level != 0
  let border? ← if s.column == 0 then atBorder else pure false
  if s.column == 0 && c == '%' then directive
  else if border? then border (if c == '-' then .documentStart else .documentEnd)
  else
    match c with
    | '[' => beginFlow .flowSequence
    | '\x7b' => beginFlow .flowMapping
    | ']' => endFlow .flowSequenceEnd
    | '\x7d' => endFlow .flowMappingEnd
    | ',' => flowEntry
    | '*' => keyLike do return .alias (← anchorName)
    | '&' => keyLike do return .anchor (← anchorName)
    | '!' => keyLike tagToken
    | '\'' => keyLike (quotedScalar false)
    | '"' => keyLike (quotedScalar true)
    | _ =>
      if c == '-' && isGap after then blockEntry
      else if c == '?' && (inFlow || isGap after) then explicitKey
      else if c == ':' && (inFlow || isGap after) then valueMark
      else if c == '|' && !inFlow then blockScalarHere false
      else if c == '>' && !inFlow then blockScalarHere true
      else if beginsPlain inFlow c after then keyLike plainScalar
      else failure

/-- Reads all tokens. -/
def allTokens : (limit : Nat) → Scan Unit
  | 0 => failure
  | limit + 1 => do
    skipToToken (← remaining)
    forgetStaleKeys
    closeBlocks (← get).column
    match ← peek with
    | none => closeAll
    | some c =>
      tokenAt c
      allTokens limit

/-- The tokens of a document. -/
def tokens? (text : String) : Option (List Token) :=
  let s := text.toList
  if s.all isAllowed then
    (allTokens (s.length + 2) (.start s)).map fun ((), scanner) => scanner.tokens
  else none

end SpokenIndex.Document.Yaml
