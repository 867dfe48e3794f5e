/-
Reading patterns.

A pattern is read from left to right, groups within each other.  Modes for the whole
pattern must stand at its start; those of a group hold inside it.  A repetition is of
what stands right before it, which may be neither a place nor a repetition.  What is
looked for behind a place must take a fixed number of characters.
-/
import SpokenIndex.Pattern.Escape
import SpokenIndex.Pattern.Flag
import SpokenIndex.Text.Basic
import SpokenIndex.Text.Blank

namespace SpokenIndex.Pattern

/-! ### Repetitions -/

/-- The number of rounds that none may reach. -/
def roundLimit : Nat := 4294967295

/-- Reads the bounds of a repetition in braces behind the opening one, if they are bounds. -/
def bounds? : Step (Option (Nat × Option Nat)) := do
  let r ← get
  if (← upcoming) == some (.plain '\x7d') then return none
  let low ← takeWhile Char.isDigit r.rest.length
  let comma ← takeIf ','
  let high ← if comma then takeWhile Char.isDigit r.rest.length else pure low
  if !(← takeIf '\x7d') then
    MonadStateOf.set r
    return none
  let least := numberIn 10 low
  let most := numberIn 10 high
  if roundLimit ≤ least || roundLimit ≤ most then throw ⟨.tooManyTimes, none⟩
  if !high.isEmpty && most < least then failAt .leastAboveMost r.position
  return some (least, if high.isEmpty then none else some most)

/-- The bounds that a sign behind an expression tells, if it tells a repetition. -/
def quantifier? (c : Char) : Step (Option (Nat × Option Nat)) := do
  match c with
  | '?' => pure (some (0, some 1))
  | '*' => pure (some (0, none))
  | '+' => pure (some (1, none))
  | '\x7b' => bounds?
  | _ => pure none

/-- Reads how a repetition goes on. -/
def eagerness : Step Eagerness := do
  if ← takeIf '?' then pure .lazy
  else if ← takeIf '+' then pure .possessive
  else pure .greedy

/-- Repeats the latest of some expressions; `position` is where that was told. -/
def repeatLatest (bounds : Nat × Option Nat) (position : Nat) :
    List Expression → Step (List Expression)
  | [] => failAt .nothingToRepeat position
  | .place _ :: _ => failAt .nothingToRepeat position
  | .repetition _ _ _ _ :: _ => failAt .multipleRepeat position
  | latest :: before => do
    return .repetition (← eagerness) bounds.1 bounds.2 latest :: before

/-! ### Groups -/

/-- Whether a name is one that a group may have. -/
def isGroupName : List Char → Bool
  | [] => false
  | c :: rest =>
    Text.isWordChar c && !Text.isDecimalDigit c && rest.all Text.isWordChar

/-- Reads the name of a group up to a terminator. -/
def groupName (terminator : Char) : Step String := do
  let found ← name terminator "group name"
  if !isGroupName found then
    failBack (.badGroupName (String.ofList found)) (found.length + 1)
  pure (String.ofList found)

/-- The group of a name. -/
def groupNamed (called : String) : Step Nat := do
  match (← get).names.find? (·.1 == called) with
  | some (_, group) => pure group
  | none => failBack (.unknownGroupName called) (called.length + 1)

/-- Opens a group. -/
def openGroup (called : Option String) : Step Nat := do
  let r ← get
  let group := r.groups.length + 1
  match called with
  | none => MonadStateOf.set { r with groups := r.groups ++ [none] }
  | some called =>
    match r.names.find? (·.1 == called) with
    | some (_, old) => failBack (.groupNamedTwice called group old) (called.length + 1)
    | none =>
      MonadStateOf.set
        { r with groups := r.groups ++ [none], names := (called, group) :: r.names }
  pure group

/-- The width of a group that was closed. -/
def widthOfGroup (groups : List (Option Width)) (group : Nat) : Width :=
  ((groups[group - 1]?).bind id).getD .zero

/-- Closes a group. -/
def closeGroup (group : Nat) (part : Expression) : Step Unit :=
  modify fun r =>
    { r with groups := r.groups.set (group - 1) (some (part.width (widthOfGroup r.groups))) }

/-- The greatest number that a group may have. -/
def groupLimit : Nat := 1073741823

/-- The number of a group in a condition. -/
def numberOf? (written : List Char) : Option Nat :=
  let s := Text.trim written
  let s := if s.head? == some '+' then s.drop 1 else s
  let isSpaced := s.head? == some '_' || s.getLast? == some '_' || Text.hasInfix ['_', '_'] s
  let digits := s.filter (· != '_')
  if isSpaced || digits.isEmpty || !digits.all Char.isDigit then none
  else some (numberIn 10 digits)

/-- Reads which group a condition asks for. -/
def askedGroup : Step Nat := do
  let found ← name ')' "group name"
  let group ←
    if isGroupName found then groupNamed (String.ofList found)
    else
      match numberOf? found with
      | none => failBack (.badGroupName (String.ofList found)) (found.length + 1)
      | some 0 => failBack .groupZero (found.length + 1)
      | some group =>
        if groupLimit ≤ group then failBack (.noSuchGroup group) (found.length + 1)
        modify fun r => { r with asked := (group, r.position - found.length - 1) :: r.asked }
        pure group
  checkLookBehind group
  pure group

/-- Reads the closing bracket of a group that began at `start`. -/
def closing (start : Nat) : Step Unit := do
  if !(← takeIf ')') then failAt .unterminatedGroup start

/-- Reads expressions with bars between them. -/
def alternatives (branch : Step Expression) : (limit : Nat) → (found : List Expression) →
    Step Expression
  | 0, found => pure (.choice found.reverse)
  | limit + 1, found => do
    let e ← branch
    if ← takeIf '|' then alternatives branch limit (e :: found)
    else pure (if found.isEmpty then e else .choice (e :: found).reverse)

/-- Reads all alternatives of a group. -/
def body (inner : Modes → Step Expression) (modes : Modes) : Step Expression := do
  alternatives (inner modes) ((← remaining) + 1) []

/-- Reads a group that captures, behind its opening. -/
def capturing (inner : Modes → Step Expression) (start : Nat) (modes : Modes)
    (called : Option String) : Step Expression := do
  let group ← openGroup called
  let part ← body inner modes
  closing start
  closeGroup group part
  pure (.capture group part)

/-- Reads a group that captures nothing, behind its opening. -/
def enclosed (inner : Modes → Step Expression) (start : Nat) (modes : Modes) :
    Step Expression := do
  let part ← body inner modes
  closing start
  pure part

/-- Reads what is looked for before a place, behind the opening of the group. -/
def lookBehind (inner : Modes → Step Expression) (start : Nat) (modes : Modes)
    (wanted : Bool) : Step Expression := do
  let r ← get
  if r.groupsBehind.isNone then
    MonadStateOf.set { r with groupsBehind := some r.groups.length }
  let part ← body inner modes
  modify fun now => { now with groupsBehind := r.groupsBehind }
  closing start
  pure (.behind wanted (part.width (widthOfGroup (← get).groups)) part)

/-- Reads a condition and its two parts, behind its opening. -/
def condition (inner : Modes → Step Expression) (start : Nat) (modes : Modes) :
    Step Expression := do
  let group ← askedGroup
  let yes ← inner modes
  let no ←
    if ← takeIf '|' then
      let no ← inner modes
      if (← upcoming) == some (.plain '|') then failBack .thirdBranch 0
      pure no
    else pure .nothing
  closing start
  pure (.conditional group yes no)

/-- Passes over a comment. -/
def comment (start : Nat) : (limit : Nat) → Step Unit
  | 0 => pure ()
  | limit + 1 => do
    match ← upcoming with
    | none => failAt .unterminatedComment start
    | some t =>
      let _ ← take
      if t == .plain ')' then pure () else comment start limit

/-- The next sign, if there is one. -/
def takeSign : Step Sign := do
  match ← take with
  | some t => pure t
  | none => failBack .endsEarly 0

/-- Reads a group with a name, or a reference to one. -/
def named (inner : Modes → Step Expression) (start : Nat) (modes : Modes) :
    Step Expression := do
  if ← takeIf '<' then
    capturing inner start modes (some (← groupName '>'))
  else if ← takeIf '=' then
    let called ← groupName ')'
    groupReference modes (← groupNamed called) (called.length + 1)
  else
    let t ← takeSign
    failBack (.unknownExtension ("?P" ++ t.text)) (t.length + 2)

/-- Switches on modes for the whole pattern; they must stand first in it. -/
def switchAll (start : Nat) (isFirst : Bool) (on : List Flag) : Step Unit := do
  modify fun r =>
    { r with
      modes := on.foldl (fun m f => if f == .allScripts then m else m.switch true f) r.modes,
      asksAllScripts := r.asksAllScripts || on.contains .allScripts }
  if !isFirst then failAt .lateFlags start

/-- Reads a group with a question mark behind that mark; a comment and modes for the whole
pattern are no expression. -/
def extension (inner : Modes → Step Expression) (start : Nat) (isFirst : Bool)
    (modes : Modes) : Step (Option Expression) := do
  let t ← takeSign
  match t with
  | .plain 'P' => return some (← named inner start modes)
  | .plain ':' => return some (.sequence [← enclosed inner start modes])
  | .plain '>' => return some (.atomic (← enclosed inner start modes))
  | .plain '=' => return some (.ahead true (← enclosed inner start modes))
  | .plain '!' => return some (.ahead false (← enclosed inner start modes))
  | .plain '(' => return some (← condition inner start modes)
  | .plain '#' =>
    comment start ((← remaining) + 1)
    return none
  | .plain '<' =>
    let side ← takeSign
    match side with
    | .plain '=' => return some (← lookBehind inner start modes true)
    | .plain '!' => return some (← lookBehind inner start modes false)
    | _ => failBack (.unknownExtension ("?<" ++ side.text)) (side.length + 2)
  | _ =>
    if t == .plain '-' || (Flag.ofSign? t).isSome then
      match ← flags t with
      | .inl on =>
        switchAll start isFirst on
        return none
      | .inr (on, off) =>
        let modes := off.foldl (Modes.switch false) (on.foldl (Modes.switch true) modes)
        return some (.sequence [← enclosed inner start modes])
    else failBack (.unknownExtension ("?" ++ t.text)) (t.length + 1)

/-! ### Expressions -/

/-- Passes over the rest of a line. -/
def skipLine : (limit : Nat) → Step Unit
  | 0 => pure ()
  | limit + 1 => do
    match ← take with
    | none | some (.plain '\n') => pure ()
    | some _ => skipLine limit

/-- Blanks that count for nothing in a spaced pattern. -/
def isSpacing (c : Char) : Bool :=
  c == ' ' || (9 ≤ c.toNat && c.toNat ≤ 13)

/-- The expression of a character that stands for itself or has a meaning of its own. -/
def single (modes : Modes) (c : Char) : Expression :=
  match c with
  | '.' => .char modes true (if modes.dotIsAll then [] else [.code 10])
  | '^' => .place (if modes.eachLine then .lineStart else .textStart)
  | '$' => .place (if modes.eachLine then .lineEnd else .lastLineEnd)
  | _ => .code modes c.toNat

/-- Reads expressions behind each other; `found` are those before, latest first.  `outer` is
set outside of all groups. -/
def parts (inner : Modes → Step Expression) (outer isFirst : Bool) :
    (limit : Nat) → Modes → (found : List Expression) → Step Expression
  | 0, _, found => pure (.sequence found.reverse)
  | limit + 1, modes, found => do
    let here := (← get).position
    match ← upcoming with
    | none | some (.plain '|') | some (.plain ')') => pure (.sequence found.reverse)
    | some (.escaped c) =>
      let _ ← take
      let e ← escape modes c
      parts inner outer isFirst limit modes (e :: found)
    | some (.plain c) =>
      let _ ← take
      if modes.spaced && isSpacing c then parts inner outer isFirst limit modes found
      else if modes.spaced && c == '#' then
        skipLine ((← remaining) + 1)
        parts inner outer isFirst limit modes found
      else if c == '[' then
        let e ← set modes
        parts inner outer isFirst limit modes (e :: found)
      else if c == '(' then
        if ← takeIf '?' then
          match ← extension inner here (isFirst && found.isEmpty) modes with
          | some e => parts inner outer isFirst limit modes (e :: found)
          | none =>
            let r ← get
            let modes := if outer then r.modes else modes
            parts inner outer isFirst limit modes found
        else
          let e ← capturing inner here modes none
          parts inner outer isFirst limit modes (e :: found)
      else
        match ← quantifier? c with
        | some bounds =>
          let found ← repeatLatest bounds here found
          parts inner outer isFirst limit modes found
        | none => parts inner outer isFirst limit modes (single modes c :: found)

/-- Reads expressions behind each other inside a group; `depth` bounds how deep groups are in
each other. -/
def innerParts : (depth : Nat) → Modes → Step Expression
  | 0, _ => pure .nothing
  | depth + 1, modes => do
    parts (innerParts depth) false false ((← remaining) + 1) modes []

/-- Reads the alternatives of a whole pattern; only the first may begin with modes. -/
def outerAlternatives (depth : Nat) : Step Expression := do
  let limit := (← remaining) + 1
  let branch (isFirst : Bool) : Step Expression := do
    parts (innerParts depth) true isFirst limit (← get).modes []
  let first ← branch true
  if ← takeIf '|' then alternatives (branch false) limit [first] else pure first

/-- Fails if something is wrong with a pattern as a whole. -/
def checkWhole (e : Expression) : Step Unit := do
  let r ← get
  if r.modes.asciiOnly && r.asksAllScripts then throw ⟨.twoAlphabets, none⟩
  if !r.rest.isEmpty then failBack .unbalanced 0
  match r.asked.reverse.find? fun (group, _) => r.groups.length < group with
  | some (group, position) => failAt (.noSuchGroup group) position
  | none => pure ()
  match e.widthsBehind.find? fun w => roundLimit < w.least || w.most != some w.least with
  | some w => throw ⟨if roundLimit < w.least then .tooFarBehind else .widthVaries, none⟩
  | none => pure ()

/-- Reads a whole pattern. -/
def whole : Step Expression := do
  refuseLoneBackslash
  let e ← outerAlternatives ((← remaining) + 1)
  checkWhole e
  pure e

/-- The expression that a pattern denotes. -/
def read (ignoresCase : Bool) (text : String) : Except Problem Expression :=
  let start : Reading :=
    ⟨0, text.toList, { Modes.plain with ignoresCase := ignoresCase }, false, [], [], none, []⟩
  (whole.run start).map Prod.fst

end SpokenIndex.Pattern
