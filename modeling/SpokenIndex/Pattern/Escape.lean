/-
Escapes and sets of characters in patterns.

Behind a backslash a letter stands for a character, a kind of characters or a place, or
says that the code of a character follows.  Digits are the code of a character in
octal if they begin with a zero or are three octal ones, else the number of a group,
which must be closed.
-/
import SpokenIndex.Number.Digits
import SpokenIndex.Pattern.Sign

namespace SpokenIndex.Pattern

/-! ### Escapes -/

/-- The codes of characters that letters stand for behind a backslash. -/
def letterCode? : Char → Option Nat
  | 'a' => some 7
  | 'b' => some 8
  | 'f' => some 12
  | 'n' => some 10
  | 'r' => some 13
  | 't' => some 9
  | 'v' => some 11
  | '\\' => some 92
  | _ => none

/-- The kinds of characters that letters stand for behind a backslash. -/
def letterKind? : Char → Option SetItem
  | 'd' => some (.kind .digit false)
  | 'D' => some (.kind .digit true)
  | 's' => some (.kind .blank false)
  | 'S' => some (.kind .blank true)
  | 'w' => some (.kind .wordChar false)
  | 'W' => some (.kind .wordChar true)
  | _ => none

/-- The places that letters stand for behind a backslash. -/
def letterPlace? (modes : Modes) : Char → Option Place
  | 'A' => some .textStart
  | 'Z' => some .textEnd
  | 'b' => some (.wordEdge modes.asciiOnly false)
  | 'B' => some (.wordEdge modes.asciiOnly true)
  | _ => none

/-- Reads the digits of an escape that has a fixed number of them. -/
def fixedEscape (letter : Char) (count : Nat) : Step Nat := do
  let digits ← takeWhile (isDigitIn 16) count
  let escape := '\\' :: letter :: digits
  if digits.length < count then
    failBack (.incompleteEscape (String.ofList escape)) escape.length
  let n := numberIn 16 digits
  if 0x110000 ≤ n then failBack (.badEscape (String.ofList escape)) escape.length
  pure n

/-- Reads the name of a character; none is known by name. -/
def namedEscape : Step Nat := do
  if !(← takeIf '\x7b') then failBack (.missing "\x7b") 0
  let found ← name '\x7d' "character name"
  failBack (.unknownCharName (String.ofList found)) (found.length + 4)

/-- The greatest code in octal digits. -/
def octalLimit : Nat := 255

/-- The code that the octal digits of an escape make. -/
def octalEscape (digits : List Char) : Step Nat := do
  let n := numberIn 8 digits
  if octalLimit < n then
    failBack (.octalTooLarge (String.ofList ('\\' :: digits))) (digits.length + 1)
  pure n

/-- Reads what an escape with a letter and digits or a name goes on with. -/
def longEscape? (c : Char) : Option (Step Nat) :=
  match c with
  | 'x' => some (fixedEscape 'x' 2)
  | 'u' => some (fixedEscape 'u' 4)
  | 'U' => some (fixedEscape 'U' 8)
  | 'N' => some namedEscape
  | _ => none

/-- The code of an escaped character that stands for itself. -/
def selfEscape (c : Char) : Step Nat :=
  if c.isAlpha || c.isDigit then failBack (.badEscape (String.ofList ['\\', c])) 2
  else pure c.toNat

/-- Reads what an escape in a set goes on with. -/
def setEscape (c : Char) : Step SetItem := do
  match letterCode? c, letterKind? c, longEscape? c with
  | some n, _, _ => pure (.code n)
  | _, some item, _ => pure item
  | _, _, some long => return .code (← long)
  | _, _, _ =>
    if isDigitIn 8 c then
      return .code (← octalEscape (c :: (← takeWhile (isDigitIn 8) 2)))
    else return .code (← selfEscape c)

/-- Fails if a group is still open, or was opened in the look behind that is being read. -/
def checkLookBehind (group : Nat) : Step Unit := do
  let r ← get
  match r.groupsBehind with
  | none => pure ()
  | some count =>
    if ((r.groups[group - 1]?).bind id).isNone then failBack .openGroup 0
    if count < group then failBack .groupOfSameLookBehind 0

/-- Reads what a reference to a group goes on with; `written` is how many characters it has. -/
def groupReference (modes : Modes) (group written : Nat) : Step Expression := do
  match (← get).groups[group - 1]? with
  | none => failBack (.noSuchGroup group) (written - 1)
  | some none => failBack .openGroup written
  | some (some _) =>
    checkLookBehind group
    pure (.sameAs modes group)

/-- Reads what an escape that begins with a digit other than zero goes on with. -/
def digitEscape (modes : Modes) (c : Char) : Step Expression := do
  match ← takeWhile Char.isDigit 1 with
  | [d] =>
    if isDigitIn 8 c && isDigitIn 8 d then
      match ← takeWhile (isDigitIn 8) 1 with
      | [e] => return .code modes (← octalEscape [c, d, e])
      | _ => groupReference modes (numberIn 10 [c, d]) 3
    else groupReference modes (numberIn 10 [c, d]) 3
  | _ => groupReference modes (numberIn 10 [c]) 2

/-- Reads what an escape outside of sets goes on with. -/
def escape (modes : Modes) (c : Char) : Step Expression := do
  match letterPlace? modes c, letterKind? c, letterCode? c, longEscape? c with
  | some p, _, _, _ => pure (.place p)
  | _, some item, _, _ => pure (.char modes false [item])
  | _, _, some n, _ => pure (.code modes n)
  | _, _, _, some long => return .code modes (← long)
  | _, _, _, _ =>
    if c == '0' then
      return .code modes (numberIn 8 (← takeWhile (isDigitIn 8) 2))
    else if c.isDigit then digitEscape modes c
    else return .code modes (← selfEscape c)

/-! ### Sets -/

/-- The item that a sign of a set begins. -/
def setSign : Sign → Step SetItem
  | .plain c => pure (.code c.toNat)
  | .escaped c => setEscape c

/-- The range between two items of a set. -/
def rangeOf (low high : SetItem) (this that : Sign) : Step SetItem := do
  let refuse : Step SetItem :=
    failBack (.badRange this.text that.text) (this.length + 1 + that.length)
  match low, high with
  | .code a, .code b => if b < a then refuse else pure (.range a b)
  | _, _ => refuse

/-- Reads the items of a set and its closing bracket; `start` is where the set began. -/
def setItems (start : Nat) : (limit : Nat) → (found : List SetItem) → Step (List SetItem)
  | 0, found => pure found
  | limit + 1, found => do
    match ← take with
    | none => failAt .unterminatedSet start
    | some this =>
      if this == .plain ']' && !found.isEmpty then pure found
      else
        let item ← setSign this
        if ← takeIf '-' then
          match ← take with
          | none => failAt .unterminatedSet start
          | some that =>
            if that == .plain ']' then pure (found ++ [item, .code '-'.toNat])
            else
              let r ← rangeOf item (← setSign that) this that
              setItems start limit (found ++ [r])
        else setItems start limit (found ++ [item])

/-- Reads a set behind its opening bracket. -/
def set (modes : Modes) : Step Expression := do
  let start := (← get).position - 1
  let negated ← takeIf '^'
  return .char modes negated (← setItems start ((← remaining) + 1) [])

end SpokenIndex.Pattern
