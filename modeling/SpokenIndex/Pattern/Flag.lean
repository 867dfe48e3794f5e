/-
Modes that are switched by letters in a pattern.

Letters switch modes on, and off behind a minus.  At most one of them may tell which
letters there are, and none may switch that off.
-/
import SpokenIndex.Pattern.Sign
import SpokenIndex.Text.WordChar

namespace SpokenIndex.Pattern

/-! ### Modes -/

/-- The letters of modes. -/
inductive Flag where
  | ignoresCase
  | eachLine
  | dotIsAll
  | spaced
  | asciiOnly
  | allScripts
  | bytes
  | template
  deriving DecidableEq, Repr

/-- The mode of a letter. -/
def Flag.ofChar? : Char → Option Flag
  | 'i' => some .ignoresCase
  | 'm' => some .eachLine
  | 's' => some .dotIsAll
  | 'x' => some .spaced
  | 'a' => some .asciiOnly
  | 'u' => some .allScripts
  | 'L' => some .bytes
  | 't' => some .template
  | _ => none

/-- The mode of a sign. -/
def Flag.ofSign? : Sign → Option Flag
  | .plain c => Flag.ofChar? c
  | .escaped _ => none

/-- Whether a letter of a mode tells which letters there are. -/
def Flag.isAlphabet : Flag → Bool
  | asciiOnly | allScripts | bytes => true
  | _ => false

/-- Modes with one switched on or off. -/
def Modes.switch (isOn : Bool) (modes : Modes) : Flag → Modes
  | .ignoresCase => { modes with ignoresCase := isOn }
  | .eachLine => { modes with eachLine := isOn }
  | .dotIsAll => { modes with dotIsAll := isOn }
  | .spaced => { modes with spaced := isOn }
  | .asciiOnly => { modes with asciiOnly := isOn }
  | .allScripts => { modes with asciiOnly := !isOn }
  | .bytes | .template => modes

/-- Whether a sign is a letter. -/
def Sign.isLetter (t : Sign) : Bool :=
  t.isPlain fun c => Text.isWordChar c && !Text.isDecimalDigit c && c != '_'

/-- The mode of a sign; if it has none, what is `expected` is missing. -/
def flagOf (expected : String) (t : Sign) : Step Flag := do
  match Flag.ofSign? t with
  | some flag => pure flag
  | none => failBack (if t.isLetter then .unknownFlag else .missing expected) t.length

/-- Reads the modes to switch on from a sign on, and the sign behind them. -/
def flagsOn : (limit : Nat) → (found : List Flag) → Sign → Step (List Flag × Sign)
  | 0, found, t => pure (found, t)
  | limit + 1, found, t => do
    let flag ← flagOf "-, : or )" t
    if flag == .bytes then failBack .bytesFlag 0
    if flag.isAlphabet && found.any fun f => f.isAlphabet && f != flag then
      failBack .mixedAlphabets 0
    match ← take with
    | none => failBack (.missing "-, : or )") 0
    | some next =>
      if next.isPlain fun c => c == ')' || c == '-' || c == ':' then
        pure (flag :: found, next)
      else flagsOn limit (flag :: found) next

/-- Reads the modes to switch off from a sign on, and the colon behind them. -/
def flagsOff : (limit : Nat) → (found : List Flag) → Sign → Step (List Flag)
  | 0, found, _ => pure found
  | limit + 1, found, t => do
    let flag ← flagOf (if found.isEmpty then "flag" else ":") t
    if flag.isAlphabet then failBack .alphabetOff 0
    match ← take with
    | none => failBack (.missing ":") 0
    | some next =>
      if next == .plain ':' then pure (flag :: found)
      else flagsOff limit (flag :: found) next

/-- Reads modes from a sign on: those of the whole pattern, or those to switch on and off in a
group. -/
def flags (t : Sign) : Step (List Flag ⊕ List Flag × List Flag) := do
  let limit := (← remaining) + 1
  let (on, last) ← if t == .plain '-' then pure ([], t) else flagsOn limit [] t
  if last == .plain ')' then return .inl on
  if on.contains .template then failBack .globalOn 1
  if last == .plain ':' then return .inr (on, [])
  match ← take with
  | none => failBack (.missing "flag") 0
  | some first =>
    let off ← flagsOff limit [] first
    if off.contains .template then failBack .globalOff 1
    if on.any off.contains then failBack .onAndOff 1
    return .inr (on, off)

end SpokenIndex.Pattern
