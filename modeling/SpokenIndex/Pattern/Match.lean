/-
Whether a pattern occurs in a text.

An expression is fitted to a text from a place on.  What comes behind it decides which
of several ways counts, so fitting is handed what is to happen at the place where the
expression ends; the first way for which that succeeds is taken.  A repetition that
took nothing in one round is not tried for another.
-/
import SpokenIndex.Pattern.Expression
import SpokenIndex.Text.Blank
import SpokenIndex.Text.CaseFold
import SpokenIndex.Text.WordChar

namespace SpokenIndex.Pattern

/-! ### Characters -/

/-- A letter as it is compared where case counts for nothing. -/
def foldedIn (modes : Modes) (c : Char) : Char :=
  if modes.asciiOnly then c.toLower else Text.foldChar c

/-- Whether two characters are the same letter. -/
def sameIn (modes : Modes) (a b : Char) : Bool :=
  if !modes.ignoresCase then a == b
  else if modes.asciiOnly then a.toLower == b.toLower
  else Text.sameLetter a b

/-- Whether a character is the one of a code. -/
def isCode (modes : Modes) (n : Nat) (c : Char) : Bool :=
  if n.isValidChar then sameIn modes (Char.ofNat n) c else false

/-- Whether a character is of a kind. -/
def CharKind.holds (k : CharKind) (asciiOnly : Bool) (c : Char) : Bool :=
  if asciiOnly && 128 ≤ c.toNat then false
  else
    match k with
    | digit => Text.isDecimalDigit c
    | blank => if asciiOnly then c == ' ' || (9 ≤ c.toNat && c.toNat ≤ 13) else Text.isBlank c
    | wordChar => Text.isWordChar c

/-- Whether an item of a set has a character. -/
def SetItem.holds (modes : Modes) (c : Char) : SetItem → Bool
  | code n => isCode modes n c
  | range low high =>
    (low ≤ c.toNat && c.toNat ≤ high) ||
      (modes.ignoresCase && (List.range' low (high + 1 - low)).any fun n => isCode modes n c)
  | kind k negated =>
    k.holds modes.asciiOnly (if modes.ignoresCase then foldedIn modes c else c) != negated

/-! ### Places -/

/-- A place in a text, what is before it latest first, and what the groups captured. -/
structure Spot where
  before : List Char
  after : List Char
  captured : List (Nat × List Char)
  deriving DecidableEq, Repr

namespace Spot

/-- Whether two spots are at one place. -/
def isAt (a b : Spot) : Bool := a.after.length == b.after.length

/-- The spot behind some characters. -/
def forward (n : Nat) (s : Spot) : Spot :=
  { s with before := (s.after.take n).reverse ++ s.before, after := s.after.drop n }

/-- The spot before some characters, if there are so many. -/
def back? (n : Nat) (s : Spot) : Option Spot :=
  if s.before.length < n then none
  else some { s with before := s.before.drop n, after := (s.before.take n).reverse ++ s.after }

/-- What a group captured. -/
def captured? (s : Spot) (group : Nat) : Option (List Char) :=
  (s.captured.find? (·.1 == group)).map (·.2)

/-- The spot after a group captured what is between two spots. -/
def capture (s : Spot) (group : Nat) (start : Spot) : Spot :=
  { s with captured := (group, start.after.take (start.after.length - s.after.length)) ::
      s.captured }

end Spot

/-- Whether a character is there and may stand inside a word. -/
def isWordIn (asciiOnly : Bool) (c : Option Char) : Bool :=
  c.any (CharKind.wordChar.holds asciiOnly)

/-- Whether a spot is at a place of a kind. -/
def Place.holds (s : Spot) : Place → Bool
  | textStart => s.before.isEmpty
  | textEnd => s.after.isEmpty
  | lastLineEnd => s.after.isEmpty || s.after == ['\n']
  | lineStart => s.before.head?.all (· == '\n')
  | lineEnd => s.after.head?.all (· == '\n')
  | wordEdge asciiOnly negated =>
    !(s.before.isEmpty && s.after.isEmpty) &&
      (isWordIn asciiOnly s.before.head? != isWordIn asciiOnly s.after.head?) != negated

/-! ### Repetitions -/

/-- What is to happen at the place where an expression ends. -/
abbrev Then := Spot → Option Spot

/-- A way to fit something. -/
abbrev Fit := Spot → Then → Option Spot

/-- Fits something again and again; `limit` bounds the rounds. -/
def repeated (fit : Fit) (isLazy : Bool) : (limit least : Nat) → (most : Option Nat) → Fit
  | 0, _, _, s, k => k s
  | limit + 1, least + 1, most, s, k =>
    fit s fun t => repeated fit isLazy limit least (most.map (· - 1)) t k
  | limit + 1, 0, most, s, k =>
    if most == some 0 then k s
    else
      let again := fun (_ : Unit) => fit s fun t =>
        if t.isAt s then k t else repeated fit isLazy limit 0 (most.map (· - 1)) t k
      if isLazy then (k s).orElse again else (again ()).orElse fun _ => k s

/-- Fits something as often as possible, each time in the first way. -/
def exhausted (fit : Fit) : (limit least : Nat) → (most : Option Nat) → Spot → Option Spot
  | 0, _, _, s => some s
  | limit + 1, least + 1, most, s =>
    (fit s some).bind (exhausted fit limit least (most.map (· - 1)))
  | limit + 1, 0, most, s =>
    if most == some 0 then some s
    else
      match fit s some with
      | none => some s
      | some t => if t.isAt s then some t else exhausted fit limit 0 (most.map (· - 1)) t

/-! ### Expressions -/

/-- How long the front of a text is that agrees with given characters, if it does. -/
def dropSame (modes : Modes) : List Char → List Char → Option Nat
  | [], _ => some 0
  | _ :: _, [] => none
  | a :: as, b :: bs =>
    let same := if modes.ignoresCase then foldedIn modes a == foldedIn modes b else a == b
    if same then (dropSame modes as bs).map (· + 1) else none

mutual

/-- Fits an expression. -/
def Expression.fit : Expression → Spot → Then → Option Spot
  | .char modes negated items, s, k =>
    match s.after with
    | [] => none
    | c :: _ =>
      if (items.any (SetItem.holds modes c)) != negated then k (s.forward 1) else none
  | .place p, s, k => if p.holds s then k s else none
  | .sequence parts, s, k => fitAll parts s k
  | .choice alternatives, s, k => fitOne alternatives s k
  | .repetition .possessive least most part, s, k =>
    (exhausted part.fit (least + s.after.length + 1) least most s).bind k
  | .repetition eagerness least most part, s, k =>
    repeated part.fit (eagerness == .lazy) (least + s.after.length + 1) least most s k
  | .capture group part, s, k => part.fit s fun t => k (t.capture group s)
  | .atomic part, s, k => (part.fit s some).bind k
  | .ahead wanted part, s, k =>
    match part.fit s some with
    | some t => if wanted then k { s with captured := t.captured } else none
    | none => if wanted then none else k s
  | .behind wanted width part, s, k =>
    match (s.back? width.least).bind fun start => part.fit start some with
    | some t => if wanted then k { s with captured := t.captured } else none
    | none => if wanted then none else k s
  | .sameAs modes group, s, k =>
    ((s.captured? group).bind fun text => dropSame modes text s.after).bind fun n =>
      k (s.forward n)
  | .conditional group yes no, s, k =>
    if (s.captured? group).isSome then yes.fit s k else no.fit s k

/-- Fits expressions behind each other. -/
def fitAll : List Expression → Spot → Then → Option Spot
  | [], s, k => k s
  | part :: rest, s, k => part.fit s fun t => fitAll rest t k

/-- Fits the first of some expressions that can be fitted. -/
def fitOne : List Expression → Spot → Then → Option Spot
  | [], _, _ => none
  | part :: rest, s, k => (part.fit s k).orElse fun _ => fitOne rest s k

end

/-- Whether an expression occurs somewhere from a place on. -/
def Expression.occursFrom (e : Expression) (before : List Char) : List Char → Bool
  | [] => (e.fit ⟨before, [], []⟩ some).isSome
  | c :: rest =>
    (e.fit ⟨before, c :: rest, []⟩ some).isSome || e.occursFrom (c :: before) rest

/-- Whether an expression occurs in a text. -/
def Expression.occursIn (e : Expression) (text : String) : Bool :=
  e.occursFrom [] text.toList

end SpokenIndex.Pattern
