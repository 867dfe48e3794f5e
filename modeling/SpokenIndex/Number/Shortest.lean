/-
The shortest decimal text that reads back.

A finite number of 64 bits is the nearest one to every real in an interval around
it, whose ends belong to it if its last bit is even.  The text of the number has the
fewest significant digits of any decimal in that interval, and among those it is the
nearest to the number.  For a given count of digits only the two neighbours of the
number on that decimal grid need a look: if any point of the grid lies in the
interval, one of them does.

The format is positional from 10 ^ -4 up to, but without, 10 ^ 16 and always shows a
fraction; outside that range it has one digit before the point and an exponent of at
least two digits.
-/
import SpokenIndex.Number.Binary64

namespace SpokenIndex

namespace Binary64

/-- Decimal digits and the power of ten of the last one. -/
structure Scientific where
  digits : Nat
  exponent : Int
  deriving DecidableEq, Repr

/-- The same decimal without a zero in the last place. -/
def Scientific.withoutZero (s : Scientific) : Scientific :=
  if s.digits % 10 = 0 then ⟨s.digits / 10, s.exponent + 1⟩ else s

/-- `10 ^ exponent` as a fraction. -/
def powerOfTen : Int → Nat × Nat
  | .ofNat e => (Nat.pow 10 e, 1)
  | .negSucc e => (1, Nat.pow 10 (e + 1))

/-- The greatest `k` from `start` on, within `tries` steps, with `10 ^ k` units of
2 ^ -1074 at most `units`. -/
def raisePower (units : Nat) : (tries : Nat) → Int → Int
  | 0, k => k
  | tries + 1, k =>
    let (n, d) := powerOfTen (k + 1)
    if n * unitsOfOne ≤ units * d then raisePower units tries (k + 1) else k

/-- The power of ten of the first digit of a number. -/
def leadingPower (units : Nat) : Int :=
  raisePower units 4 ((Int.ofNat units.log2 - unitPlaces) * 30103 / 100000 - 2)

/-- Whether a decimal, in quarter steps of the smallest unit, rounds to `units`. -/
def readsBack (units : Nat) (n d : Nat) : Bool :=
  let step := Nat.pow 2 (stepPlaces units)
  let mantissa := units / step
  let below := if mantissa = Nat.pow 2 (significantBits - 1) ∧ 1 < step then step else 2 * step
  let low := 4 * units - below
  let high := 4 * units + 2 * step
  if mantissa % 2 = 0 then low * d ≤ n && n ≤ high * d else low * d < n && n < high * d

/-- The decimal with `count` digits nearest to a number, if one of them reads back. -/
def withDigits? (units : Nat) (lead : Int) (count : Nat) : Option Scientific :=
  let exponent := lead + 1 - count
  let (n, d) := powerOfTen exponent
  let whole := units * d / (n * unitsOfOne)
  let quarter (digits : Nat) : Nat := 4 * (digits * n * unitsOfOne)
  let fits (digits : Nat) : Bool := readsBack units (quarter digits) d
  let gap (digits : Nat) : Int := ((quarter digits : Int) - 4 * units * d).natAbs
  match fits whole, fits (whole + 1) with
  | true, true =>
    if gap (whole + 1) < gap whole then some ⟨whole + 1, exponent⟩ else some ⟨whole, exponent⟩
  | true, false => some ⟨whole, exponent⟩
  | false, true => some ⟨whole + 1, exponent⟩
  | false, false => none

/-- The shortest decimal of a positive number, trying `count` digits and more. -/
def shortestFrom (units : Nat) (lead : Int) : (tries : Nat) → Nat → Scientific
  | 0, _ => ⟨units, 0⟩
  | tries + 1, count =>
    match withDigits? units lead count with
    | some s => s
    | none => shortestFrom units lead tries (count + 1)

/-- The shortest decimal that rounds to a positive number.  Where a number lies just below a
power of ten, that power is its upper neighbour and has a place too many. -/
def shortest (a : Binary64) : Scientific :=
  if a.units = 0 then ⟨0, 0⟩
  else (shortestFrom a.units (leadingPower a.units) 17 1).withoutZero

/-- The first power of ten at which the text has an exponent. -/
def positionalEnd : Int := 16

/-- The last power of ten, going down, at which the text has none. -/
def positionalStart : Int := -4

/-- The text of a number. -/
def text (a : Binary64) : String :=
  let s := a.shortest
  let digits := toString s.digits
  let lead : Int := s.exponent + digits.length - 1
  let sign := if a.negative then "-" else ""
  if a.units = 0 then sign ++ "0.0"
  else if positionalStart ≤ lead ∧ lead < positionalEnd then
    if lead < 0 then
      sign ++ "0." ++ String.ofList (List.replicate (-lead - 1).toNat '0') ++ digits
    else if 0 ≤ s.exponent then
      sign ++ digits ++ String.ofList (List.replicate s.exponent.toNat '0') ++ ".0"
    else
      let whole := (lead + 1).toNat
      sign ++ String.ofList (digits.toList.take whole) ++ "."
        ++ String.ofList (digits.toList.drop whole)
  else
    let power := toString lead.natAbs
    let fraction := String.ofList (digits.toList.drop 1)
    sign ++ String.ofList (digits.toList.take 1)
      ++ (if fraction.isEmpty then "" else "." ++ fraction)
      ++ (if lead < 0 then "e-" else "e+")
      ++ (if power.length < 2 then "0" ++ power else power)

end Binary64

end SpokenIndex
