/-
The finite binary floating-point numbers of 64 bits.

Every such number is a whole multiple of 2 ^ -1074, the smallest positive one, and
which multiples occur is a condition on the multiple alone: it has at most 53
significant bits and lies below 2 ^ 2098.  So a number is its sign and its count of
smallest units; order is the order of integers, and arithmetic is exact arithmetic
followed by rounding to the nearest number that occurs, an exact tie going to the
even neighbour.

A zero keeps its sign, which shows when it is written and never when it is compared.
-/
namespace SpokenIndex

/-- How many binary places the smallest unit lies below one. -/
def unitPlaces : Nat := 1074

/-- How many smallest units make one. -/
def unitsOfOne : Nat := Nat.pow 2 unitPlaces

/-- The significant bits of a number. -/
def significantBits : Nat := 53

/-- The size of the step between neighbours of `units`, as a power of two. -/
def stepPlaces (units : Nat) : Nat :=
  units.log2 + 1 - significantBits

/-- How many binary places the largest count of units has. -/
def wholePlaces : Nat := 2098

/-- Whether a count of smallest units is a finite number of 64 bits. -/
def Representable (units : Nat) : Prop :=
  units % Nat.pow 2 (stepPlaces units) = 0 ∧ units.log2 < wholePlaces

instance (units : Nat) : Decidable (Representable units) :=
  inferInstanceAs (Decidable (_ ∧ _))

/-- A finite number: a sign and a count of units of 2 ^ -1074. -/
structure Binary64 where
  negative : Bool
  units : Nat
  representable : Representable units
  deriving DecidableEq

/-- What a numeral may denote: a finite number, an infinity, or nothing at all. -/
inductive Numeral where
  | finite (value : Binary64)
  | infinite (negative : Bool)
  | notANumber
  deriving DecidableEq

namespace Binary64

theorem representable_zero : Representable 0 := by decide

/-- Zero, with the sign of a number that is not negative. -/
def zero : Binary64 := ⟨false, 0, representable_zero⟩

instance : Inhabited Binary64 := ⟨zero⟩

/-- The number in units, with its sign. -/
def signedUnits (a : Binary64) : Int :=
  if a.negative then -(a.units : Int) else a.units

instance : LE Binary64 := ⟨fun a b => a.signedUnits ≤ b.signedUnits⟩
instance : LT Binary64 := ⟨fun a b => a.signedUnits < b.signedUnits⟩

instance (a b : Binary64) : Decidable (a ≤ b) :=
  inferInstanceAs (Decidable (a.signedUnits ≤ b.signedUnits))
instance (a b : Binary64) : Decidable (a < b) :=
  inferInstanceAs (Decidable (a.signedUnits < b.signedUnits))

theorem le_refl (a : Binary64) : a ≤ a := Int.le_refl _

theorem le_trans {a b c : Binary64} (hab : a ≤ b) (hbc : b ≤ c) : a ≤ c := Int.le_trans hab hbc

theorem lt_irrefl (a : Binary64) : ¬a < a := Int.lt_irrefl _

theorem not_lt {a b : Binary64} : ¬a < b ↔ b ≤ a := Int.not_lt

/-! ### Rounding -/

/-- A quotient rounded to the nearest whole number, a tie to the even one. -/
def roundDiv (n d : Nat) : Nat :=
  let q := n / d
  let r := n % d
  if d < 2 * r ∨ (d = 2 * r ∧ q % 2 = 1) then q + 1 else q

/-- The number of units nearest to `n / d` units among those that occur. -/
def roundUnits (n d : Nat) : Nat :=
  let step := Nat.pow 2 (stepPlaces (n / d))
  roundDiv n (d * step) * step

/-- The number nearest to `n / d` units. -/
def ofUnits (negative : Bool) (n d : Nat) : Numeral :=
  let units := roundUnits n d
  if h : Representable units then .finite ⟨negative, units, h⟩ else .infinite negative

/-- The number nearest to `digits * 10 ^ exponent`.  Exponents far outside the range are not
worked out: the answer is zero or an infinity. -/
def ofDecimal (negative : Bool) (digits : Nat) (exponent : Int) : Numeral :=
  if digits = 0 then .finite ⟨negative, 0, representable_zero⟩
  else
    let size := Int.ofNat (digits.log2 / 3) + exponent
    if size > 800 then .infinite negative
    else if Int.ofNat (digits.log2 + 1) + exponent < -800 then
      .finite ⟨negative, 0, representable_zero⟩
    else
      match exponent with
      | .ofNat e => ofUnits negative (digits * Nat.pow 10 e * unitsOfOne) 1
      | .negSucc e => ofUnits negative (digits * unitsOfOne) (Nat.pow 10 (e + 1))

/-- The number nearest to an integer. -/
def ofInt (n : Int) : Numeral :=
  ofDecimal (decide (n < 0)) n.natAbs 0

/-- The number nearest to a signed count of units. -/
def ofSignedUnits (n : Int) : Numeral :=
  ofUnits (decide (n < 0)) n.natAbs 1

/-- The difference of two numbers, rounded. -/
def sub (a b : Binary64) : Numeral :=
  ofSignedUnits (a.signedUnits - b.signedUnits)

/-- The sum of two numbers, rounded. -/
def add (a b : Binary64) : Numeral :=
  ofSignedUnits (a.signedUnits + b.signedUnits)

/-- Whether a number is a whole one. -/
def isWhole (a : Binary64) : Bool :=
  a.units % unitsOfOne == 0

/-- The whole part of a number, toward zero. -/
def toInt (a : Binary64) : Int :=
  let n : Int := (a.units / unitsOfOne : Nat)
  if a.negative then -n else n

end Binary64

end SpokenIndex
