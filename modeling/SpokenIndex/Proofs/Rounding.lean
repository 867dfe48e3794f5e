/-
Rounding keeps order.

A count of units is rounded to a multiple of a step, and the step depends on the size of
the count.  What occurs among the numbers is a multiple of its own step, which is no
longer than the step of a larger count.  So a count between two numbers is rounded to no
less than the one and to no more than the other, whichever step it has.

For the difference of two numbers this says what rounding can hide: a rounded difference
that is below a bound comes from a difference below the bound, and a difference that some
number separates from the bound stays below it.
-/
import Mathlib.Algebra.Order.Ring.Nat
import SpokenIndex.Listing

namespace SpokenIndex.Binary64

variable {m n d : Nat}

/-! ### Quotients -/

theorem roundDiv_bounds (n d : Nat) : n / d ≤ roundDiv n d ∧ roundDiv n d ≤ n / d + 1 := by
  simp only [roundDiv]
  split <;> omega

theorem le_roundDiv (hd : 0 < d) (h : m * d ≤ n) : m ≤ roundDiv n d :=
  ((Nat.le_div_iff_mul_le hd).mpr h).trans (roundDiv_bounds n d).1

theorem roundDiv_mul (hd : 0 < d) (m : Nat) : roundDiv (m * d) d = m := by
  rw [roundDiv, Nat.mul_div_cancel m hd, Nat.mul_mod_left]
  exact if_neg (by omega)

theorem roundDiv_le (hd : 0 < d) (h : n ≤ m * d) : roundDiv n d ≤ m := by
  rcases Nat.lt_or_eq_of_le h with hless | rfl
  · exact (roundDiv_bounds n d).2.trans ((Nat.div_lt_iff_lt_mul hd).mpr hless)
  · exact (roundDiv_mul hd m).le

/-! ### Counts of units -/

theorem roundUnits_one (n : Nat) :
    roundUnits n 1 = roundDiv n (2 ^ stepPlaces n) * 2 ^ stepPlaces n := by
  rw [roundUnits, Nat.div_one, Nat.one_mul]
  rfl

theorem log2_mono (h : m ≤ n) : m.log2 ≤ n.log2 := by
  by_cases hm : m = 0
  · subst hm
    exact Nat.zero_le _
  · exact (Nat.le_log2 (by omega)).mpr ((Nat.log2_self_le hm).trans h)

theorem stepPlaces_mono (h : m ≤ n) : stepPlaces m ≤ stepPlaces n :=
  Nat.sub_le_sub_right (Nat.succ_le_succ (log2_mono h)) _

theorem dvd_of_representable (h : Representable m) : 2 ^ stepPlaces m ∣ m :=
  Nat.dvd_of_mod_eq_zero h.1

/-- A count is rounded to no less than a number below it. -/
theorem le_roundUnits (hm : Representable m) (h : m ≤ n) : m ≤ roundUnits n 1 := by
  have hstep : 0 < 2 ^ stepPlaces n := Nat.two_pow_pos _
  rw [roundUnits_one]
  by_cases hsame : stepPlaces n ≤ stepPlaces m
  · obtain ⟨k, hk⟩ := (Nat.pow_dvd_pow 2 hsame).trans (dvd_of_representable hm)
    rw [Nat.mul_comm] at hk
    calc m = k * 2 ^ stepPlaces n := hk
      _ ≤ roundDiv n (2 ^ stepPlaces n) * 2 ^ stepPlaces n :=
        Nat.mul_le_mul_right _ (le_roundDiv hstep (hk ▸ h))
  · -- the first bit of the count alone is more than the number, and it is a multiple of the step
    have hlog : m.log2 < n.log2 ∧ stepPlaces n ≤ n.log2 := by
      simp only [stepPlaces, significantBits] at hsame ⊢
      omega
    have hn : n ≠ 0 := by
      rintro rfl
      exact absurd hlog.1 (by simp)
    have hfirst : 2 ^ n.log2 = 2 ^ (n.log2 - stepPlaces n) * 2 ^ stepPlaces n := by
      rw [← Nat.pow_add, Nat.sub_add_cancel hlog.2]
    have hbelow : 2 ^ (n.log2 - stepPlaces n) * 2 ^ stepPlaces n ≤ n :=
      hfirst ▸ Nat.log2_self_le hn
    calc m ≤ 2 ^ (m.log2 + 1) := Nat.lt_log2_self.le
      _ ≤ 2 ^ n.log2 := Nat.pow_le_pow_right (by decide) hlog.1
      _ = 2 ^ (n.log2 - stepPlaces n) * 2 ^ stepPlaces n := hfirst
      _ ≤ roundDiv n (2 ^ stepPlaces n) * 2 ^ stepPlaces n :=
        Nat.mul_le_mul_right _ (le_roundDiv hstep hbelow)

/-- A count is rounded to no more than a number above it. -/
theorem roundUnits_le (hm : Representable m) (h : n ≤ m) : roundUnits n 1 ≤ m := by
  obtain ⟨k, hk⟩ := (Nat.pow_dvd_pow 2 (stepPlaces_mono h)).trans (dvd_of_representable hm)
  rw [Nat.mul_comm] at hk
  rw [roundUnits_one]
  calc roundDiv n (2 ^ stepPlaces n) * 2 ^ stepPlaces n ≤ k * 2 ^ stepPlaces n :=
        Nat.mul_le_mul_right _ (roundDiv_le (Nat.two_pow_pos _) (hk ▸ h))
    _ = m := hk.symm

/-- What a count is rounded to is a number, unless it is too large. -/
theorem representable_roundUnits (h : (roundUnits n 1).log2 < wholePlaces) :
    Representable (roundUnits n 1) := by
  refine ⟨Nat.mod_eq_zero_of_dvd ?_, h⟩
  show 2 ^ stepPlaces (roundUnits n 1) ∣ roundUnits n 1
  have hquotient : n / 2 ^ stepPlaces n < 2 ^ significantBits := by
    rw [Nat.div_lt_iff_lt_mul (Nat.two_pow_pos _), ← Nat.pow_add]
    refine Nat.lt_log2_self.trans_le (Nat.pow_le_pow_right (by decide) ?_)
    simp only [stepPlaces]
    omega
  have hbits : roundDiv n (2 ^ stepPlaces n) ≤ 2 ^ significantBits :=
    (roundDiv_bounds n _).2.trans hquotient
  rw [roundUnits_one]
  generalize roundDiv n (2 ^ stepPlaces n) = bits at hbits
  generalize stepPlaces n = places
  rcases Nat.lt_or_eq_of_le hbits with hfew | rfl
  · -- no more bits than a number has: the step is still the one rounded to
    refine Nat.dvd_mul_left_of_dvd (Nat.pow_dvd_pow 2 ?_) bits
    by_cases hzero : bits * 2 ^ places = 0
    · rw [hzero]
      exact Nat.zero_le _
    · have hlog : (bits * 2 ^ places).log2 < significantBits + places := by
        rw [Nat.log2_lt hzero, Nat.pow_add]
        exact Nat.mul_lt_mul_of_pos_right hfew (Nat.two_pow_pos _)
      simp only [stepPlaces]
      omega
  · -- rounded up to a power of two
    rw [← Nat.pow_add, stepPlaces, Nat.log2_two_pow]
    refine Nat.pow_dvd_pow 2 ?_
    simp only [significantBits]
    omega

/-! ### Differences -/

section Difference

variable {a b x bound : Binary64}

theorem units_of_nonneg (h : 0 ≤ a.signedUnits) : a.signedUnits = a.units := by
  unfold signedUnits at h ⊢
  split
  · rename_i hnegative
    rw [if_pos hnegative] at h
    omega
  · rfl

/-- The rounded difference of a number and one that is no larger, against a bound. -/
theorem numeralBelow_sub_iff (hle : b ≤ a) :
    ListingPlan.numeralBelow (a.sub b) bound = true ↔
      Representable (roundUnits (a.signedUnits - b.signedUnits).toNat 1) ∧
        (roundUnits (a.signedUnits - b.signedUnits).toNat 1 : Int) < bound.signedUnits := by
  have hpositive : ¬ a.signedUnits - b.signedUnits < 0 := by
    have hunits : b.signedUnits ≤ a.signedUnits := hle
    omega
  have hcount : (a.signedUnits - b.signedUnits).natAbs
      = (a.signedUnits - b.signedUnits).toNat := by omega
  rw [sub, ofSignedUnits, ofUnits, hcount, decide_eq_false hpositive]
  by_cases hfinite : Representable (roundUnits (a.signedUnits - b.signedUnits).toNat 1)
  · rw [dif_pos hfinite, ListingPlan.numeralBelow, decide_eq_true_eq, and_iff_right hfinite]
    exact Iff.rfl
  · rw [dif_neg hfinite, ListingPlan.numeralBelow]
    simp [hfinite]

/-- A difference is below what its rounded value is below. -/
theorem sub_lt_of_numeralBelow (hle : b ≤ a)
    (h : ListingPlan.numeralBelow (a.sub b) bound = true) :
    a.signedUnits - b.signedUnits < bound.signedUnits := by
  obtain ⟨-, hbelow⟩ := (numeralBelow_sub_iff hle).mp h
  have hbound : bound.signedUnits = bound.units := units_of_nonneg (by omega)
  by_contra hno
  have hmore : bound.units ≤ (a.signedUnits - b.signedUnits).toNat := by omega
  have hrounded := le_roundUnits bound.representable hmore
  omega

/-- A difference that is no more than a number below a bound is rounded to less than the bound. -/
theorem numeralBelow_of_sub_le (hle : b ≤ a) (hx : x < bound)
    (h : a.signedUnits - b.signedUnits ≤ x.signedUnits) :
    ListingPlan.numeralBelow (a.sub b) bound = true := by
  have hless : b.signedUnits ≤ a.signedUnits := hle
  have hbound : x.signedUnits < bound.signedUnits := hx
  have hxunits : x.signedUnits = x.units := units_of_nonneg (by omega)
  have hrounded : roundUnits (a.signedUnits - b.signedUnits).toNat 1 ≤ x.units :=
    roundUnits_le x.representable (by omega)
  refine (numeralBelow_sub_iff hle).mpr ⟨representable_roundUnits ?_, by omega⟩
  exact (log2_mono hrounded).trans_lt x.representable.2

end Difference

end SpokenIndex.Binary64
