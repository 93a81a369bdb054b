import AnchorLint.Number.Binary64
import Mathlib.Algebra.Order.Field.Power
import Mathlib.Algebra.Order.Ring.Rat
import Mathlib.Tactic.FieldSimp
import Mathlib.Tactic.Linarith
import Mathlib.Tactic.NormNum
import Mathlib.Tactic.Ring

/-!
# Rounding to binary numbers

Rounding never leaves the exponents of the format, and what lies above half of
the smallest positive number is not rounded to zero.
-/

namespace AnchorLint

namespace Binary64

/-- Whether the exponent of a number is not below those of the format. -/
def IsInRange : Binary64 → Prop
  | finite _ _ exponent => minExponent ≤ exponent
  | _ => True

theorem minExponent_le_exponentFor (top bottom : Nat) :
    minExponent ≤ exponentFor top bottom :=
  le_max_right _ _

theorem ofFraction_cases {top : Nat} (positive : top ≠ 0) (bottom : Nat)
    (negative : Bool) :
    ofFraction negative top bottom = infinity negative ∨
      ∃ mantissa exponent,
        ofFraction negative top bottom =
            finite negative mantissa exponent ∧
          minExponent ≤ exponent ∧
          (mantissa = 0 →
            let scaled := scale top bottom (exponentFor top bottom)
            divideToEven scaled.1 scaled.2 = 0) := by
  have least := minExponent_le_exponentFor top bottom
  unfold ofFraction
  rw [if_neg positive]
  dsimp only
  split <;> rename_i full <;> dsimp only <;> split
  · exact Or.inl rfl
  · refine Or.inr ⟨_, _, rfl, by omega, fun none => ?_⟩
    rw [full] at none
    exact absurd none (by decide)
  · exact Or.inl rfl
  · exact Or.inr ⟨_, _, rfl, least, id⟩

theorem isInRange_ofFraction (negative : Bool) (top bottom : Nat) :
    (ofFraction negative top bottom).IsInRange := by
  by_cases zero : top = 0
  · rw [ofFraction, if_pos zero]
    exact le_refl _
  · rcases ofFraction_cases zero bottom negative with
      equal | ⟨mantissa, exponent, equal, least, -⟩
    · rw [equal]
      trivial
    · rw [equal]
      exact least

theorem isInRange_ofDecimal (negative : Bool) (digits : Nat) (power : Int) :
    (ofDecimal negative digits power).IsInRange := by
  unfold ofDecimal
  dsimp only
  split
  · exact le_refl _
  split
  · trivial
  split
  · exact le_refl _
  split
  · exact isInRange_ofFraction ..
  · exact isInRange_ofFraction ..

/-! ## Numbers that are not rounded to zero -/

theorem divideToEven_ne_zero {top bottom : Nat} (large : bottom < 2 * top) :
    divideToEven top bottom ≠ 0 := by
  unfold divideToEven
  dsimp only
  split
  · exact Nat.succ_ne_zero _
  · rename_i notUp
    intro zero
    have small : top % bottom = top := by
      rcases Nat.div_eq_zero_iff.mp zero with none | below
      · rw [none, Nat.mod_zero]
      · exact Nat.mod_eq_of_lt below
    exact notUp (Or.inl (by omega))

theorem scale_of_neg {top bottom : Nat} {exponent : Int}
    (negative : exponent < 0) :
    scale top bottom exponent = (top * 2 ^ exponent.natAbs, bottom) :=
  if_pos negative

/-- The scaled fraction is at least one if the exponent is below the difference
of the binary orders of magnitude. -/
theorem scale_le {top bottom : Nat} (positive : top ≠ 0) {exponent : Int}
    (below : exponent < (Nat.log2 top : Int) - Nat.log2 bottom) :
    (scale top bottom exponent).2 ≤ (scale top bottom exponent).1 := by
  have least : 2 ^ Nat.log2 top ≤ top := Nat.log2_self_le positive
  have most : bottom < 2 ^ (Nat.log2 bottom + 1) := Nat.lt_log2_self
  unfold scale
  split
  · rename_i negative
    calc bottom ≤ 2 ^ (Nat.log2 bottom + 1) := most.le
      _ ≤ 2 ^ (Nat.log2 top + exponent.natAbs) :=
        Nat.pow_le_pow_right (by decide) (by omega)
      _ = 2 ^ Nat.log2 top * 2 ^ exponent.natAbs := Nat.pow_add ..
      _ ≤ top * 2 ^ exponent.natAbs := Nat.mul_le_mul_right _ least
  · calc bottom * 2 ^ exponent.natAbs
        ≤ 2 ^ (Nat.log2 bottom + 1) * 2 ^ exponent.natAbs :=
          Nat.mul_le_mul_right _ most.le
      _ = 2 ^ (Nat.log2 bottom + 1 + exponent.natAbs) := (Nat.pow_add ..).symm
      _ ≤ 2 ^ Nat.log2 top := Nat.pow_le_pow_right (by decide) (by omega)
      _ ≤ top := least

/-- A fraction above half of the smallest positive number is still above one
half once it is scaled. -/
theorem scale_exponentFor_lt {top bottom : Nat} (some : 0 < bottom)
    (large : bottom < 2 * (top * 2 ^ minExponent.natAbs)) :
    let scaled := scale top bottom (exponentFor top bottom)
    scaled.2 < 2 * scaled.1 := by
  intro scaled
  have positive : top ≠ 0 := by
    rintro rfl
    simp at large
  rcases le_or_gt (exponentFor top bottom) minExponent with least | above
  · have equal : exponentFor top bottom = minExponent :=
      le_antisymm least (minExponent_le_exponentFor top bottom)
    simp only [scaled, equal, scale_of_neg (by decide : minExponent < 0)]
    exact large
  · have below : exponentFor top bottom <
        (Nat.log2 top : Int) - Nat.log2 bottom := by
      unfold exponentFor at above ⊢
      dsimp only at above ⊢
      rw [max_eq_left (le_of_lt (by simpa using above))]
      split <;> omega
    have atLeast : scaled.2 ≤ scaled.1 := scale_le positive below
    have nonzero : 0 < scaled.2 := by
      simp only [scaled, scale]
      split
      · exact some
      · rw [Nat.pow_eq]
        positivity
    omega

theorem isZero_ofFraction {top bottom : Nat} (negative : Bool)
    (some : 0 < bottom)
    (large : bottom < 2 * (top * 2 ^ minExponent.natAbs)) :
    (ofFraction negative top bottom).isZero = false := by
  have positive : top ≠ 0 := by
    rintro rfl
    simp at large
  have rounded := divideToEven_ne_zero (scale_exponentFor_lt some large)
  rcases ofFraction_cases positive bottom negative with
    equal | ⟨mantissa, exponent, equal, -, zero⟩
  · rw [equal]
    rfl
  · rw [equal]
    exact beq_eq_false_iff_ne.mpr fun none => rounded (zero none)

/-- Half of the smallest positive number. -/
def tiny : ℚ := 2 ^ (minExponent - 1)

theorem tiny_pos : 0 < tiny :=
  zpow_pos (by norm_num) _

theorem lt_of_tiny_lt {digits places : Nat}
    (large : tiny < digits * (10 : ℚ) ^ (-(places : ℤ))) :
    10 ^ places < 2 * (digits * 2 ^ minExponent.natAbs) := by
  have depth : minExponent - 1 = -((minExponent.natAbs + 1 : ℕ) : ℤ) := by
    decide
  generalize minExponent.natAbs = bits at depth ⊢
  have positive : (0 : ℚ) < 10 ^ places := by positivity
  have unit : (0 : ℚ) < 2 ^ (bits + 1) := by positivity
  rw [tiny, depth, zpow_neg, zpow_neg, zpow_natCast, zpow_natCast,
    ← div_eq_mul_inv, lt_div_iff₀ positive, inv_mul_lt_iff₀ unit] at large
  have whole : 10 ^ places < 2 ^ (bits + 1) * digits := by
    exact_mod_cast large
  calc 10 ^ places < 2 ^ (bits + 1) * digits := whole
    _ = 2 * (digits * 2 ^ bits) := by ring

theorem two_pow_le_ten_pow {bits places : Nat} (few : bits ≤ 3 * places) :
    2 ^ bits ≤ 10 ^ places := by
  calc 2 ^ bits ≤ 2 ^ (3 * places) := Nat.pow_le_pow_right (by decide) few
    _ = (2 ^ 3) ^ places := Nat.pow_mul ..
    _ ≤ 10 ^ places := Nat.pow_le_pow_left (by decide) places

/-- Digits far behind the point denote less than half of the smallest positive
number. -/
theorem le_places_of_tiny_lt {digits places : Nat}
    (large : tiny < digits * (10 : ℚ) ^ (-(places : ℤ))) :
    places ≤ (Nat.toDigits 10 digits).length + 359 := by
  have above := lt_of_tiny_lt large
  have short : digits < 10 ^ (Nat.toDigits 10 digits).length :=
    (Nat.length_toDigits_le_iff (by decide) Nat.length_toDigits_pos).mp le_rfl
  have bound : 10 ^ places <
      10 ^ ((Nat.toDigits 10 digits).length + 359) := by
    have magnitude := two_pow_le_ten_pow
      (by decide : minExponent.natAbs + 1 ≤ 3 * 359)
    generalize 359 = margin at magnitude ⊢
    calc 10 ^ places < 2 * (digits * 2 ^ minExponent.natAbs) := above
      _ = digits * 2 ^ (minExponent.natAbs + 1) := by ring
      _ ≤ 10 ^ (Nat.toDigits 10 digits).length * 10 ^ margin :=
        Nat.mul_le_mul short.le magnitude
      _ = 10 ^ ((Nat.toDigits 10 digits).length + margin) :=
        (Nat.pow_add ..).symm
  exact ((Nat.pow_lt_pow_iff_right (by decide)).mp bound).le

/-- A decimal above half of the smallest positive number is not rounded to
zero. -/
theorem isZero_ofDecimal {digits : Nat} {power : Int} (negative : Bool)
    (large : tiny < digits * (10 : ℚ) ^ power) :
    (ofDecimal negative digits power).isZero = false := by
  have positive : digits ≠ 0 := by
    rintro rfl
    exact absurd large (by simpa using tiny_pos.le)
  have behindPoint (negativePower : power < 0) :
      power = -(power.natAbs : ℤ) := by
    omega
  unfold ofDecimal
  dsimp only
  rw [if_neg positive]
  split
  · rfl
  split
  · rename_i low
    rw [behindPoint (by omega)] at large
    have places := le_places_of_tiny_lt large
    omega
  split
  · rename_i negativePower
    rw [behindPoint negativePower] at large
    rw [Nat.pow_eq]
    exact isZero_ofFraction negative (by positivity) (lt_of_tiny_lt large)
  · rw [Nat.pow_eq]
    refine isZero_ofFraction negative one_pos ?_
    have some : 0 < digits * 10 ^ power.natAbs * 2 ^ minExponent.natAbs := by
      positivity
    omega

end Binary64

end AnchorLint
