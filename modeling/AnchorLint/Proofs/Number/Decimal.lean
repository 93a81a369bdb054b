import AnchorLint.Number.Decimal
import AnchorLint.Proofs.Number.Binary64
import AnchorLint.Proofs.Text.Digits
import Mathlib.Data.List.TakeWhile

/-!
# Shortest decimal texts denote numbers

The digits that are printed for a positive number are those of a positive number
again, and of one that is not less than half of the smallest positive number.
However they are laid out, they are a numeral with a point or an exponent.
-/

namespace AnchorLint

namespace Decimal

/-! ## Digits that are not too small -/

theorem weight_pos (position : Int) (count : Nat) :
    0 < (weight position count).1 ∧ 0 < (weight position count).2 := by
  unfold weight
  simp only [Nat.pow_eq]
  split <;> constructor <;> positivity

theorem weight_eq (position : Int) (count : Nat) :
    ((weight position count).1 : ℚ) / (weight position count).2 =
      10 ^ (position - count) := by
  unfold weight
  simp only [Nat.pow_eq]
  split
  · rename_i negative
    have power : position - count = -((position - count).natAbs : ℤ) := by
      omega
    rw [power, zpow_neg, zpow_natCast, Int.natAbs_neg, Int.natAbs_natCast]
    push_cast
    exact one_div _
  · rename_i notNegative
    have power : position - count = ((position - count).natAbs : ℤ) := by
      omega
    rw [power, zpow_natCast, Int.natAbs_natCast]
    push_cast
    exact div_one _

/-- A quarter of the last place of a number, in the scale of its interval. -/
theorem exists_quarter (mantissa : Nat) (exponent : Int) :
    ∃ quarter : Nat, 0 < quarter ∧
      (quarter : ℚ) =
        2 ^ (exponent - 2) * (interval mantissa exponent).scale ∧
      (4 * mantissa - 2) * quarter ≤ (interval mantissa exponent).low ∧
      (interval mantissa exponent).low ≤
        (interval mantissa exponent).value := by
  have split : (2 : ℚ) ^ (exponent - 2) = 2 ^ exponent / 4 := by
    rw [zpow_sub₀ (by norm_num)]
    norm_num
  unfold interval
  simp only [Nat.pow_eq]
  refine ⟨if exponent < 0 then 1 else 2 ^ exponent.natAbs, ?_, ?_, ?_, ?_⟩
  · split_ifs <;> positivity
  · rw [split]
    split_ifs with negative
    · have power : exponent = -(exponent.natAbs : ℤ) := by omega
      rw [power, zpow_neg, zpow_natCast, Int.natAbs_neg, Int.natAbs_natCast]
      push_cast
      field_simp
    · have power : exponent = (exponent.natAbs : ℤ) := by omega
      rw [power, zpow_natCast, Int.natAbs_natCast]
      push_cast
      field_simp
  · apply Nat.mul_le_mul_right
    split_ifs <;> omega
  · apply Nat.mul_le_mul_right
    split_ifs <;> omega

theorem interval_scale_pos (mantissa : Nat) (exponent : Int) :
    0 < (interval mantissa exponent).scale := by
  unfold interval
  simp only [Nat.pow_eq]
  split_ifs <;> positivity

section

variable {mantissa : Nat} {exponent : Int}

/-- Two quarters of the last place are half of it. -/
theorem half_lt_of_lt {quarter top bottom : Nat}
    (equal : (quarter : ℚ) =
      2 ^ (exponent - 2) * (interval mantissa exponent).scale)
    (some : 0 < bottom)
    (more : 2 * quarter * bottom <
      top * (interval mantissa exponent).scale) :
    (2 : ℚ) ^ (exponent - 1) < top / bottom := by
  have half : (2 : ℚ) ^ (exponent - 1) = 2 * 2 ^ (exponent - 2) := by
    rw [← zpow_one_add₀ (by norm_num)]
    congr 1
    omega
  have cast : (2 : ℚ) * quarter * bottom <
      top * (interval mantissa exponent).scale := by
    exact_mod_cast more
  have scaleCast : (0 : ℚ) < (interval mantissa exponent).scale := by
    exact_mod_cast interval_scale_pos mantissa exponent
  have bottomCast : (0 : ℚ) < bottom := by exact_mod_cast some
  rw [half, lt_div_iff₀ bottomCast]
  rw [equal] at cast
  nlinarith

/-- What reads back as a number is above half of its last place. -/
theorem lt_of_covers (positive : mantissa ≠ 0) {top bottom : Nat}
    (some : 0 < bottom)
    (covers : (interval mantissa exponent).covers top bottom = true) :
    (2 : ℚ) ^ (exponent - 1) < top / bottom := by
  obtain ⟨quarter, someQuarter, equal, below, -⟩ :=
    exists_quarter mantissa exponent
  refine half_lt_of_lt equal some ?_
  have closed : (interval mantissa exponent).closed =
      decide (mantissa % 2 = 0) := rfl
  unfold Interval.covers at covers
  dsimp only at covers
  -- The least mantissa is odd, so that its interval has no ends.
  split at covers
  · rename_i even
    rw [closed, decide_eq_true_eq] at even
    rw [Bool.and_eq_true, decide_eq_true_eq, decide_eq_true_eq] at covers
    have wide : 2 * quarter < (interval mantissa exponent).low := by
      have more : 3 * quarter ≤ (4 * mantissa - 2) * quarter :=
        Nat.mul_le_mul_right _ (by omega)
      omega
    exact (Nat.mul_lt_mul_of_pos_right wide some).trans_le covers.1
  · rw [Bool.and_eq_true, decide_eq_true_eq, decide_eq_true_eq] at covers
    have wide : 2 * quarter ≤ (interval mantissa exponent).low := by
      have more : 2 * quarter ≤ (4 * mantissa - 2) * quarter :=
        Nat.mul_le_mul_right _ (by omega)
      omega
    exact (Nat.mul_le_mul_right _ wide).trans_lt covers.1

/-- The decimal just above a number is above half of its last place. -/
theorem lt_digitsBelow_succ (positive : mantissa ≠ 0) (position : Int)
    (count : Nat) :
    (2 : ℚ) ^ (exponent - 1) <
      ((digitsBelow (interval mantissa exponent) position count + 1)
          * (weight position count).1 : ℕ) / (weight position count).2 := by
  obtain ⟨quarter, -, equal, below, most⟩ := exists_quarter mantissa exponent
  obtain ⟨up, down⟩ := weight_pos position count
  refine half_lt_of_lt equal down ?_
  have above : (interval mantissa exponent).value * (weight position count).2 <
      (digitsBelow (interval mantissa exponent) position count + 1)
        * ((interval mantissa exponent).scale * (weight position count).1) :=
    Nat.lt_mul_of_div_lt (Nat.lt_succ_self _)
      (Nat.mul_pos (interval_scale_pos mantissa exponent) up)
  have wide : 2 * quarter ≤ (interval mantissa exponent).value := by
    have more : 2 * quarter ≤ (4 * mantissa - 2) * quarter :=
      Nat.mul_le_mul_right _ (by omega)
    omega
  calc 2 * quarter * (weight position count).2
      ≤ (interval mantissa exponent).value * (weight position count).2 :=
        Nat.mul_le_mul_right _ wide
    _ < _ := above
    _ = _ := by ring

theorem covers_of_candidate {interval : Interval} {position : Int}
    {count digits : Nat}
    (found : candidate? interval position count = some digits) :
    interval.covers (digits * (weight position count).1)
      (weight position count).2 = true := by
  unfold candidate? at found
  dsimp only at found
  split at found
  · rename_i fitsBelow fitsAbove
    obtain rfl := Option.some.inj found
    split
    · exact fitsBelow
    · exact fitsAbove
  · rename_i fitsBelow _
    exact Option.some.inj found ▸ fitsBelow
  · rename_i _ fitsAbove
    exact Option.some.inj found ▸ fitsAbove
  · cases found

theorem mul_weight (digits : Nat) (position : Int) (count : Nat) :
    ((digits * (weight position count).1 : ℕ) : ℚ) /
        (weight position count).2 =
      digits * 10 ^ (position - count) := by
  rw [← weight_eq]
  push_cast
  ring

/-- The digits that are found denote more than half of the last place. -/
theorem lt_searchFrom (positive : mantissa ≠ 0) (position : Int)
    (steps count : Nat) :
    let found := searchFrom (interval mantissa exponent) position steps count
    (2 : ℚ) ^ (exponent - 1) < found.1 * 10 ^ (position - found.2) := by
  intro found
  induction steps generalizing count with
  | zero =>
      have above := @lt_digitsBelow_succ mantissa exponent positive position
        count
      rwa [mul_weight] at above
  | succ steps ih =>
      simp only [found, searchFrom]
      cases tried : candidate? (interval mantissa exponent) position count with
      | none => exact ih (count + 1)
      | some digits =>
          rw [← mul_weight]
          exact lt_of_covers positive (weight_pos position count).2
            (covers_of_candidate tried)

end

/-! ## The digits without zeros at the end -/

theorem dropEndWhile_zeros (digits : Text) :
    ∃ count, digits =
      Text.dropEndWhile (· == '0') digits ++ List.replicate count '0' := by
  refine ⟨(digits.reverse.takeWhile (· == '0')).length, ?_⟩
  have zeros : digits.reverse.takeWhile (· == '0') =
      List.replicate (digits.reverse.takeWhile (· == '0')).length '0' :=
    List.eq_replicate_iff.mpr ⟨rfl, fun character member => by
      simpa using List.mem_takeWhile_imp member⟩
  have parts : digits.reverse.takeWhile (· == '0')
      ++ digits.reverse.dropWhile (· == '0') = digits.reverse :=
    List.takeWhile_append_dropWhile
  rw [zeros] at parts
  have reversed := congrArg List.reverse parts
  rw [List.reverse_append, List.reverse_reverse,
    List.reverse_replicate] at reversed
  exact reversed.symm

/-- The digits of a positive number as they are printed. -/
structure IsSignificant (digits : Text) : Prop where
  isNumeral : digits.IsNumeral
  ne_nil : digits ≠ []
  head_ne : digits.head? ≠ some '0'

/-- The number that digits denote if the point stands at a position. -/
def denoted (digits : Text) (position : Int) : ℚ :=
  Text.digitsValue 10 digits * 10 ^ (position - digits.length)

theorem shortest_spec {mantissa : Nat} (positive : mantissa ≠ 0)
    (exponent : Int) :
    IsSignificant (shortest mantissa exponent).1 ∧
      (2 : ℚ) ^ (exponent - 1) <
        denoted (shortest mantissa exponent).1
          (shortest mantissa exponent).2 := by
  unfold shortest
  dsimp only
  generalize point _ _ = position
  have large := @lt_searchFrom mantissa exponent positive position 17 1
  generalize searchFrom (interval mantissa exponent) position 17 1 = found at large ⊢
  obtain ⟨number, count⟩ := found
  dsimp only at large ⊢
  have number_ne : number ≠ 0 := by
    rintro rfl
    have : (0 : ℚ) < 2 ^ (exponent - 1) := zpow_pos (by norm_num) _
    simp at large
    linarith
  obtain ⟨zeros, whole⟩ := dropEndWhile_zeros (Text.ofNat number)
  have value := Text.digitsValue_ofNat number
  have head := Text.head?_ofNat_ne_zero number_ne
  have numeral := Text.isNumeral_ofNat number
  generalize Text.dropEndWhile (· == '0') (Text.ofNat number) = digits at whole ⊢
  rw [whole] at value head numeral ⊢
  rw [Text.digitsValue_append, Text.digitsValue_zeros, Nat.add_zero,
    List.length_replicate] at value
  have ne_nil : digits ≠ [] := by
    rintro rfl
    exact number_ne (by simpa [Text.digitsValue] using value.symm)
  refine ⟨⟨numeral.sublist (List.sublist_append_left _ _), ne_nil, ?_⟩, ?_⟩
  · obtain ⟨first, rest, rfl⟩ := List.exists_cons_of_ne_nil ne_nil
    exact head
  · have power : position + ((digits ++ List.replicate zeros '0').length : ℤ)
        - count - digits.length = zeros + (position - count) := by
      simp
      omega
    rw [denoted, power, zpow_add₀ (by norm_num), zpow_natCast, ← mul_assoc]
    have cast : (Text.digitsValue 10 digits : ℚ) * 10 ^ zeros = number := by
      exact_mod_cast value
    rw [cast]
    exact large

/-! ## How digits are laid out -/

/-- A number as it is written: the digits before and behind the point, and the
sign and the digits of the exponent. -/
structure Parts where
  whole : Text
  fraction : Text
  exponent : Option (Bool × Text)

namespace Parts

/-- The mark, the sign and the digits of the exponent, if there is one. -/
def exponentText (parts : Parts) : Text :=
  match parts.exponent with
  | none => []
  | some (negative, digits) => 'e' :: (if negative then '-' else '+') :: digits

def text (parts : Parts) : Text :=
  parts.whole
    ++ (if parts.fraction.isEmpty then [] else '.' :: parts.fraction)
    ++ parts.exponentText

/-- Whether the parts can be read again: a zero in front stands alone. -/
structure IsProper (parts : Parts) : Prop where
  whole_isNumeral : parts.whole.IsNumeral
  whole_ne_nil : parts.whole ≠ []
  leading : parts.whole.head? = some '0' → parts.whole = ['0']
  fraction_isNumeral : parts.fraction.IsNumeral
  exponent_isNumeral : ∀ negative digits,
    parts.exponent = some (negative, digits) →
      digits.IsNumeral ∧ digits ≠ []

def power? (parts : Parts) : Option Int :=
  parts.exponent.map fun (negative, digits) =>
    let value : Int := Text.digitsValue 10 digits
    if negative then -value else value

def digits (parts : Parts) : Text :=
  parts.whole ++ parts.fraction

/-- The power of ten that belongs to the last digit. -/
def lastPower (parts : Parts) : Int :=
  parts.power?.getD 0 - parts.fraction.length

def number (parts : Parts) : ℚ :=
  Text.digitsValue 10 parts.digits * 10 ^ parts.lastPower

/-- Whether there is a point or an exponent. -/
def IsFractional (parts : Parts) : Prop :=
  parts.fraction ≠ [] ∨ parts.exponent ≠ none

end Parts

section

variable {digits : Text} {position : Int}

theorem IsSignificant.take_isProper (significant : IsSignificant digits)
    {count : Nat} (some : count ≠ 0) (exponent : Option (Bool × Text))
    (proper : ∀ negative digits, exponent = Option.some (negative, digits) →
      digits.IsNumeral ∧ digits ≠ []) :
    Parts.IsProper ⟨digits.take count, digits.drop count, exponent⟩ where
  whole_isNumeral := significant.isNumeral.sublist (List.take_sublist _ _)
  whole_ne_nil := by
    simpa [List.take_eq_nil_iff, some] using significant.ne_nil
  leading := by
    intro zero
    rw [List.head?_take, if_neg some] at zero
    exact absurd zero significant.head_ne
  fraction_isNumeral := significant.isNumeral.sublist (List.drop_sublist _ _)
  exponent_isNumeral := proper

theorem IsSignificant.below (significant : IsSignificant digits)
    (low : position ≤ 0) :
    ∃ parts : Parts,
      ['0', '.'] ++ List.replicate position.natAbs '0' ++ digits =
          parts.text ∧
        parts.IsProper ∧ parts.IsFractional ∧
        parts.number = denoted digits position := by
  have ne_nil : List.replicate position.natAbs '0' ++ digits ≠ [] := by
    simp [significant.ne_nil]
  refine ⟨⟨['0'], List.replicate position.natAbs '0' ++ digits, none⟩, ?_,
    ⟨?_, by simp, by simp, ?_, by simp⟩, Or.inl ne_nil, ?_⟩
  · simp [Parts.text, Parts.exponentText, significant.ne_nil]
  · exact Text.isNumeral_zeros 1
  · exact (Text.isNumeral_zeros _).append significant.isNumeral
  · have value : Text.digitsValue 10
        ('0' :: (List.replicate position.natAbs '0' ++ digits)) =
          Text.digitsValue 10 digits := by
      rw [← List.cons_append, ← List.replicate_succ, Text.digitsValue_append,
        Text.digitsValue_zeros, Nat.zero_mul, Nat.zero_add]
    have power : Parts.lastPower
        ⟨['0'], List.replicate position.natAbs '0' ++ digits, none⟩ =
          position - digits.length := by
      simp only [Parts.lastPower, Parts.power?, Option.map_none,
        Option.getD_none, List.length_append, List.length_replicate]
      omega
    rw [Parts.number, power, denoted, Parts.digits, List.singleton_append,
      value]

theorem IsSignificant.above (significant : IsSignificant digits)
    {whole : Nat} (short : digits.length ≤ whole) :
    ∃ parts : Parts,
      digits ++ List.replicate (whole - digits.length) '0' ++ ['.', '0'] =
          parts.text ∧
        parts.IsProper ∧ parts.IsFractional ∧
        parts.number = denoted digits whole := by
  refine ⟨⟨digits ++ List.replicate (whole - digits.length) '0', ['0'], none⟩,
    by simp [Parts.text, Parts.exponentText], ⟨?_, by simp [significant.ne_nil], ?_, ?_, by simp⟩,
    Or.inl (by simp), ?_⟩
  · exact significant.isNumeral.append (Text.isNumeral_zeros _)
  · intro zero
    obtain ⟨first, rest, rfl⟩ :=
      List.exists_cons_of_ne_nil significant.ne_nil
    exact absurd zero significant.head_ne
  · exact Text.isNumeral_zeros 1
  · have value : Text.digitsValue 10
        (digits ++ List.replicate (whole - digits.length) '0' ++ ['0']) =
          Text.digitsValue 10 digits * 10 ^ (whole - digits.length + 1) := by
      rw [List.append_assoc, ← List.replicate_succ', Text.digitsValue_append,
        Text.digitsValue_zeros, List.length_replicate, Nat.add_zero]
    have power : (whole : ℤ) - digits.length =
        ((whole - digits.length + 1 : ℕ) : ℤ) + -1 := by
      omega
    rw [Parts.number, Parts.digits, value, denoted, power,
      zpow_add₀ (by norm_num), zpow_natCast]
    push_cast
    simp only [Parts.lastPower, Parts.power?, Option.map_none,
      Option.getD_none, List.length_singleton]
    norm_num
    ring

theorem Parts.number_take {count : Nat} (atMost : count ≤ digits.length)
    {exponent : Option (Bool × Text)} {power : Int}
    (equal : (Parts.mk [] [] exponent).power?.getD 0 = power) :
    Parts.number ⟨digits.take count, digits.drop count, exponent⟩ =
      denoted digits (power + count) := by
  have last : Parts.lastPower
      ⟨digits.take count, digits.drop count, exponent⟩ =
        power + count - digits.length := by
    have same : Parts.power?
        ⟨digits.take count, digits.drop count, exponent⟩ =
          (Parts.mk [] [] exponent).power? := rfl
    rw [Parts.lastPower, same, equal, List.length_drop]
    omega
  rw [Parts.number, last, denoted, Parts.digits, List.take_append_drop]

theorem IsSignificant.scientific (significant : IsSignificant digits)
    (width : Nat) (power : Int) :
    ∃ parts : Parts,
      digits.take 1 ++ (if digits.length ≤ 1 then [] else '.' :: digits.drop 1)
            ++ ['e', if power < 0 then '-' else '+']
          ++ Text.padZeros width (Text.ofNat power.natAbs) =
          parts.text ∧
        parts.IsProper ∧ parts.IsFractional ∧
        parts.number = denoted digits (power + 1) := by
  have length := List.length_pos_of_ne_nil significant.ne_nil
  refine ⟨⟨digits.take 1, digits.drop 1, some (decide (power < 0),
    Text.padZeros width (Text.ofNat power.natAbs))⟩, ?_,
    significant.take_isProper one_ne_zero _ ?_, Or.inr (by simp),
    Parts.number_take length ?_⟩
  · simp only [Parts.text, Parts.exponentText, List.isEmpty_iff, List.drop_eq_nil_iff]
    simp
  · rintro _ _ equal
    obtain ⟨rfl, rfl⟩ := Prod.mk.inj (Option.some.inj equal)
    refine ⟨Text.isNumeral_padZeros _ (Text.isNumeral_ofNat _), ?_⟩
    simp [Text.padZeros, Text.ofNat_ne_nil]
  · have value : Text.digitsValue 10
        (Text.padZeros width (Text.ofNat power.natAbs)) = power.natAbs := by
      rw [Text.padZeros, Text.digitsValue_append, Text.digitsValue_zeros,
        Text.digitsValue_ofNat]
      simp
    simp only [Parts.power?, Option.map_some, Option.getD_some, value,
      decide_eq_true_eq]
    split <;> omega

/-- However they are laid out, digits with a point at a position can be read
again and denote the same number. -/
theorem Layout.exists_parts (layout : Layout)
    (significant : IsSignificant digits) (position : Int) :
    ∃ parts : Parts, layout.digits digits position = parts.text ∧
      parts.IsProper ∧ parts.IsFractional ∧
      parts.number = denoted digits position := by
  unfold Layout.digits
  split
  · split
    · rename_i low
      exact significant.below low
    · rename_i high
      have whole : (position.natAbs : ℤ) = position := by omega
      dsimp only
      split
      · rename_i short
        have parts := significant.above short
        rwa [whole] at parts
      · rename_i long
        refine ⟨⟨digits.take position.natAbs, digits.drop position.natAbs,
          none⟩, ?_, significant.take_isProper (by omega) none (by simp),
          Or.inl ?_, ?_⟩
        · have ne_nil : digits.drop position.natAbs ≠ [] := by
            simpa using long
          simp [Parts.text, Parts.exponentText, ne_nil]
        · simpa using long
        · have power : (Parts.mk [] [] none).power?.getD 0 = 0 := rfl
          rw [Parts.number_take (by omega) power, zero_add, whole]
  · have parts := significant.scientific layout.exponentWidth (position - 1)
    rwa [sub_add_cancel] at parts

end

end Decimal

end AnchorLint
