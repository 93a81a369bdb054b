import AnchorLint.Text.Basic
import Mathlib.Tactic.Ring

/-!
# Numerals

The digits of a natural number denote that number.  Zeros in front do not count,
zeros behind multiply by the base, and numerals that stand side by side add up
by place value.
-/

namespace AnchorLint

namespace Text

def IsNumeral (text : Text) : Prop :=
  ∀ character ∈ text, character.isDigit = true

theorem IsNumeral.append {first second : Text} (left : first.IsNumeral)
    (right : second.IsNumeral) : (first ++ second).IsNumeral := by
  intro character member
  rcases List.mem_append.mp member with inFirst | inSecond
  · exact left character inFirst
  · exact right character inSecond

theorem IsNumeral.sublist {part whole : Text} (numeral : whole.IsNumeral)
    (sublist : part.Sublist whole) : part.IsNumeral :=
  fun character member => numeral character (sublist.subset member)

theorem isNumeral_zeros (count : Nat) :
    IsNumeral (List.replicate count '0') := by
  intro character member
  rw [List.eq_of_mem_replicate member]
  decide

theorem isNumeral_ofNat (number : Nat) : (ofNat number).IsNumeral :=
  fun _ member => Nat.isDigit_of_mem_toDigits (by decide) (by decide) member

theorem isNumeral_padZeros (width : Nat) {digits : Text}
    (numeral : digits.IsNumeral) : (padZeros width digits).IsNumeral :=
  (isNumeral_zeros _).append numeral

theorem ofNat_ne_nil (number : Nat) : ofNat number ≠ [] :=
  Nat.toDigits_ne_nil

theorem takeWhile_isDigit {digits rest : Text} (numeral : digits.IsNumeral)
    (stops : ∀ character ∈ rest.head?, character.isDigit = false) :
    (digits ++ rest).takeWhile Char.isDigit = digits := by
  rw [List.takeWhile_append_of_pos numeral]
  cases rest with
  | nil => simp
  | cons character rest => simp [stops character (by simp)]

/-! ## The number that digits denote -/

theorem digitsValue_foldl (base start : Nat) (digits : Text) :
    digits.foldl (fun value digit =>
        value * base + (hexValue? digit).getD 0) start =
      start * base ^ digits.length + digitsValue base digits := by
  unfold digitsValue
  induction digits generalizing start with
  | nil => simp
  | cons digit digits ih =>
      rw [List.foldl_cons, List.foldl_cons, ih, ih (0 * base + _),
        List.length_cons]
      ring

theorem digitsValue_append (base : Nat) (first second : Text) :
    digitsValue base (first ++ second) =
      digitsValue base first * base ^ second.length
        + digitsValue base second := by
  have split := digitsValue_foldl base (digitsValue base first) second
  rw [← split, digitsValue, List.foldl_append]
  rfl

theorem digitsValue_zeros (base count : Nat) :
    digitsValue base (List.replicate count '0') = 0 := by
  induction count with
  | zero => rfl
  | succ count ih =>
      rw [List.replicate_succ, ← List.singleton_append, digitsValue_append, ih]
      simp [digitsValue, hexValue?]

theorem hexValue?_of_isDigit {digit : Char} (isDigit : digit.isDigit = true) :
    hexValue? digit = some (digit.toNat - 48) := by
  have bounds : '0' ≤ digit ∧ digit ≤ '9' := by
    simpa [Char.isDigit, Char.le_def] using isDigit
  simp [hexValue?, bounds]

theorem digitsValue_eq_ofDigitChars {digits : Text}
    (numeral : digits.IsNumeral) :
    digitsValue 10 digits = Nat.ofDigitChars 10 digits 0 := by
  have fold (start : Nat) : digits.foldl (fun value digit =>
      value * 10 + (hexValue? digit).getD 0) start =
        Nat.ofDigitChars 10 digits start := by
    induction digits generalizing start with
    | nil => rfl
    | cons digit digits ih =>
        obtain ⟨here, later⟩ := List.forall_mem_cons.mp numeral
        rw [List.foldl_cons, Nat.ofDigitChars_cons, ih later,
          hexValue?_of_isDigit here, Nat.mul_comm]
        rfl
  exact fold 0

@[simp]
theorem digitsValue_ofNat (number : Nat) :
    digitsValue 10 (ofNat number) = number := by
  rw [digitsValue_eq_ofDigitChars (isNumeral_ofNat number)]
  exact Nat.ofDigitChars_ten_toDigits

theorem head?_ofNat_ne_zero {number : Nat} (positive : number ≠ 0) :
    (ofNat number).head? ≠ some '0' := by
  induction number using Nat.strongRecOn with
  | ind number ih =>
      rw [ofNat, Nat.toDigits_eq_if (by decide)]
      split
      · rename_i small
        have digits : ∀ digit < 10, digit ≠ 0 → digit.digitChar ≠ '0' := by
          decide
        simpa using digits number small positive
      · rename_i large
        have rest := ih (number / 10) (by omega) (by omega)
        obtain ⟨first, digits, equal⟩ :=
          List.exists_cons_of_ne_nil (ofNat_ne_nil (number / 10))
        rw [equal] at rest
        rw [← ofNat, equal]
        exact rest

end Text

end AnchorLint
