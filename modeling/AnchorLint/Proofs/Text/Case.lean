import AnchorLint.Proofs.Unicode.CaseMap
import AnchorLint.Text.Case
import Mathlib.Data.List.Forall2

/-!
# Texts in lower case

What a text in lower case is made of stays as it is when it is put in lower case
again, wherever it stands; the capital sigma, whose lower case depends on its
neighbours, does not occur in it.  So texts that differ from a text in lower case
only in the case of ASCII letters have that text as their lower case.
-/

namespace AnchorLint

namespace Text

/-- Whether the lower case of a character is one character that does not depend on
what stands around it. -/
def LowersTo (character lowered : Char) : Prop :=
  character.toNat ≠ 0x03A3 ∧ lowerCharacter character = [lowered]

/-- Whether a character is left alone by lower case. -/
def IsLowerCase (character : Char) : Prop :=
  LowersTo character character

instance (character lowered : Char) : Decidable (LowersTo character lowered) :=
  inferInstanceAs (Decidable (_ ∧ _))

instance (character : Char) : Decidable (IsLowerCase character) :=
  inferInstanceAs (Decidable (LowersTo character character))

theorem lowerFrom_eq {text lowered : Text}
    (each : List.Forall₂ LowersTo text lowered) (before : Text) :
    lowerFrom before text = lowered := by
  induction each generalizing before with
  | nil => rfl
  | cons here _ ih =>
      rw [lowerFrom, if_neg here.1, here.2, ih, List.singleton_append]

theorem lower_eq {text lowered : Text}
    (each : List.Forall₂ LowersTo text lowered) : lower text = lowered :=
  lowerFrom_eq each []

/-! ## ASCII -/

theorem forall_ascii {motive : Char → Prop}
    (each : ∀ codePoint < 128, motive (Char.ofNat codePoint)) {character : Char}
    (ascii : character.toNat < 128) : motive character := by
  have here := each character.toNat ascii
  rwa [Char.ofNat_toNat] at here

theorem isLowerCase_toLower {character : Char} (ascii : character.toNat < 128) :
    IsLowerCase character.toLower ∧ character.toLower.toNat < 128 := by
  apply forall_ascii (motive := fun character =>
    IsLowerCase character.toLower ∧ character.toLower.toNat < 128) ?_ ascii
  decide

theorem toLower_of_not_capital {character : Char}
    (outside : character.toNat < 65 ∨ 90 < character.toNat) :
    character.toLower = character := by
  refine dif_neg ?_
  rintro ⟨least, most⟩
  have least : 65 ≤ character.toNat := least
  have most : character.toNat ≤ 90 := most
  omega

theorem toLower_of_not_ascii {character : Char}
    (foreign : ¬ character.toNat < 128) : character.toLower = character :=
  toLower_of_not_capital (Or.inr (by omega))

/-! ## Lower case is final -/

theorem isLowerCase_of_mem_lowerCharacter {character lowered : Char}
    (plain : character.toNat ≠ 0x03A3)
    (member : lowered ∈ lowerCharacter character) : IsLowerCase lowered := by
  unfold lowerCharacter at member
  split at member
  · rename_i ascii
    rw [List.mem_singleton.mp member]
    exact (isLowerCase_toLower ascii).1
  split at member
  · rcases List.mem_pair.mp member with rfl | rfl <;> decide
  · rename_i foreign noDotted
    rw [List.mem_singleton.mp member]
    rcases Unicode.shiftCase_lowerRuns character with
      same | ⟨_, rfl, final, noCapital, noDottedImage, noSigma⟩
    · rw [same]
      exact ⟨plain, by rw [lowerCharacter, if_neg foreign, if_neg noDotted, same]⟩
    · refine ⟨noSigma, ?_⟩
      rw [lowerCharacter]
      split
      · rw [toLower_of_not_capital noCapital]
      · rw [final]

theorem isLowerCase_of_mem_lowerFrom {before text : Text} {character : Char}
    (member : character ∈ lowerFrom before text) : IsLowerCase character := by
  induction text generalizing before with
  | nil => simp [lowerFrom] at member
  | cons first rest ih =>
      rw [lowerFrom] at member
      rcases List.mem_append.mp member with here | later
      · split at here
        · -- Both forms of the small sigma are in lower case.
          split at here <;> rw [List.mem_singleton.mp here] <;> decide
        · rename_i plain
          exact isLowerCase_of_mem_lowerCharacter plain here
      · exact ih later

theorem isLowerCase_of_mem_lower {text : Text} {character : Char}
    (member : character ∈ lower text) : IsLowerCase character :=
  isLowerCase_of_mem_lowerFrom member

theorem lower_eq_self {text : Text}
    (lowered : ∀ character ∈ text, IsLowerCase character) : lower text = text :=
  lower_eq (List.forall₂_same.mpr lowered)

theorem toLower_of_isLowerCase {character : Char}
    (lowered : IsLowerCase character) : character.toLower = character := by
  by_cases ascii : character.toNat < 128
  · have single := lowered.2
    rw [lowerCharacter, if_pos ascii] at single
    exact List.singleton_inj.mp single
  · exact toLower_of_not_ascii ascii

/-- A letter of ASCII has the lower case of its other form, and other characters are
their own. -/
theorem lowersTo_of_toLower_eq {character lowered : Char}
    (isLower : IsLowerCase lowered) (same : character.toLower = lowered.toLower) :
    LowersTo character lowered := by
  rw [toLower_of_isLowerCase isLower] at same
  by_cases ascii : character.toNat < 128
  · refine ⟨by omega, ?_⟩
    rw [lowerCharacter, if_pos ascii, same]
  · rw [toLower_of_not_ascii ascii] at same
    exact same ▸ isLower

/-- The lower case of a text that differs from a text in lower case only in the case
of ASCII letters. -/
theorem lower_of_forall₂ {text other : Text}
    (lowered : ∀ character ∈ text, IsLowerCase character)
    (same : List.Forall₂ (fun character spelled =>
      character.toLower = spelled.toLower) text other) :
    lower other = text := by
  apply lower_eq
  induction same with
  | nil => exact .nil
  | cons here _ ih =>
      obtain ⟨isLower, rest⟩ := List.forall_mem_cons.mp lowered
      exact .cons (lowersTo_of_toLower_eq isLower here.symm) (ih rest)

theorem toLower_mem_of_forall₂ {text other : Text}
    (lowered : ∀ character ∈ text, IsLowerCase character)
    (same : List.Forall₂ (fun character spelled =>
      character.toLower = spelled.toLower) text other) :
    ∀ spelled ∈ other, spelled.toLower ∈ text := by
  induction same with
  | nil => simp
  | cons here _ ih =>
      obtain ⟨isLower, rest⟩ := List.forall_mem_cons.mp lowered
      refine List.forall_mem_cons.mpr ⟨?_, fun spelled member =>
        List.mem_cons_of_mem _ (ih rest spelled member)⟩
      rw [← here, toLower_of_isLowerCase isLower]
      exact List.mem_cons_self

end Text

end AnchorLint
