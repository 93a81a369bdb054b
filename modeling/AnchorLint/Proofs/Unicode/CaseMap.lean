import AnchorLint.Unicode.CaseMap

/-!
# Lower case letters have no lower case

The runs of the lower case map lead out of all of them: what a run maps to is covered
by no run, and is no capital letter of ASCII either.  Most runs map one half of the
characters of a block to the other half, so where the images of one run lie between
the ends of another, they are told apart by parity.
-/

namespace AnchorLint

namespace Unicode

namespace CaseRun

/-- The code point that a run maps a code point to. -/
def image (run : CaseRun) (codePoint : Nat) : Nat :=
  (codePoint + run.shift).toNat

/-- Whether all code points of a run have the parity of the first. -/
def isSparse (run : CaseRun) : Bool :=
  run.stride == 2 || run.first == run.last

/-- Whether the images of a run avoid the code points from `low` to `high`. -/
def avoids (run : CaseRun) (low high : Nat) : Bool :=
  Nat.blt (run.image run.last) low || Nat.blt high (run.image run.first)

/-- Whether the images of a run avoid another run, as its ends and its parity
show. -/
def isClearOf (run other : CaseRun) : Bool :=
  run.avoids other.first other.last ||
    (run.isSparse && other.isSparse &&
      Nat.beq ((run.image run.first + other.first) % 2) 1)

end CaseRun

/-- No run of the lower case map leads to a run. -/
theorem lowerRuns_isClear :
    ∀ run ∈ lowerRuns, ∀ other ∈ lowerRuns, run.isClearOf other = true := by
  have all : (lowerRuns.all fun run => lowerRuns.all run.isClearOf) = true := by
    decide +kernel
  intro run member
  exact List.all_eq_true.mp (List.all_eq_true.mp all run member)

/-- The runs of the lower case map lead to characters, but not to a capital letter of
ASCII or to one of the two letters with rules of their own. -/
theorem lowerRuns_avoid :
    ∀ run ∈ lowerRuns, 0 ≤ run.first + run.shift ∧
      run.image run.last < 0x110000 ∧ run.avoids 0xD800 0xDFFF = true ∧
      run.avoids 65 90 = true ∧ run.avoids 0x0130 0x0130 = true ∧
      run.avoids 0x03A3 0x03A3 = true := by
  decide +kernel

theorem CaseRun.avoids_image {run : CaseRun} {codePoint low high : Nat}
    (covered : run.covers codePoint = true) (avoids : run.avoids low high = true) :
    run.image codePoint < low ∨ high < run.image codePoint := by
  simp only [covers, CaseRun.avoids, Bool.and_eq_true, Bool.or_eq_true,
    decide_eq_true_eq, Nat.blt_eq] at covered avoids
  unfold image at *
  omega

theorem CaseRun.parity_of_isSparse {run : CaseRun} {codePoint : Nat}
    (sparse : run.isSparse = true) (covered : run.covers codePoint = true) :
    codePoint % 2 = run.first % 2 := by
  simp only [isSparse, covers, Bool.and_eq_true, Bool.or_eq_true,
    decide_eq_true_eq, beq_iff_eq] at sparse covered
  rcases sparse with two | single
  · rw [two] at covered
    omega
  · omega

theorem CaseRun.not_covers_image {run other : CaseRun} {codePoint : Nat}
    (covered : run.covers codePoint = true) (proper : 0 ≤ run.first + run.shift)
    (clear : run.isClearOf other = true) :
    other.covers (run.image codePoint) = false := by
  rw [Bool.eq_false_iff]
  intro within
  rcases (Bool.or_eq_true _ _).mp clear with avoids | apart
  · have outside := avoids_image covered avoids
    simp only [covers, Bool.and_eq_true, decide_eq_true_eq] at within
    omega
  · simp only [Bool.and_eq_true, Nat.beq_eq] at apart
    have own := parity_of_isSparse apart.1.1 covered
    have others := parity_of_isSparse apart.1.2 within
    have odd := apart.2
    simp only [covers, Bool.and_eq_true, decide_eq_true_eq] at covered
    unfold image at *
    omega

theorem shiftCase_cases (runs : List CaseRun) (character : Char) :
    ((∀ run ∈ runs, run.covers character.toNat = false) ∧
        shiftCase runs character = character) ∨
      ∃ run ∈ runs, run.covers character.toNat = true ∧
        shiftCase runs character = Char.ofNat (run.image character.toNat) := by
  rw [shiftCase]
  cases found : runs.find? fun run => run.covers character.toNat with
  | none =>
      exact Or.inl ⟨fun run member =>
        Bool.eq_false_iff.mpr (List.find?_eq_none.mp found run member), rfl⟩
  | some run =>
      have covered := List.find?_some found
      exact Or.inr ⟨run, List.mem_of_find?_eq_some found, covered, rfl⟩

theorem shiftCase_of_not_covered {runs : List CaseRun} {character : Char}
    (outside : ∀ run ∈ runs, run.covers character.toNat = false) :
    shiftCase runs character = character := by
  rcases shiftCase_cases runs character with
    ⟨-, same⟩ | ⟨run, member, covered, -⟩
  · exact same
  · simp [outside run member] at covered

/-- A character that the runs of the lower case map change is changed to one that they
leave alone, and that is no capital letter. -/
theorem shiftCase_lowerRuns (character : Char) :
    shiftCase lowerRuns character = character ∨
      ∃ lowered, shiftCase lowerRuns character = lowered ∧
        shiftCase lowerRuns lowered = lowered ∧
        (lowered.toNat < 65 ∨ 90 < lowered.toNat) ∧
        lowered.toNat ≠ 0x0130 ∧ lowered.toNat ≠ 0x03A3 := by
  rcases shiftCase_cases lowerRuns character with
    ⟨-, same⟩ | ⟨run, member, covered, shifted⟩
  · exact Or.inl same
  right
  obtain ⟨proper, small, noSurrogate, noCapital, noDotted, noSigma⟩ :=
    lowerRuns_avoid run member
  have valid : (run.image character.toNat).isValidChar := by
    have outside := CaseRun.avoids_image covered noSurrogate
    simp only [CaseRun.covers, Bool.and_eq_true, decide_eq_true_eq] at covered
    unfold CaseRun.image at *
    unfold Nat.isValidChar
    omega
  have value : (Char.ofNat (run.image character.toNat)).toNat =
      run.image character.toNat := by
    rw [Char.ofNat, dif_pos valid]
    rfl
  refine ⟨_, shifted, ?_, ?_⟩
  · apply shiftCase_of_not_covered
    intro other otherMember
    rw [value]
    exact CaseRun.not_covers_image covered proper
      (lowerRuns_isClear run member other otherMember)
  · rw [value]
    have capital := CaseRun.avoids_image covered noCapital
    have dotted := CaseRun.avoids_image covered noDotted
    have sigma := CaseRun.avoids_image covered noSigma
    omega

end Unicode

end AnchorLint
