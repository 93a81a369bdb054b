import AnchorLint.Proofs.Document.Breaks

/-!
# Places inside a line

A text is cut into lines at its terminators.  Whatever is written at a place in the
text, as long as it has no terminators and is not empty, the lines before it and
behind it are the same, and so are the parts of its own line around it.
-/

namespace AnchorLint

namespace SourceLine

theorem goesOn_of_not_isTerminator {character : Char}
    (solid : isTerminator character = false) :
    ¬ (character = '\r' ∨ character = '\n') := by
  simpa [isTerminator] using solid

theorem wholeFrom_append {solid : Text}
    (unbroken : ∀ character ∈ solid, isTerminator character = false)
    (taken rest : Text) :
    wholeFrom taken (solid ++ rest) = wholeFrom (solid.reverse ++ taken) rest := by
  induction solid generalizing taken with
  | nil => rfl
  | cons character solid ih =>
      obtain ⟨here, later⟩ := List.forall_mem_cons.mp unbroken
      rw [List.cons_append, wholeFrom_solid (goesOn_of_not_isTerminator here),
        ih later, List.reverse_cons, List.append_assoc]
      rfl

/-- A line that has begun ends in the same way whatever it begins with. -/
theorem exists_wholeFrom (rest : Text) :
    ∃ tail behind, ∀ taken : Text, taken ≠ [] →
      wholeFrom taken rest = (taken.reverse ++ tail) :: behind := by
  induction rest with
  | nil =>
      refine ⟨[], [], fun taken begun => ?_⟩
      rw [wholeFrom, if_neg (mt List.isEmpty_iff.mp begun), List.append_nil]
  | cons character rest ih =>
      by_cases ends : character = '\r' ∨ character = '\n'
      · by_cases isPair : character = '\r' ∧ ∃ more, rest = '\n' :: more
        · obtain ⟨rfl, more, rfl⟩ := isPair
          exact ⟨['\r', '\n'], wholeFrom [] more, fun taken _ => by rw [wholeFrom]⟩
        · refine ⟨[character], wholeFrom [] rest, fun taken _ => ?_⟩
          rw [wholeFrom, if_pos ends]
          exact fun more isReturn same => isPair ⟨isReturn, more, same⟩
      · obtain ⟨tail, behind, onward⟩ := ih
        refine ⟨character :: tail, behind, fun taken _ => ?_⟩
        rw [wholeFrom_solid ends, onward _ (List.cons_ne_nil _ _)]
        simp

/-- A place inside a line of a text, between what comes before it and what comes
behind it: the lines before that line, its parts, and the lines behind it.  They do
not depend on what is written there. -/
structure Slot (front rest : Text) where
  before : List Text
  head : Text
  tail : Text
  behind : List Text
  front_eq : front = before.flatten ++ head
  unbroken : ∀ character ∈ head, isTerminator character = false
  wholes : ∀ solid : Text, solid ≠ [] →
    (∀ character ∈ solid, isTerminator character = false) →
    wholeLines (front ++ (solid ++ rest)) =
      before ++ (head ++ (solid ++ tail)) :: behind

theorem Slot.length_front {front rest : Text} (slot : Slot front rest) :
    front.length = slot.before.flatten.length + slot.head.length := by
  rw [← List.length_append, ← slot.front_eq]

theorem nonempty_slot (front rest : Text) : Nonempty (Slot front rest) := by
  obtain ⟨tail, behind, ends⟩ := exists_wholeFrom rest
  suffices general : ∀ taken : Text,
      (∀ character ∈ taken, isTerminator character = false) →
      ∃ before head, taken.reverse ++ front = before.flatten ++ head ∧
        (∀ character ∈ head, isTerminator character = false) ∧
        ∀ solid : Text, solid ≠ [] →
          (∀ character ∈ solid, isTerminator character = false) →
          wholeFrom taken (front ++ (solid ++ rest)) =
            before ++ (head ++ (solid ++ tail)) :: behind by
    obtain ⟨before, head, parts, unbroken, wholes⟩ := general [] (by simp)
    refine ⟨⟨before, head, tail, behind, parts, unbroken, ?_⟩⟩
    simpa only [wholeLines_eq] using wholes
  have here (taken solid : Text) (begun : solid ≠ [])
      (goesOn : ∀ character ∈ solid, isTerminator character = false) :
      wholeFrom taken (solid ++ rest) =
        (taken.reverse ++ (solid ++ tail)) :: behind := by
    rw [wholeFrom_append goesOn, ends _ (by simp [begun])]
    simp
  intro taken unbroken
  -- Line by line through the front, where `taken` is the part of a line so far.
  fun_induction wholeFrom taken front with
  | case1 taken empty =>
      exact ⟨[], taken.reverse, by simp, by simpa using unbroken, here taken⟩
  | case2 taken begun =>
      exact ⟨[], taken.reverse, by simp, by simpa using unbroken, here taken⟩
  | case3 taken front ih =>
      obtain ⟨before, head, parts, solidHead, eq⟩ := ih (by simp)
      refine ⟨(taken.reverse ++ ['\r', '\n']) :: before, head, ?_, solidHead, ?_⟩
      · simpa using parts
      · intro solid begun goesOn
        rw [List.cons_append, List.cons_append, wholeFrom, eq solid begun goesOn]
        rfl
  | case4 taken character front notPair isEnd ih =>
      obtain ⟨before, head, parts, solidHead, eq⟩ := ih (by simp)
      refine ⟨(taken.reverse ++ [character]) :: before, head, ?_, solidHead, ?_⟩
      · simpa using parts
      · intro solid begun goesOn
        rw [List.cons_append, wholeFrom, if_pos isEnd, eq solid begun goesOn]
        · rfl
        · -- A return at the end of the front is no part of a pair, since no newline
          -- comes behind it.
          intro more isReturn same
          cases front with
          | nil =>
              cases solid with
              | nil => exact begun rfl
              | cons first solid =>
                  obtain rfl := (List.cons.inj same).1
                  exact absurd (goesOn _ List.mem_cons_self) (by decide)
          | cons next front =>
              obtain rfl := (List.cons.inj same).1
              exact notPair _ isReturn rfl
  | case5 taken character front notPair goesOn ih =>
      have solidHere : isTerminator character = false := by
        simpa [isTerminator] using goesOn
      obtain ⟨before, head, parts, solidHead, eq⟩ :=
        ih (List.forall_mem_cons.mpr ⟨solidHere, unbroken⟩)
      refine ⟨before, head, by simpa using parts, solidHead, ?_⟩
      intro solid begun unended
      rw [List.cons_append, wholeFrom_solid goesOn, eq solid begun unended]

/-- The more lines of a text there are, the more characters they take up. -/
theorem length_flatten_le {wholes first second : List Text}
    (one : first <+: wholes) (two : second <+: wholes)
    (short : first.length ≤ second.length) :
    first.flatten.length ≤ second.flatten.length := by
  obtain ⟨rest, rfl⟩ := List.prefix_of_prefix_length_le one two short
  rw [List.flatten_append, List.length_append]
  exact Nat.le_add_right _ _

/-- Two ways to cut lines at the line of a character are the same. -/
theorem eq_of_place {first second rest behind : List Text} {whole line : Text}
    (same : first ++ whole :: rest = second ++ line :: behind) {place : Nat}
    (starts : first.flatten.length ≤ place)
    (ends : place < first.flatten.length + whole.length)
    (otherStarts : second.flatten.length ≤ place)
    (otherEnds : place < second.flatten.length + line.length) :
    first = second ∧ whole = line ∧ rest = behind := by
  have firstLine : first ++ [whole] <+: first ++ whole :: rest :=
    ⟨rest, (List.append_cons _ _ _).symm⟩
  have secondLine : second ++ [line] <+: first ++ whole :: rest :=
    ⟨behind, (List.append_cons _ _ _).symm.trans same.symm⟩
  have length : first.length = second.length := by
    by_contra different
    rcases Nat.lt_or_gt_of_ne different with shorter | longer
    · have := length_flatten_le firstLine
        ((List.prefix_append _ _).trans secondLine)
        (by rw [List.length_append]; exact shorter)
      rw [List.flatten_concat, List.length_append] at this
      omega
    · have := length_flatten_le secondLine
        ((List.prefix_append _ _).trans firstLine)
        (by rw [List.length_append]; exact longer)
      rw [List.flatten_concat, List.length_append] at this
      omega
  obtain ⟨rfl, cons⟩ := List.append_inj same length
  exact ⟨rfl, List.cons.inj cons⟩

theorem contentOf_append {solid : Text}
    (unbroken : ∀ character ∈ solid, isTerminator character = false) (tail : Text) :
    contentOf (solid ++ tail) = solid ++ contentOf tail :=
  List.takeWhile_append_of_pos (by simpa using unbroken)

end SourceLine

end AnchorLint
