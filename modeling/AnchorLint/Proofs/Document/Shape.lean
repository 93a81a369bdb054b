import AnchorLint.Document.Comment
import AnchorLint.Proofs.Document.Fence
import Mathlib.Data.List.TakeWhile

/-!
# Lines with a comment

What kind of line a line with a comment is does not depend on what stands behind the
opener of the comment.  Quote marks, hash signs, list markers and indentation all end
before the opener.  A line that has to consist of one kind of mark, such as an
underline or a closing fence, cannot have a comment.
-/

namespace AnchorLint

namespace Comment

section

variable {keep : Char → Bool} (stops : keep '<' = false) (head rest : Text)

include stops

theorem takeWhile_append_opener :
    (head ++ (opener ++ rest)).takeWhile keep = head.takeWhile keep := by
  rw [List.takeWhile_append]
  split
  · rename_i whole
    have all : head.takeWhile keep = head :=
      (List.takeWhile_prefix keep).eq_of_length whole
    rw [all, opener, List.cons_append, List.takeWhile_cons_of_neg (by simp [stops]),
      List.append_nil]
  · rfl

theorem dropWhile_append_opener :
    (head ++ (opener ++ rest)).dropWhile keep =
      head.dropWhile keep ++ (opener ++ rest) := by
  have parts := @List.takeWhile_append_dropWhile _ keep (head ++ (opener ++ rest))
  rw [takeWhile_append_opener stops] at parts
  have headParts := @List.takeWhile_append_dropWhile _ keep head
  conv at parts => rhs; rw [← headParts, List.append_assoc]
  exact List.append_cancel_left parts

end

theorem drop_append_opener (keep : Char → Bool) (head rest : Text) :
    (head ++ (opener ++ rest)).drop (head.takeWhile keep).length =
      head.drop (head.takeWhile keep).length ++ (opener ++ rest) :=
  List.drop_append_of_le_length (List.takeWhile_sublist keep).length_le

end Comment

theorem Text.mem_dropEndWhile {drop : Char → Bool} {character : Char}
    (stays : drop character = false) {text : Text} (member : character ∈ text) :
    character ∈ dropEndWhile drop text := by
  rw [dropEndWhile, List.mem_reverse]
  have parts := @List.takeWhile_append_dropWhile _ drop text.reverse
  rw [← List.mem_reverse, ← parts, List.mem_append] at member
  refine member.resolve_left fun dropped => ?_
  simp [List.mem_takeWhile_imp dropped] at stays

namespace Block

open Comment

variable (head rest other : Text)

/-! ## Quote marks and indentation -/

theorem indentFrom_of_not_isIndent {character : Char}
    (solid : isIndent character = false) (column : Nat) (text : Text) :
    indentFrom column (character :: text) = column := by
  simp only [isIndent, Bool.or_eq_false_iff, beq_eq_false_iff_ne] at solid
  rw [indentFrom]
  · exact fun _ same => absurd (List.cons.inj same).1 solid.1
  · exact fun _ same => absurd (List.cons.inj same).1 solid.2

theorem indentWidth_opener :
    indentWidth (head ++ (opener ++ rest)) = indentWidth head := by
  have from_ (column : Nat) : indentFrom column (head ++ (opener ++ rest)) =
      indentFrom column head := by
    induction head generalizing column with
    | nil => rfl
    | cons character head ih =>
        cases solid : isIndent character with
        | false =>
            rw [List.cons_append, indentFrom_of_not_isIndent solid,
              indentFrom_of_not_isIndent solid]
        | true =>
            simp only [isIndent, Bool.or_eq_true, beq_iff_eq] at solid
            rcases solid with rfl | rfl
            · exact ih _
            · exact ih _
  exact from_ 0

theorem unindent?_opener :
    unindent? (head ++ (opener ++ rest)) =
      (unindent? head).map (· ++ (opener ++ rest)) := by
  unfold unindent?
  dsimp only
  rw [takeWhile_append_opener (by decide), drop_append_opener]
  split <;> rfl

theorem afterQuoteMark?_opener :
    afterQuoteMark? (head ++ (opener ++ rest)) =
      (afterQuoteMark? head).map (· ++ (opener ++ rest)) := by
  unfold afterQuoteMark?
  dsimp only
  rw [takeWhile_append_opener (by decide), drop_append_opener]
  split
  · rfl
  · generalize head.drop (head.takeWhile isIndent).length = behind
    cases behind with
    | nil => rfl
    | cons character more =>
        by_cases mark : character = '>'
        · subst mark
          cases more with
          | nil => rfl
          | cons next more =>
              simp only [List.cons_append]
              split <;> rfl
        · simp [mark]

theorem stripQuoteMarks_opener (steps : Nat) :
    stripQuoteMarks steps (head ++ (opener ++ rest)) =
      stripQuoteMarks steps head ++ (opener ++ rest) := by
  induction steps generalizing head with
  | zero => rfl
  | succ steps ih =>
      rw [stripQuoteMarks, stripQuoteMarks, afterQuoteMark?_opener]
      cases afterQuoteMark? head with
      | none => rfl
      | some after => exact ih after

/-- Quote marks before a comment are taken off whatever the comment holds. -/
theorem exists_body_opener {rest other : Text}
    (length : other.length = rest.length) :
    ∃ start, body (head ++ (opener ++ rest)) = start ++ (opener ++ rest) ∧
      body (head ++ (opener ++ other)) = start ++ (opener ++ other) := by
  have sameLength : (head ++ (opener ++ other)).length =
      (head ++ (opener ++ rest)).length := by
    simp [length]
  refine ⟨stripQuoteMarks (head ++ (opener ++ rest)).length head, ?_, ?_⟩
  · rw [body, stripQuoteMarks_opener]
  · rw [body, stripQuoteMarks_opener, sameLength]

/-! ## Kinds of lines -/

theorem endsOrIndents_opener :
    endsOrIndents (head ++ (opener ++ other)) =
      endsOrIndents (head ++ (opener ++ rest)) := by
  cases head <;> rfl

theorem isSome_atx?_opener :
    (atx? (head ++ (opener ++ other))).isSome =
      (atx? (head ++ (opener ++ rest))).isSome := by
  unfold atx?
  rw [unindent?_opener, unindent?_opener]
  cases unindent? head with
  | none => rfl
  | some text =>
      simp only [Option.map_some, Option.bind_eq_bind, Option.bind_some]
      rw [takeWhile_append_opener (by decide), takeWhile_append_opener (by decide),
        drop_append_opener, drop_append_opener,
        endsOrIndents_opener _ rest other]
      split <;> rfl

theorem isListItem_opener :
    isListItem (head ++ (opener ++ other)) =
      isListItem (head ++ (opener ++ rest)) := by
  unfold isListItem
  dsimp only
  rw [dropWhile_append_opener (by decide), dropWhile_append_opener (by decide)]
  cases head.dropWhile isIndent with
  | nil => rfl
  | cons first text =>
      simp only [List.cons_append]
      rw [endsOrIndents_opener _ rest other]
      split
      · rfl
      · have digits (rest : Text) := @takeWhile_append_opener Unicode.isDigit
          (by decide) (first :: text) rest
        have behind (rest : Text) :=
          drop_append_opener Unicode.isDigit (first :: text) rest
        simp only [List.cons_append] at digits behind
        simp only [digits, behind]
        cases (first :: text).drop
            ((first :: text).takeWhile Unicode.isDigit).length with
        | nil => rfl
        | cons mark text =>
            simp only [List.cons_append]
            rw [endsOrIndents_opener _ rest other]

theorem isHtmlBlock_opener :
    isHtmlBlock (head ++ (opener ++ other)) =
      isHtmlBlock (head ++ (opener ++ rest)) := by
  unfold isHtmlBlock
  rw [unindent?_opener, unindent?_opener]
  cases unindent? head with
  | none => rfl
  | some text =>
      cases text with
      | nil => rfl
      | cons first text =>
          by_cases tag : first = '<'
          · subst tag
            cases text <;> rfl
          · simp [tag]

theorem isThematicBreak_opener :
    isThematicBreak (head ++ (opener ++ rest)) = false := by
  unfold isThematicBreak
  rw [unindent?_opener]
  cases unindent? head with
  | none => rfl
  | some text =>
      cases text with
      | nil => rfl
      | cons mark text =>
          have inside : '<' ∈ text ++ (opener ++ rest) := by simp [opener]
          simp only [Option.map_some, List.cons_append, Bool.and_eq_false_iff]
          by_cases same : mark = '<'
          · exact Or.inl (Or.inl (by rw [same]; decide))
          · refine Or.inl (Or.inr (List.all_eq_false.mpr ⟨'<', inside, ?_⟩))
            simp [isIndent, Ne.symm same]

theorem underline?_opener : underline? (head ++ (opener ++ rest)) = none := by
  unfold underline?
  rw [unindent?_opener]
  cases unindent? head with
  | none => rfl
  | some text =>
      simp only [Option.map_some, Option.bind_eq_bind, Option.bind_some]
      have inside : '<' ∈ Text.dropEndWhile isIndent
          (text ++ (opener ++ rest)) :=
        Text.mem_dropEndWhile (by decide) (by simp [opener])
      have mixed {mark : Char} {later : Text} (other : '<' ≠ mark)
          (same : Text.dropEndWhile isIndent (text ++ (opener ++ rest)) =
            mark :: later) : ¬ later.all (· == mark) = true := by
        intro all
        rw [same] at inside
        have member := (List.mem_cons.mp inside).resolve_left other
        exact other (beq_iff_eq.mp (List.all_eq_true.mp all '<' member))
      split
      · rename_i later same
        exact if_neg (mixed (by decide) same)
      · rename_i later same
        exact if_neg (mixed (by decide) same)
      · rfl

/-- A fence on the line of a comment has an info text and closes nothing. -/
theorem isBare_opener {fence : Fence}
    (parsed : Fence.parse? (head ++ (opener ++ rest)) = some fence) :
    fence.isBare = false := by
  unfold Fence.parse? at parsed
  dsimp only at parsed
  rw [dropWhile_append_opener (by decide)] at parsed
  generalize head.dropWhile isIndent = text at parsed
  split at parsed
  · rename_i first later same
    split at parsed
    · rename_i mark
      have stops : ('<' == first) = false := by
        rcases mark with rfl | rfl <;> decide
      rw [takeWhile_append_opener stops] at parsed
      split at parsed
      · cases parsed
      · obtain rfl := Option.some.inj parsed
        refine List.all_eq_false.mpr ⟨'<', ?_, by decide⟩
        dsimp only
        rw [drop_append_opener]
        simp [opener]
    · cases parsed
  · cases parsed

theorem Closers.withLine_opener (closers : Closers) :
    closers.withLine (head ++ (opener ++ rest)) = closers := by
  unfold withLine
  split
  · rename_i fence parsed
    rw [isBare_opener head rest parsed]
    rfl
  · rfl

end Block

end AnchorLint
