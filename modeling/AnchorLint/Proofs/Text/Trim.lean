import AnchorLint.Text.Basic
import Mathlib.Data.List.TakeWhile

/-!
# Trimming

Trimming takes the blanks at an edge of a text, and no others: a character that is
no blank stays, and so does all that lies behind it.
-/

namespace AnchorLint

namespace Text

variable {front blanks rest : Text}

@[simp]
theorem isBlank_nil : isBlank [] = true :=
  rfl

@[simp]
theorem isBlank_cons {character : Char} :
    isBlank (character :: rest) =
      (Unicode.isBlank character && isBlank rest) :=
  rfl

@[simp]
theorem isBlank_append :
    isBlank (front ++ rest) = (isBlank front && isBlank rest) :=
  List.all_append

theorem mem_of_mem_trim {text : Text} {character : Char}
    (member : character ∈ Text.trim text) : character ∈ text := by
  unfold trim trimRight dropEndWhile trimLeft at member
  have kept := (List.dropWhile_sublist _).subset (List.mem_reverse.mp member)
  exact (List.dropWhile_sublist _).subset (List.mem_reverse.mp kept)

/-! ## The left edge -/

theorem trimLeft_append_of_isBlank (blank : blanks.isBlank = true) :
    trimLeft (blanks ++ rest) = trimLeft rest :=
  List.dropWhile_append_of_pos (List.all_eq_true.mp blank)

theorem trimLeft_of_isBlank (blank : blanks.isBlank = true) :
    trimLeft blanks = [] :=
  List.dropWhile_eq_nil_iff.mpr (List.all_eq_true.mp blank)

theorem trimLeft_append_cons {character : Char}
    (visible : Unicode.isBlank character = false) :
    trimLeft (front ++ character :: rest) =
      trimLeft front ++ character :: rest := by
  rw [trimLeft, List.dropWhile_append]
  split
  · rename_i none_
    rw [trimLeft, List.isEmpty_iff.mp none_, List.nil_append,
      List.dropWhile_cons_of_neg (Bool.eq_false_iff.mp visible)]
  · rfl

theorem exists_trimLeft (text : Text) :
    ∃ blanks : Text, blanks.isBlank = true ∧ text = blanks ++ trimLeft text :=
  ⟨text.takeWhile Unicode.isBlank, List.all_takeWhile,
    List.takeWhile_append_dropWhile.symm⟩

/-! ## The right edge -/

theorem trimRight_append_of_isBlank (blank : blanks.isBlank = true) :
    trimRight (front ++ blanks) = trimRight front := by
  rw [trimRight, dropEndWhile, List.reverse_append, List.dropWhile_append_of_pos]
  · rfl
  · intro character member
    exact List.all_eq_true.mp blank character (List.mem_reverse.mp member)

theorem trimRight_of_isBlank (blank : blanks.isBlank = true) :
    trimRight blanks = [] :=
  @trimRight_append_of_isBlank [] blanks blank

theorem trimRight_append_cons {character : Char}
    (visible : Unicode.isBlank character = false) :
    trimRight (front ++ character :: rest) =
      front ++ character :: trimRight rest := by
  rw [trimRight, dropEndWhile, List.reverse_append, List.reverse_cons,
    List.append_assoc, List.dropWhile_append]
  split
  · rename_i none_
    have gone : trimRight rest = [] := by
      simpa [trimRight, dropEndWhile] using none_
    simp [visible, gone]
  · simp [trimRight, dropEndWhile]

theorem trimRight_cons {character : Char}
    (visible : Unicode.isBlank character = false) :
    trimRight (character :: rest) = character :: trimRight rest :=
  @trimRight_append_cons [] rest character visible

theorem exists_trimRight (text : Text) :
    ∃ blanks : Text, blanks.isBlank = true ∧ text = trimRight text ++ blanks := by
  obtain ⟨blanks, blank, parts⟩ := exists_trimLeft text.reverse
  refine ⟨blanks.reverse, by rwa [isBlank, List.all_reverse], ?_⟩
  have whole := congrArg List.reverse parts
  rwa [List.reverse_reverse, List.reverse_append] at whole

end Text

end AnchorLint
