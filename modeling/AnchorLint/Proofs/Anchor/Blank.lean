import AnchorLint.Anchor.Generate
import AnchorLint.Proofs.Text.Trim

/-!
# Blanks at the edges of texts

Whether a text begins or ends with a blank is decided by its parts, and a text that
does neither is its own trimmed form.
-/

namespace AnchorLint

namespace Anchor

open Text

variable {text front blanks rest : Text}

theorem exists_of_startsBlank (starts : startsBlank text = true) :
    ∃ character rest, Unicode.isBlank character = true ∧
      text = character :: rest := by
  obtain ⟨character, head, isBlank⟩ := (Option.any_eq_true _ _).mp starts
  obtain ⟨rest, rfl⟩ := List.head?_eq_some_iff.mp head
  exact ⟨character, rest, isBlank, rfl⟩

theorem exists_of_endsBlank (ends : endsBlank text = true) :
    ∃ front character, Unicode.isBlank character = true ∧
      text = front ++ [character] := by
  obtain ⟨character, last, isBlank⟩ := (Option.any_eq_true _ _).mp ends
  obtain ⟨front, rfl⟩ := List.getLast?_eq_some_iff.mp last
  exact ⟨front, character, isBlank, rfl⟩

theorem startsBlank_append :
    startsBlank (front ++ rest) =
      if front.isEmpty then startsBlank rest else startsBlank front := by
  cases front <;> rfl

theorem endsBlank_append :
    endsBlank (front ++ rest) =
      if rest.isEmpty then endsBlank front else endsBlank rest := by
  cases rest with
  | nil => simp
  | cons character rest =>
      simp [endsBlank, List.getLast?_append, List.getLast?_cons]

theorem startsBlank_of_append (solid : startsBlank (front ++ rest) = false) :
    startsBlank front = false := by
  rw [startsBlank_append] at solid
  split at solid
  · rename_i empty
    rw [List.isEmpty_iff.mp empty]
    rfl
  · exact solid

theorem endsBlank_of_append (solid : endsBlank (front ++ rest) = false) :
    endsBlank rest = false := by
  rw [endsBlank_append] at solid
  split at solid
  · rename_i empty
    rw [List.isEmpty_iff.mp empty]
    rfl
  · exact solid

theorem endsBlank_append_cons {character : Char}
    (visible : Unicode.isBlank character = false) :
    endsBlank (front ++ character :: rest) = endsBlank rest := by
  rw [endsBlank_append, List.isEmpty_cons, if_neg Bool.false_ne_true,
    ← List.singleton_append, endsBlank_append]
  split
  · rename_i none_
    rw [List.isEmpty_iff.mp none_]
    exact visible
  · rfl

theorem endsBlank_of_isBlank (blank : text.isBlank = true) :
    endsBlank text = !text.isEmpty := by
  rcases List.eq_nil_or_concat text with rfl | ⟨text, character, rfl⟩
  · rfl
  · have last := List.all_eq_true.mp blank character (by simp)
    simp [endsBlank, last]

theorem startsBlank_blanks_append (blank : blanks.isBlank = true)
    (solid : startsBlank rest = false) :
    startsBlank (blanks ++ rest) = !blanks.isEmpty := by
  cases blanks with
  | nil => exact solid
  | cons character blanks =>
      exact List.all_eq_true.mp blank character List.mem_cons_self

theorem endsBlank_append_blanks (blank : blanks.isBlank = true)
    (solid : endsBlank front = false) :
    endsBlank (front ++ blanks) = !blanks.isEmpty := by
  rw [endsBlank_append, endsBlank_of_isBlank blank, solid]
  cases blanks <;> rfl

/-! ## The left edge -/

theorem trimLeft_eq_self (solid : startsBlank text = false) :
    trimLeft text = text := by
  cases text with
  | nil => rfl
  | cons character text =>
      exact List.dropWhile_cons_of_neg (Bool.eq_false_iff.mp solid)

theorem startsBlank_trimLeft (text : Text) :
    startsBlank (trimLeft text) = false := by
  have stops := List.head?_dropWhile_not Unicode.isBlank text
  rw [startsBlank, trimLeft]
  cases found : (text.dropWhile Unicode.isBlank).head? with
  | none => rfl
  | some character =>
      rw [found] at stops
      exact stops

theorem trimLeft_append (solid : endsBlank front = false) (visible : front ≠ []) :
    trimLeft (front ++ rest) = trimLeft front ++ rest := by
  rcases List.eq_nil_or_concat front with rfl | ⟨front, character, rfl⟩
  · exact absurd rfl visible
  · have last : Unicode.isBlank character = false := by
      simpa [endsBlank] using solid
    rw [List.concat_eq_append, List.append_assoc, List.singleton_append,
      trimLeft_append_cons last, trimLeft_append_cons last, List.append_assoc,
      List.singleton_append]

theorem trimLeft_ne_nil (solid : endsBlank text = false) (visible : text ≠ []) :
    trimLeft text ≠ [] := by
  intro gone
  have blank : text.isBlank = true :=
    List.all_eq_true.mpr (List.dropWhile_eq_nil_iff.mp gone)
  rw [endsBlank_of_isBlank blank, List.isEmpty_eq_false_iff.mpr visible] at solid
  exact Bool.noConfusion solid

theorem endsBlank_trimLeft (solid : endsBlank text = false) :
    endsBlank (trimLeft text) = false := by
  obtain ⟨blanks, -, parts⟩ := exists_trimLeft text
  rw [parts] at solid
  exact endsBlank_of_append solid

/-! ## The right edge -/

theorem trimRight_eq_self (solid : endsBlank text = false) :
    trimRight text = text := by
  have reversed : startsBlank text.reverse = false := by
    rwa [startsBlank, List.head?_reverse]
  rw [trimRight, dropEndWhile, ← trimLeft, trimLeft_eq_self reversed,
    List.reverse_reverse]

theorem endsBlank_trimRight (text : Text) :
    endsBlank (trimRight text) = false := by
  have stops := startsBlank_trimLeft text.reverse
  rwa [startsBlank, ← List.getLast?_reverse] at stops

/-- Blanks in front of a visible character stay when the right edge is trimmed. -/
theorem trimRight_append (solid : startsBlank rest = false) (visible : rest ≠ []) :
    trimRight (front ++ rest) = front ++ trimRight rest := by
  obtain ⟨character, rest, rfl⟩ := List.exists_cons_of_ne_nil visible
  rw [trimRight_append_cons solid, trimRight_cons solid]

theorem trimRight_ne_nil (solid : startsBlank text = false) (visible : text ≠ []) :
    trimRight text ≠ [] := by
  obtain ⟨character, text, rfl⟩ := List.exists_cons_of_ne_nil visible
  rw [trimRight_cons solid]
  exact List.cons_ne_nil _ _

theorem startsBlank_trimRight (solid : startsBlank text = false) :
    startsBlank (trimRight text) = false := by
  cases text with
  | nil => rfl
  | cons character text =>
      rw [trimRight_cons solid]
      exact solid

end Anchor

end AnchorLint
