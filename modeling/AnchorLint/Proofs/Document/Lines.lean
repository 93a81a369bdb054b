import AnchorLint.Document.Line
import AnchorLint.Proofs.Text.Find
import Mathlib.Data.List.TakeWhile

/-!
# The lines of a text

Every line is kept with its terminator, so a text is the concatenation of its
whole lines, and the spans and contents of the lines follow from the whole lines
alone: each one begins where the one before it ends.
-/

namespace AnchorLint

namespace SourceLine

def whole (text : Text) (line : SourceLine) : Text :=
  text.slice line.span.start line.span.stop

def wholeLines (text : Text) : List Text :=
  (split text).map (whole text)

/-- The whole lines of a text, where `taken` holds the characters of the current
line so far, last first. -/
def wholeFrom : (taken : Text) → Text → List Text
  | taken, [] => if taken.isEmpty then [] else [taken.reverse]
  | taken, '\r' :: '\n' :: rest =>
    (taken.reverse ++ ['\r', '\n']) :: wholeFrom [] rest
  | taken, character :: rest =>
    if character = '\r' ∨ character = '\n' then
      (taken.reverse ++ [character]) :: wholeFrom [] rest
    else wholeFrom (character :: taken) rest

def isTerminator (character : Char) : Bool :=
  character == '\r' || character == '\n'

def contentOf (whole : Text) : Text :=
  whole.takeWhile fun character => !isTerminator character

theorem isTerminator_of_mem_contentOf {whole : Text} {character : Char}
    (member : character ∈ contentOf whole) : isTerminator character = false := by
  simpa using List.mem_takeWhile_imp member

def ofWhole (offset : Nat) (whole : Text) : SourceLine :=
  ⟨⟨offset, offset + whole.length⟩, contentOf whole⟩

/-- The lines that whole lines make one after the other. -/
def placeFrom : (offset : Nat) → List Text → List SourceLine
  | _, [] => []
  | offset, whole :: rest =>
    ofWhole offset whole :: placeFrom (offset + whole.length) rest

@[simp]
theorem length_placeFrom (offset : Nat) (wholes : List Text) :
    (placeFrom offset wholes).length = wholes.length := by
  induction wholes generalizing offset with
  | nil => rfl
  | cons whole rest ih => simp [placeFrom, ih]

theorem placeFrom_append (offset : Nat) (first second : List Text) :
    placeFrom offset (first ++ second) =
      placeFrom offset first ++ placeFrom (offset + first.flatten.length) second := by
  induction first generalizing offset with
  | nil => simp [placeFrom]
  | cons whole rest ih => simp [placeFrom, ih, Nat.add_assoc]

theorem flatten_wholeFrom (taken text : Text) :
    (wholeFrom taken text).flatten = taken.reverse ++ text := by
  fun_induction wholeFrom taken text with
  | case1 taken empty => simp [List.isEmpty_iff.mp empty]
  | case2 taken full => simp
  | case3 taken rest ih => simp [ih]
  | case4 taken character rest _ ends ih => simp [ih]
  | case5 taken character rest _ goesOn ih => simp [ih]

theorem contentOf_reverse_append {taken : Text}
    (within : ∀ character ∈ taken, isTerminator character = false)
    (ending : Text) (ends : ending.all isTerminator = true) :
    contentOf (taken.reverse ++ ending) = taken.reverse := by
  rw [contentOf, List.takeWhile_append_of_pos (by simpa using within)]
  cases ending with
  | nil => simp
  | cons character rest =>
      simp only [List.all_cons, Bool.and_eq_true] at ends
      simp [ends.1]

theorem splitFrom_eq_placeFrom {taken : Text} (text : Text) (start : Nat)
    (within : ∀ character ∈ taken, isTerminator character = false) :
    splitFrom start (start + taken.length) taken text =
      placeFrom start (wholeFrom taken text) := by
  fun_induction wholeFrom taken text generalizing start with
  | case1 taken empty => simp [splitFrom, empty, placeFrom]
  | case2 taken full =>
      have content := contentOf_reverse_append within [] rfl
      rw [List.append_nil] at content
      simp [splitFrom, full, placeFrom, ofWhole, content]
  | case3 taken rest ih =>
      have content := contentOf_reverse_append within ['\r', '\n'] (by decide)
      have later := ih (start + taken.length + 2) (by simp)
      rw [splitFrom, placeFrom, ofWhole, content]
      simpa [Nat.add_assoc] using later
  | case4 taken character rest notPair ends ih =>
      have content := contentOf_reverse_append within [character]
        (by simpa [isTerminator] using ends)
      have later := ih (start + taken.length + 1) (by simp)
      rw [splitFrom, if_pos ends, placeFrom, ofWhole, content]
      · simpa [Nat.add_assoc] using later
      · exact notPair
  | case5 taken character rest notPair goesOn ih =>
      have plain : isTerminator character = false := by
        simpa [isTerminator] using goesOn
      have later := ih start (List.forall_mem_cons.mpr ⟨plain, within⟩)
      rw [splitFrom, if_neg goesOn]
      · simpa [Nat.add_assoc] using later
      · exact notPair

theorem map_whole_placeFrom (before : Text) (wholes : List Text) (behind : Text) :
    (placeFrom before.length wholes).map
      (whole (before ++ (wholes.flatten ++ behind))) = wholes := by
  induction wholes generalizing before with
  | nil => rfl
  | cons first rest ih =>
      have later := ih (before ++ first)
      simp only [List.length_append, List.append_assoc] at later
      simp only [placeFrom, List.map_cons, List.flatten_cons, List.append_assoc,
        later, whole, ofWhole, Text.slice]
      simp

theorem split_eq (text : Text) :
    split text = placeFrom 0 (wholeFrom [] text) :=
  @splitFrom_eq_placeFrom [] text 0 (by simp)

theorem wholeLines_eq (text : Text) : wholeLines text = wholeFrom [] text := by
  have wholes := map_whole_placeFrom [] (wholeFrom [] text) []
  rw [flatten_wholeFrom] at wholes
  simp only [List.reverse_nil, List.nil_append, List.append_nil,
    List.length_nil] at wholes
  rw [wholeLines, split_eq]
  exact wholes

theorem flatten_wholeLines (text : Text) : (wholeLines text).flatten = text := by
  rw [wholeLines_eq]
  exact flatten_wholeFrom [] text

theorem split_eq_placeFrom (text : Text) :
    split text = placeFrom 0 (wholeLines text) := by
  rw [wholeLines_eq]
  exact split_eq text

/-! ## Words on a line -/

def endingOf (whole : Text) : Text :=
  whole.dropWhile fun character => !isTerminator character

theorem contentOf_append_endingOf (whole : Text) :
    contentOf whole ++ endingOf whole = whole :=
  List.takeWhile_append_dropWhile

theorem endingOf_reverse_append {taken : Text}
    (within : ∀ character ∈ taken, isTerminator character = false)
    (ending : Text) (ends : ending.all isTerminator = true) :
    endingOf (taken.reverse ++ ending) = ending := by
  have parts := contentOf_append_endingOf (taken.reverse ++ ending)
  rw [contentOf_reverse_append within ending ends] at parts
  exact List.append_cancel_left parts

/-- Nothing but terminators ends a line, and every line but the last one has an
end. -/
theorem endings_wholeFrom {taken : Text} (text : Text)
    (within : ∀ character ∈ taken, isTerminator character = false) :
    (∀ whole ∈ wholeFrom taken text,
      (endingOf whole).all isTerminator = true) ∧
    (wholeFrom taken text).Pairwise fun whole _ => endingOf whole ≠ [] := by
  fun_induction wholeFrom taken text with
  | case1 taken empty => simp
  | case2 taken full =>
      have ending := endingOf_reverse_append within [] rfl
      rw [List.append_nil] at ending
      simp [ending]
  | case3 taken rest ih =>
      have ending := endingOf_reverse_append within ['\r', '\n'] (by decide)
      obtain ⟨all, ends⟩ := ih (by simp)
      refine ⟨List.forall_mem_cons.mpr ⟨?_, all⟩, List.pairwise_cons.mpr
        ⟨fun _ _ => ?_, ends⟩⟩
      · rw [ending]
        decide
      · rw [ending]
        decide
  | case4 taken character rest _ terminates ih =>
      have isEnd : [character].all isTerminator = true := by
        simpa [isTerminator] using terminates
      have ending := endingOf_reverse_append within [character] isEnd
      obtain ⟨all, ends⟩ := ih (by simp)
      refine ⟨List.forall_mem_cons.mpr ⟨?_, all⟩, List.pairwise_cons.mpr
        ⟨fun _ _ => ?_, ends⟩⟩
      · rw [ending]
        exact isEnd
      · rw [ending]
        exact List.cons_ne_nil _ _
  | case5 taken character rest _ goesOn ih =>
      have plain : isTerminator character = false := by
        simpa [isTerminator] using goesOn
      exact ih (List.forall_mem_cons.mpr ⟨plain, within⟩)

theorem endings_wholeLines (text : Text) :
    (∀ whole ∈ wholeLines text,
      (endingOf whole).all isTerminator = true) ∧
    (wholeLines text).Pairwise fun whole _ => endingOf whole ≠ [] := by
  rw [wholeLines_eq]
  exact endings_wholeFrom text (by simp)

section

variable {word : Text} (proper : word ≠ [])
  (unbroken : ∀ character ∈ word, isTerminator character = false)

include proper unbroken

theorem infix_of_infix_endings {ending rest : Text}
    (ends : ending.all isTerminator = true) (found : word <:+: ending ++ rest) :
    word <:+: rest := by
  induction ending with
  | nil => exact found
  | cons character ending ih =>
      simp only [List.all_cons, Bool.and_eq_true] at ends
      have notIn : character ∉ word := by
        intro member
        simp [unbroken character member] at ends
      rcases @Text.infix_append_cons word [] (ending ++ rest) character notIn
          found with inNothing | later
      · exact absurd (List.infix_nil.mp inNothing) proper
      · exact ih ends.2 later

/-- A word on a line and the lines behind it occurs on one of them: no word goes
on from one line to the next. -/
theorem infix_of_infix_line {content ending rest : Text}
    (ends : ending.all isTerminator = true) (last : ending = [] → rest = [])
    (found : word <:+: content ++ (ending ++ rest)) :
    word <:+: content ∨ word <:+: rest := by
  cases ending with
  | nil =>
      rw [last rfl, List.append_nil, List.append_nil] at found
      exact Or.inl found
  | cons character ending =>
      simp only [List.all_cons, Bool.and_eq_true] at ends
      have notIn : character ∉ word := by
        intro member
        simp [unbroken character member] at ends
      rcases Text.infix_append_cons notIn found with here | later
      · exact Or.inl here
      · exact Or.inr (infix_of_infix_endings proper unbroken ends.2 later)

theorem exists_line_of_infix {wholes : List Text}
    (all : ∀ whole ∈ wholes, (endingOf whole).all isTerminator = true)
    (ends : wholes.Pairwise fun whole _ => endingOf whole ≠ [])
    (found : word <:+: wholes.flatten) :
    ∃ whole ∈ wholes, word <:+: contentOf whole := by
  induction wholes with
  | nil => exact absurd (List.infix_nil.mp found) proper
  | cons whole wholes ih =>
      obtain ⟨allHere, allLater⟩ := List.forall_mem_cons.mp all
      obtain ⟨endsHere, endsLater⟩ := List.pairwise_cons.mp ends
      rw [List.flatten_cons, ← contentOf_append_endingOf whole,
        List.append_assoc] at found
      have last : endingOf whole = [] → wholes.flatten = [] := by
        intro none_
        cases wholes with
        | nil => rfl
        | cons next wholes => exact absurd none_ (endsHere next (by simp))
      rcases infix_of_infix_line proper unbroken allHere last found with
        here | later
      · exact ⟨whole, by simp, here⟩
      · obtain ⟨other, member, inside⟩ := ih allLater endsLater later
        exact ⟨other, List.mem_cons_of_mem _ member, inside⟩

end

end SourceLine

end AnchorLint
