import AnchorLint.Proofs.Anchor.Blank

/-!
# Texts cut at ampersands

A text is cut at its ampersands, each taken with all blanks around it.  The cuts are
the leftmost and longest matches of an ampersand between blanks, one behind the
other, and every text has exactly one such cut.
-/

namespace AnchorLint

namespace Anchor

/-- An ampersand with the blanks before and behind it. -/
structure Joint where
  before : Text
  behind : Text
  blankBefore : before.isBlank = true
  blankBehind : behind.isBlank = true

namespace Joint

def text (joint : Joint) : Text :=
  joint.before ++ '&' :: joint.behind

/-- The joint of a text that stands behind `piece` is its leftmost one, and takes as
many blanks as it can. -/
structure IsFirst (joint : Joint) (text piece rest : Text) : Prop where
  parts : text = piece ++ (joint.text ++ rest)
  leftmost : ∀ (other : Joint) (front back : Text),
    text = front ++ (other.text ++ back) → piece.length ≤ front.length
  longest : ∀ (other : Joint) (back : Text),
    joint.text ++ rest = other.text ++ back →
      other.text.length ≤ joint.text.length

end Joint

/-- A text is cut at its first joint, and what follows is cut likewise.  What is left
are the piece in front and each joint with the piece behind it. -/
inductive Cut : (text piece : Text) → List (Joint × Text) → Prop where
  | whole {text : Text} :
      (∀ (joint : Joint) (front back : Text),
        text ≠ front ++ (joint.text ++ back)) → Cut text text []
  | joint {joint : Joint} {text piece rest next : Text}
      {joints : List (Joint × Text)} :
      joint.IsFirst text piece rest → Cut rest next joints →
      Cut text piece ((joint, next) :: joints)

/-! ## Cuts exist and are unique -/

theorem ampersand_visible : Unicode.isBlank '&' = false := by
  decide

theorem ampersand_not_mem {blanks : Text} (blank : blanks.isBlank = true) :
    '&' ∉ blanks := by
  intro member
  have isBlank := List.all_eq_true.mp blank '&' member
  simp [ampersand_visible] at isBlank

/-- A text can be split in only one way at its first ampersand. -/
theorem append_ampersand_inj {one other rest rest' : Text} (free : '&' ∉ one)
    (free' : '&' ∉ other) (same : one ++ '&' :: rest = other ++ '&' :: rest') :
    one = other ∧ rest = rest' := by
  have upTo {front : Text} (free : '&' ∉ front) (rest : Text) :
      (front ++ '&' :: rest).takeWhile (· != '&') = front := by
    rw [List.takeWhile_append_of_pos]
    · simp
    · intro character member
      exact bne_iff_ne.mpr (ne_of_mem_of_not_mem member free)
  have fronts := congrArg (List.takeWhile (· != '&')) same
  rw [upTo free, upTo free'] at fronts
  subst fronts
  exact ⟨rfl, (List.cons.inj (List.append_cancel_left same)).2⟩

namespace Joint

theorem eq_of_text {one other : Joint} (same : one.text = other.text) :
    one = other := by
  obtain ⟨before, behind⟩ := append_ampersand_inj
    (ampersand_not_mem one.blankBefore) (ampersand_not_mem other.blankBefore)
    same
  cases one
  cases other
  subst before behind
  rfl

/-- A text that begins a text with a joint reaches the ampersand or is blank. -/
theorem isBlank_of_prefix {front back : Text} (joint : Joint) (free : '&' ∉ front)
    (begins : front <+: joint.text ++ back) : front.isBlank = true := by
  rw [Joint.text, List.append_assoc] at begins
  rcases List.prefix_or_prefix_of_prefix begins (List.prefix_append _ _) with
    ⟨rest, inside⟩ | ⟨rest, rfl⟩
  · have blank := joint.blankBefore
    rw [← inside, Text.isBlank_append, Bool.and_eq_true] at blank
    exact blank.1
  · rw [List.prefix_append_right_inj] at begins
    cases rest with
    | nil => simpa using joint.blankBefore
    | cons character rest =>
        obtain rfl := (List.cons_prefix_cons.mp begins).1
        simp at free

theorem IsFirst.free {joint : Joint} {text piece rest : Text}
    (first : joint.IsFirst text piece rest) : '&' ∉ piece := by
  intro member
  obtain ⟨front, back, rfl⟩ := List.append_of_mem member
  have early := first.leftmost ⟨[], [], rfl, rfl⟩ front
    (back ++ (joint.text ++ rest)) (by simp [first.parts, Joint.text])
  rw [List.length_append, List.length_cons] at early
  omega

/-- A blank at the end of the piece would belong to the joint. -/
theorem IsFirst.endsBlank {joint : Joint} {text piece rest : Text}
    (first : joint.IsFirst text piece rest) : endsBlank piece = false := by
  by_contra blank
  obtain ⟨front, character, isBlank, rfl⟩ :=
    exists_of_endsBlank (Bool.not_eq_false _ ▸ blank)
  have early := first.leftmost
    ⟨character :: joint.before, joint.behind,
      by simp [isBlank, joint.blankBefore], joint.blankBehind⟩
    front rest (by simp [first.parts, Joint.text])
  rw [List.length_append, List.length_singleton] at early
  omega

/-- A blank at the start of the rest would belong to the joint. -/
theorem IsFirst.startsBlank {joint : Joint} {text piece rest : Text}
    (first : joint.IsFirst text piece rest) : startsBlank rest = false := by
  by_contra blank
  obtain ⟨character, back, isBlank, rfl⟩ :=
    exists_of_startsBlank (Bool.not_eq_false _ ▸ blank)
  have short := first.longest
    ⟨joint.before, joint.behind ++ [character], joint.blankBefore,
      by simp [isBlank, joint.blankBehind]⟩
    back (by simp [Joint.text])
  simp only [Joint.text, List.length_append, List.length_cons] at short
  omega

/-- No joint begins in a piece without an ampersand and without a blank at its
end. -/
theorem length_le_of_solid {other : Joint} {piece later front back : Text}
    (free : '&' ∉ piece) (solid : endsBlank piece = false)
    (same : piece ++ later = front ++ (other.text ++ back)) :
    piece.length ≤ front.length := by
  rcases List.append_eq_append_iff.mp same with
    ⟨middle, rfl, -⟩ | ⟨middle, rfl, begins⟩
  · rw [List.length_append]
    omega
  · have blank := other.isBlank_of_prefix
      (fun member => free (List.mem_append_right front member))
      ⟨_, begins.symm⟩
    rw [endsBlank_append, endsBlank_of_isBlank blank] at solid
    cases middle with
    | nil => simp
    | cons character middle => simp at solid

theorem length_text_le_of_solid {joint other : Joint} {rest back : Text}
    (solid : startsBlank rest = false)
    (same : joint.text ++ rest = other.text ++ back) :
    other.text.length ≤ joint.text.length := by
  simp only [Joint.text, List.append_assoc, List.cons_append] at same
  obtain ⟨before, behind⟩ := append_ampersand_inj
    (ampersand_not_mem joint.blankBefore)
    (ampersand_not_mem other.blankBefore) same
  have trimmed := congrArg Text.trimLeft behind
  rw [Text.trimLeft_append_of_isBlank joint.blankBehind,
    Text.trimLeft_append_of_isBlank other.blankBehind,
    trimLeft_eq_self solid] at trimmed
  have shorter : rest.length ≤ back.length := by
    rw [trimmed]
    exact (List.dropWhile_sublist _).length_le
  have lengths := congrArg List.length behind
  simp only [Joint.text, List.length_append, List.length_cons, before]
    at lengths ⊢
  omega

/-- The first joint stands at the first ampersand and has taken all blanks on both
sides. -/
theorem isFirst_iff {joint : Joint} {text piece rest : Text} :
    joint.IsFirst text piece rest ↔
      text = piece ++ (joint.text ++ rest) ∧ '&' ∉ piece ∧
        endsBlank piece = false ∧ startsBlank rest = false := by
  constructor
  · intro first
    exact ⟨first.parts, first.free, first.endsBlank, first.startsBlank⟩
  · rintro ⟨rfl, free, solidPiece, solidRest⟩
    exact
      { parts := rfl
        leftmost := fun _ _ _ same => length_le_of_solid free solidPiece same
        longest := fun _ _ same => length_text_le_of_solid solidRest same }

theorem IsFirst.unique {one other : Joint} {text piece piece' rest rest' : Text}
    (first : one.IsFirst text piece rest)
    (first' : other.IsFirst text piece' rest') :
    piece = piece' ∧ one = other ∧ rest = rest' := by
  have same := first.parts.symm.trans first'.parts
  have lengths := Nat.le_antisymm
    (first.leftmost other piece' rest' first'.parts)
    (first'.leftmost one piece rest first.parts)
  obtain ⟨rfl, behind⟩ := List.append_inj same lengths
  have taken := Nat.le_antisymm (first'.longest one rest behind.symm)
    (first.longest other rest' behind)
  obtain ⟨texts, rfl⟩ := List.append_inj behind taken
  exact ⟨rfl, eq_of_text texts, rfl⟩

theorem exists_isFirst {text : Text} (member : '&' ∈ text) :
    ∃ (joint : Joint) (piece rest : Text), joint.IsFirst text piece rest := by
  obtain ⟨front, back, rfl, free⟩ := List.eq_append_cons_of_mem member
  obtain ⟨before, blankBefore, frontEq⟩ := Text.exists_trimRight front
  obtain ⟨behind, blankBehind, backEq⟩ := Text.exists_trimLeft back
  refine ⟨⟨before, behind, blankBefore, blankBehind⟩, Text.trimRight front,
    Text.trimLeft back, isFirst_iff.mpr ⟨?_, ?_, endsBlank_trimRight front,
      startsBlank_trimLeft back⟩⟩
  · rw [Joint.text, List.append_assoc, List.cons_append, ← backEq,
      ← List.append_assoc, ← frontEq]
  · intro inside
    exact free (frontEq ▸ List.mem_append_left before inside)

theorem ampersand_mem_text (joint : Joint) : '&' ∈ joint.text := by
  simp [Joint.text]

end Joint

theorem ampersand_mem_iff {text : Text} :
    (∀ (joint : Joint) (front back : Text),
      text ≠ front ++ (joint.text ++ back)) ↔ '&' ∉ text := by
  constructor
  · intro none_ member
    obtain ⟨joint, piece, rest, first⟩ := Joint.exists_isFirst member
    exact none_ joint piece rest first.parts
  · rintro free joint front back rfl
    exact free (by simp [joint.ampersand_mem_text])

theorem exists_cut (text : Text) : ∃ piece joints, Cut text piece joints := by
  induction counted : text.length using Nat.strongRecOn generalizing text with
  | ind count ih =>
      by_cases member : '&' ∈ text
      · obtain ⟨joint, piece, rest, first⟩ := Joint.exists_isFirst member
        have shorter : rest.length < count := by
          have lengths := congrArg List.length first.parts
          simp only [Joint.text, List.length_append, List.length_cons]
            at lengths
          omega
        obtain ⟨next, joints, cut⟩ := ih rest.length shorter rest rfl
        exact ⟨piece, (joint, next) :: joints, .joint first cut⟩
      · exact ⟨text, [], .whole (ampersand_mem_iff.mpr member)⟩

theorem Cut.unique {text piece piece' : Text} {joints joints' : List (Joint × Text)}
    (cut : Cut text piece joints) (cut' : Cut text piece' joints') :
    piece = piece' ∧ joints = joints' := by
  induction cut generalizing piece' joints' with
  | whole none_ =>
      cases cut' with
      | whole => exact ⟨rfl, rfl⟩
      | joint first => exact absurd first.parts (none_ _ _ _)
  | joint first _ ih =>
      cases cut' with
      | whole none_ => exact absurd first.parts (none_ _ _ _)
      | joint first' later =>
          obtain ⟨rfl, rfl, rfl⟩ := first.unique first'
          obtain ⟨rfl, rfl⟩ := ih later
          exact ⟨rfl, rfl⟩

end Anchor

end AnchorLint
