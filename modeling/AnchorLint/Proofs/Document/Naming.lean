import AnchorLint.Proofs.Document.Assembly
import AnchorLint.Proofs.Text.Digits
import Mathlib.Data.List.Nodup
import Mathlib.Data.List.Perm.Subperm
import Mathlib.Order.Bounds.Basic

/-!
# Names of headings

Headings whose texts yield the same anchor are told apart by numbers.  A plain
rule says which: the least number with which the anchor has not been given yet.
The naming of a document does not look for it from one on; it goes on behind the
last number that it has given to the same text.  This file shows that it finds the
same number, because all smaller ones stay taken, that the search always ends, and
that no two headings share an anchor.
-/

namespace AnchorLint

namespace Document

/-- The plain rule for the name of a heading whose text yields `base`, where
`given` are the names so far. -/
inductive NextName (given : List Text) : (base name : Text) → Prop where
  | empty : NextName given [] []
  | free {base : Text} : base ≠ [] → base ∉ given → NextName given base base
  | numbered {base : Text} {number : Nat} : base ≠ [] → base ∈ given →
      IsLeast {number | 1 ≤ number ∧ numbered base number ∉ given} number →
      NextName given base (numbered base number)

/-- Names given one after another by the plain rule. -/
inductive NamedAfter : (given bases names : List Text) → Prop where
  | nil {given : List Text} : NamedAfter given [] []
  | cons {given bases names : List Text} {base name : Text} :
      NextName given base name → NamedAfter (given ++ [name]) bases names →
      NamedAfter given (base :: bases) (name :: names)

theorem NextName.not_mem {given : List Text} {base name : Text}
    (next : NextName given base name) (visible : name ≠ []) : name ∉ given := by
  cases next with
  | empty => exact absurd rfl visible
  | free _ missing => exact missing
  | numbered _ _ least => exact least.1.2

theorem NamedAfter.nodup {given bases names : List Text}
    (named : NamedAfter given bases names)
    (nodup : (given.filter (· ≠ [])).Nodup) :
    ((given ++ names).filter (· ≠ [])).Nodup := by
  induction named with
  | nil => simpa using nodup
  | @cons given bases names base name next _ ih =>
      rw [List.append_cons]
      apply ih
      rw [List.filter_append]
      by_cases visible : name = []
      · simpa [visible] using nodup
      · have missing := next.not_mem visible
        refine nodup.append (List.Nodup.filter _ (List.nodup_singleton name)) ?_
        simp [missing, visible]

/-! ## The search for a number -/

theorem numbered_injective (base : Text) :
    Function.Injective (numbered base) := by
  intro one other same
  have digits : Text.ofNat one = Text.ofNat other :=
    (List.cons.inj (List.append_cancel_left same)).2
  rw [← Text.digitsValue_ofNat one, digits, Text.digitsValue_ofNat]

theorem numbered_ne_nil (base : Text) (number : Nat) :
    numbered base number ≠ [] := by
  simp [numbered]

/-- Of more numbers than there are used names, one is free. -/
theorem exists_free (used : List Text) (base : Text) (start : Nat) :
    ∃ count ≤ used.length, numbered base (start + count) ∉ used := by
  by_contra taken
  push Not at taken
  let names := (List.range (used.length + 1)).map fun count =>
    numbered base (start + count)
  have distinct : names.Nodup := by
    apply List.nodup_range.map
    intro one other same
    exact Nat.add_left_cancel (numbered_injective base same)
  have within : names ⊆ used := by
    intro name member
    obtain ⟨count, inRange, rfl⟩ := List.mem_map.mp member
    rw [List.mem_range] at inRange
    exact taken count (by omega)
  have short := (distinct.subperm within).length_le
  simp [names] at short

theorem isLeast_freeNumber_of_reached {used : List Text} {base : Text}
    {steps start : Nat}
    (reached : ∃ count ≤ steps, numbered base (start + count) ∉ used) :
    IsLeast {number | start ≤ number ∧ numbered base number ∉ used}
      (freeNumber used base steps start) := by
  induction steps generalizing start with
  | zero =>
      obtain ⟨count, none_, isFree⟩ := reached
      obtain rfl := Nat.le_zero.mp none_
      exact ⟨⟨Nat.le_refl _, isFree⟩, fun number later => later.1⟩
  | succ steps ih =>
      rw [freeNumber]
      split
      · rename_i taken
        have taken : numbered base start ∈ used := by simpa using taken
        obtain ⟨count, short, isFree⟩ := reached
        cases count with
        | zero => exact absurd taken isFree
        | succ count =>
            obtain ⟨⟨behind, freeHere⟩, least⟩ := @ih (start + 1)
              ⟨count, by omega, by rwa [Nat.add_right_comm, Nat.add_assoc]⟩
            refine ⟨⟨by omega, freeHere⟩, ?_⟩
            rintro number ⟨atLeast, freeThere⟩
            apply least
            refine ⟨Nat.lt_of_le_of_ne atLeast ?_, freeThere⟩
            rintro rfl
            exact freeThere taken
      · rename_i isFree
        exact ⟨⟨Nat.le_refl _, by simpa using isFree⟩,
          fun number later => later.1⟩

/-- As many steps as there are used names lead to the first free number. -/
theorem isLeast_freeNumber (used : List Text) (base : Text) (start : Nat) :
    IsLeast {number | start ≤ number ∧ numbered base number ∉ used}
      (freeNumber used base used.length start) :=
  isLeast_freeNumber_of_reached (exists_free used base start)

/-! ## The naming of a document -/

/-- Whether a naming knows the names that have been given, and has given all
numbers up to the last one of each text. -/
structure Naming.Records (naming : Naming) (given : List Text) : Prop where
  used : ∀ name, name ∈ naming.used ↔ name ≠ [] ∧ name ∈ given
  numbers : ∀ base number, 1 ≤ number →
    number ≤ (naming.numbers.lookup base).getD 0 →
    numbered base number ∈ naming.used

namespace Naming.Records

variable {naming : Naming} {given : List Text}

theorem mem_used_iff (records : naming.Records given) {base : Text}
    (visible : base ≠ []) : base ∈ naming.used ↔ base ∈ given := by
  simp [records.used, visible]

theorem empty_iff {name : Text} :
    name ≠ [] ∧ name ∈ given ++ [[]] ↔ name ≠ [] ∧ name ∈ given := by
  simp only [List.mem_append, List.mem_singleton]
  tauto

theorem add_iff {name other : Text} (visible : name ≠ []) :
    (other = name ∨ other ≠ [] ∧ other ∈ given) ↔
      other ≠ [] ∧ other ∈ given ++ [name] := by
  simp only [List.mem_append, List.mem_singleton]
  constructor
  · rintro (rfl | ⟨visibleOther, member⟩)
    · exact ⟨visible, Or.inr rfl⟩
    · exact ⟨visibleOther, Or.inl member⟩
  · rintro ⟨visibleOther, member | same⟩
    · exact Or.inr ⟨visibleOther, member⟩
    · exact Or.inl same

/-- The number found behind the last one given to a text is the least of all that
are free. -/
theorem isLeast (records : naming.Records given) (base : Text) :
    IsLeast {number | 1 ≤ number ∧ numbered base number ∉ given}
      (freeNumber naming.used base naming.used.length
        ((naming.numbers.lookup base).getD 0 + 1)) := by
  obtain ⟨⟨behind, isFree⟩, least⟩ := isLeast_freeNumber naming.used base
    ((naming.numbers.lookup base).getD 0 + 1)
  have sameNames (number : Nat) : numbered base number ∈ naming.used ↔
      numbered base number ∈ given :=
    records.mem_used_iff (numbered_ne_nil base number)
  refine ⟨⟨by omega, by rwa [← sameNames]⟩, ?_⟩
  rintro number ⟨positive, freeThere⟩
  rw [← sameNames] at freeThere
  apply least
  refine ⟨?_, freeThere⟩
  by_contra early
  exact freeThere (records.numbers base number positive (by omega))

/-- One more heading is named by the plain rule, and the naming knows the new
name. -/
theorem give (records : naming.Records given) (base : Text) :
    NextName given base (naming.give base).1 ∧
      (naming.give base).2.Records (given ++ [(naming.give base).1]) := by
  by_cases hidden : base = []
  · subst hidden
    have unchanged : naming.give [] = ([], naming) := rfl
    rw [unchanged]
    refine ⟨.empty, ?_, records.numbers⟩
    intro name
    rw [records.used]
    exact empty_iff.symm
  unfold Naming.give
  rw [if_neg (by simpa using hidden)]
  by_cases taken : base ∈ naming.used
  · rw [if_pos (by simpa using taken)]
    have least := records.isLeast base
    refine ⟨.numbered hidden ((records.mem_used_iff hidden).mp taken) least,
      ?_, ?_⟩
    · intro name
      rw [List.mem_cons, records.used]
      exact add_iff (numbered_ne_nil base _)
    · intro other number positive known
      rw [List.mem_cons]
      by_cases same : other = base
      · subst same
        rw [List.lookup_cons_self, Option.getD_some] at known
        -- Below the number just given all are taken, since it is the least.
        rcases Nat.lt_or_eq_of_le known with below | rfl
        · right
          by_contra isFree
          rw [records.mem_used_iff (numbered_ne_nil other number)] at isFree
          exact Nat.not_le_of_lt below (least.2 ⟨positive, isFree⟩)
        · exact Or.inl rfl
      · rw [List.lookup_cons, beq_eq_false_iff_ne.mpr same] at known
        exact Or.inr (records.numbers other number positive known)
  · rw [if_neg (by simpa using taken)]
    refine ⟨.free hidden fun member =>
      taken ((records.mem_used_iff hidden).mpr member), ?_, ?_⟩
    · intro name
      rw [List.mem_cons, records.used]
      exact add_iff hidden
    · intro other number positive known
      exact List.mem_cons_of_mem _
        (records.numbers other number positive known)

end Naming.Records

theorem namedAfter_nameHeadings (dialect : Dialect) {naming : Naming}
    {given : List Text} (records : naming.Records given)
    (drafts : List Scan.Draft) :
    NamedAfter given
      (drafts.map fun draft => Anchor.generate dialect draft.source)
      ((nameHeadings dialect naming drafts).map Heading.autoAnchor) := by
  induction drafts generalizing naming given with
  | nil => exact .nil
  | cons draft drafts ih =>
      obtain ⟨next, later⟩ :=
        records.give (Anchor.generate dialect draft.source)
      rw [nameHeadings, List.map_cons, List.map_cons]
      exact .cons next (ih later)

theorem lines_nameHeadings (dialect : Dialect) (naming : Naming)
    (drafts : List Scan.Draft) :
    (nameHeadings dialect naming drafts).map Heading.line =
      drafts.map Scan.Draft.line := by
  induction drafts generalizing naming with
  | nil => rfl
  | cons draft drafts ih =>
      rw [nameHeadings, List.map_cons, List.map_cons, ih]

/-- The headings of a text before they are named, in order. -/
def drafts (text : Text) : List Scan.Draft :=
  (harvestOf text).headings.reverse

/-- The headings of a document are named one after another by the plain rule: a
heading gets the anchor that its text yields, or this anchor with the least number
that makes it new.  The search for the number ends for all used names and from
every start on, and headings with anchors have different ones. -/
theorem headings_named_in_order {dialect : Dialect} {text : Text}
    {document : Document} (indexed : index dialect text = .ok document) :
    NamedAfter []
      ((drafts text).map fun draft => Anchor.generate dialect draft.source)
      (document.headings.map Heading.autoAnchor) ∧
    document.headings.map Heading.line = (drafts text).map Scan.Draft.line ∧
    (∀ used base start,
      IsLeast {number | start ≤ number ∧ numbered base number ∉ used}
        (freeNumber used base used.length start)) ∧
    ((document.headings.map Heading.autoAnchor).filter (· ≠ [])).Nodup := by
  obtain ⟨frontMatter, -, -, rfl⟩ := exists_of_index indexed
  have start : Naming.Records {} [] := by
    refine ⟨by simp, ?_⟩
    intro base number positive known
    exact absurd positive (Nat.not_le_of_lt (Nat.lt_succ_of_le known))
  have named := namedAfter_nameHeadings dialect start (drafts text)
  exact ⟨named, lines_nameHeadings dialect {} _, isLeast_freeNumber,
    named.nodup List.nodup_nil⟩

/-- A numbered anchor that is the text of another heading is left out. -/
theorem headings_named_in_order_taken :
    ∃ document, index .github "# A\n# A 1\n# A\n# A\n# &\n".toList = .ok document ∧
      document.headings.map Heading.autoAnchor =
        ["a", "a-1", "a-2", "a-3", ""].map String.toList ∧
      ((document.headings.map Heading.autoAnchor).filter (· ≠ [])).Nodup := by
  have found : (index .github "# A\n# A 1\n# A\n# A\n# &\n".toList).toOption.any
      (fun document => document.headings.map Heading.autoAnchor ==
        ["a", "a-1", "a-2", "a-3", ""].map String.toList) = true := by
    decide +kernel
  obtain ⟨document, indexed, anchors⟩ := (Option.any_eq_true _ _).mp found
  have indexed := Outcome.toOption_eq_some.mp indexed
  exact ⟨document, indexed, beq_iff_eq.mp anchors,
    (headings_named_in_order indexed).2.2.2⟩

end Document

end AnchorLint
