import AnchorLint.Anchor.Generate
import AnchorLint.Proofs.Link.Path
import AnchorLint.Proofs.Text.Case
import AnchorLint.Proofs.Text.Percent
import AnchorLint.Proofs.Text.Trim
import AnchorLint.Text.Percent

/-!
# The characters of anchors

An anchor is made of hyphens and of characters of the visible text in lower case that
its dialect keeps.  The dialects agree on where the hyphens are: they keep the same
characters, but for the underscore and the characters outside ASCII, which one of
them drops.
-/

namespace AnchorLint

namespace Anchor

variable {dialect : Dialect} {character : Char}

theorem mapCharacter_cases {source : Char}
    (mapped : mapCharacter dialect source = some character) :
    character = '-' ∨ (character = source ∧ keeps dialect character = true) := by
  unfold mapCharacter at mapped
  split at mapped
  · exact Or.inl (Option.some.inj mapped).symm
  split at mapped
  · rename_i kept
    obtain rfl := Option.some.inj mapped
    exact Or.inr ⟨rfl, kept⟩
  · cases mapped

theorem mem_mapPiece {piece : Text}
    (member : character ∈ mapPiece dialect piece) :
    character = '-' ∨ (character ∈ piece ∧ keeps dialect character = true) := by
  obtain ⟨source, inside, mapped⟩ := List.mem_filterMap.mp member
  rcases mapCharacter_cases mapped with hyphen | ⟨rfl, kept⟩
  · exact Or.inl hyphen
  · exact Or.inr ⟨Text.mem_of_mem_trim inside, kept⟩

theorem eq_of_mem_hyphens {spaced leading trailing : Bool}
    (member : character ∈ hyphens spaced leading trailing) : character = '-' := by
  unfold hyphens at member
  split at member
  · exact List.eq_of_mem_replicate member
  · cases member

theorem mem_assemble {trailing leading : Bool} {previous : Text}
    {pieces : List Text}
    (member : character ∈ assemble dialect trailing leading previous pieces) :
    character = '-' ∨
      ((∃ piece ∈ pieces, character ∈ piece) ∧ keeps dialect character = true) := by
  induction pieces generalizing leading previous with
  | nil => cases member
  | cons piece pieces ih =>
      rw [assemble, List.mem_append, List.mem_append] at member
      rcases member with (hyphen | here) | later
      · exact Or.inl (eq_of_mem_hyphens hyphen)
      · exact (mem_mapPiece here).imp_right fun ⟨inside, kept⟩ =>
          ⟨⟨piece, List.mem_cons_self, inside⟩, kept⟩
      · refine (ih later).imp_right fun ⟨⟨other, within, inside⟩, kept⟩ =>
          ⟨⟨other, List.mem_cons_of_mem piece within, inside⟩, kept⟩

/-- A character of an anchor is a hyphen, or a character of the visible text in lower
case that the dialect keeps. -/
theorem mem_generate {heading : Text}
    (member : character ∈ generate dialect heading) :
    character = '-' ∨ (character ∈ Text.lower (Markup.visible heading) ∧
      keeps dialect character = true) := by
  rw [generate] at member
  have whole {piece : Text}
      (within : piece ∈ Text.splitAt (· == '&')
        (Text.trim (Text.lower (Markup.visible heading))))
      (inside : character ∈ piece) :
      character ∈ Text.lower (Markup.visible heading) := by
    rw [Text.splitAt_beq] at within
    exact Text.mem_of_mem_trim
      (Text.mem_of_mem_splitOn within character inside).2
  split at member
  · cases member
  · rename_i first pieces split
    rw [split] at whole
    rcases List.mem_append.mp member with here | later
    · exact (mem_mapPiece here).imp_right fun ⟨inside, kept⟩ =>
        ⟨whole List.mem_cons_self inside, kept⟩
    · exact (mem_assemble later).imp_right fun ⟨⟨piece, within, inside⟩, kept⟩ =>
        ⟨whole (List.mem_cons_of_mem first within) inside, kept⟩

/-! ## Two dialects -/

/-- Whether a character of an anchor is kept by the dialect that keeps fewest. -/
def survives (character : Char) : Bool :=
  character != '_' && Percent.isAscii character

theorem mapCharacter_kramdownGfm (character : Char) :
    mapCharacter .kramdownGfm character = mapCharacter .github character := by
  simp [mapCharacter, keeps]

theorem isAlphanum_of_not_ascii (foreign : 128 ≤ character.toNat) :
    character.isAlphanum = false := by
  refine Bool.eq_false_iff.mpr fun isPart => ?_
  have ascii := of_decide_eq_true (Percent.isAscii_of_isAlphanum isPart)
  omega

theorem mapCharacter_kramdown (character : Char) :
    mapCharacter .kramdown character =
      (mapCharacter .github character).filter survives := by
  rcases Nat.lt_or_ge character.toNat 128 with ascii | foreign
  · apply Text.forall_ascii (motive := fun character =>
      mapCharacter .kramdown character =
        (mapCharacter .github character).filter survives) ?_ ascii
    decide +kernel
  · have lost : survives character = false := by
      simp [survives, Percent.isAscii, foreign]
    have visible : ¬ (character = ' ' ∨ character = '-') ∧ character ≠ '_' := by
      refine ⟨?_, ?_⟩
      · rintro (rfl | rfl) <;> exact absurd foreign (by decide)
      · rintro rfl
        exact absurd foreign (by decide)
    have dropped : mapCharacter .kramdown character = none := by
      simp [mapCharacter, keeps, visible, isAlphanum_of_not_ascii foreign]
    rw [dropped, mapCharacter, if_neg visible.1]
    by_cases kept : keeps .github character = true
    · rw [if_pos kept, Option.filter_some, if_neg (Bool.eq_false_iff.mp lost)]
    · rw [if_neg kept, Option.filter_none]

section Filter

variable {one other : Dialect} {keep : Char → Bool}

theorem mapPiece_filter
    (each : ∀ character, mapCharacter one character =
      (mapCharacter other character).filter keep) (piece : Text) :
    mapPiece one piece = (mapPiece other piece).filter keep := by
  rw [mapPiece, mapPiece, List.filter_filterMap]
  exact congrArg (List.filterMap · _) (funext each)

theorem filter_hyphens (hyphen : keep '-' = true)
    (spaced leading trailing : Bool) :
    (hyphens spaced leading trailing).filter keep =
      hyphens spaced leading trailing := by
  apply List.filter_eq_self.mpr
  intro character member
  rwa [eq_of_mem_hyphens member]

theorem assemble_filter (hyphen : keep '-' = true)
    (each : ∀ character, mapCharacter one character =
      (mapCharacter other character).filter keep)
    (trailing leading : Bool) (previous : Text) (pieces : List Text) :
    assemble one trailing leading previous pieces =
      (assemble other trailing leading previous pieces).filter keep := by
  induction pieces generalizing leading previous with
  | nil => rfl
  | cons piece pieces ih =>
      rw [assemble, assemble, List.filter_append, List.filter_append,
        filter_hyphens hyphen, ← mapPiece_filter each, ← ih]

theorem generate_filter (hyphen : keep '-' = true)
    (each : ∀ character, mapCharacter one character =
      (mapCharacter other character).filter keep) (heading : Text) :
    generate one heading = (generate other heading).filter keep := by
  rw [generate, generate]
  cases Text.splitAt (· == '&')
      (Text.trim (Text.lower (Markup.visible heading))) with
  | nil => rfl
  | cons first pieces =>
      dsimp only
      rw [List.filter_append, ← mapPiece_filter each, ← assemble_filter hyphen each]

end Filter

/-- The dialects differ by a projection: two of them give the same anchors, and the
third gives those anchors without the underscores and the characters outside ASCII,
with all hyphens in place. -/
theorem dialects_differ_by_projection (heading : Text) :
    generate .kramdownGfm heading = generate .github heading ∧
    generate .kramdown heading =
      (generate .github heading).filter survives ∧
    (∀ character ∈ generate .kramdown heading,
      ('a' ≤ character ∧ character ≤ 'z') ∨
        ('0' ≤ character ∧ character ≤ '9') ∨ character = '-') ∧
    (generate .kramdown heading).filter (· == '-') =
      (generate .github heading).filter (· == '-') := by
  have projected := generate_filter (by decide) mapCharacter_kramdown heading
  refine ⟨?_, projected, ?_, ?_⟩
  · have each (character : Char) : mapCharacter .kramdownGfm character =
        (mapCharacter .github character).filter fun _ => true := by
      rw [mapCharacter_kramdownGfm]
      cases mapCharacter .github character <;> rfl
    have same := generate_filter rfl each heading
    rwa [List.filter_true] at same
  · intro character member
    rcases mem_generate member with hyphen | ⟨inside, kept⟩
    · exact Or.inr (Or.inr hyphen)
    · have survived := (List.mem_filter.mp (projected ▸ member)).2
      have ascii : character.toNat < 128 := by
        simpa [survives, Percent.isAscii] using
          ((Bool.and_eq_true _ _).mp survived).2
      apply Text.forall_ascii (motive := fun character =>
        Text.IsLowerCase character → keeps .kramdown character = true →
          ('a' ≤ character ∧ character ≤ 'z') ∨
            ('0' ≤ character ∧ character ≤ '9') ∨ character = '-')
        (by decide) ascii (Text.isLowerCase_of_mem_lower inside) kept
  · rw [projected, List.filter_filter]
    apply List.filter_congr
    intro character _
    by_cases hyphen : character = '-'
    · subst hyphen
      rfl
    · simp [hyphen]

end Anchor

end AnchorLint
