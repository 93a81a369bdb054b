import AnchorLint.Proofs.Anchor.Cut
import AnchorLint.Proofs.Link.Path

/-!
# Anchors as a substitution

The anchor of a heading can be said without positions and flags: its visible text in
lower case is cut at the ampersands, the pieces are mapped character by character,
and each ampersand leaves hyphens if blanks stand beside it.  The computation works
on the trimmed text and cuts it at bare ampersands; this file shows that it yields
the same anchor.
-/

namespace AnchorLint

namespace Anchor

/-- The hyphens that a joint leaves: none for a bare ampersand, else two, and one
less for each edge at which it takes blanks. -/
def Joint.hyphens (joint : Joint) (atStart atEnd : Bool) : Text :=
  if joint.before.isEmpty && joint.behind.isEmpty then []
  else
    List.replicate
      (2 - (atStart && !joint.before.isEmpty).toNat
        - (atEnd && !joint.behind.isEmpty).toNat) '-'

def mapAll (dialect : Dialect) (piece : Text) : Text :=
  piece.filterMap (mapCharacter dialect)

/-- What the parts of a text yield.  `atStart` says that nothing stands before the
piece, so that blanks at its beginning are those of the text. -/
def substitute (dialect : Dialect) :
    (atStart : Bool) → (piece : Text) → List (Joint × Text) → Text
  | atStart, piece, [] =>
    mapAll dialect
      (Text.trimRight (if atStart then Text.trimLeft piece else piece))
  | atStart, piece, (joint, next) :: joints =>
    mapAll dialect (if atStart then Text.trimLeft piece else piece)
      ++ joint.hyphens (atStart && piece.isEmpty)
        (next.isEmpty && joints.isEmpty)
      ++ substitute dialect false next joints

/-! ## Pieces of the trimmed text -/

variable {dialect : Dialect} {front rest blanks text : Text}

theorem splitAt_append_ampersand (free : '&' ∉ front) :
    Text.splitAt (· == '&') (front ++ '&' :: rest) =
      front :: Text.splitAt (· == '&') rest := by
  rw [Text.splitAt_append_cons, Text.splitAt_of_free free, List.singleton_append]

theorem mapPiece_eq (solid : startsBlank text = false) :
    mapPiece dialect text = mapAll dialect (Text.trimRight text) := by
  rw [mapPiece, Text.trim, trimLeft_eq_self solid, mapAll]

theorem mapPiece_append (blank : blanks.isBlank = true)
    (solid : startsBlank text = false) :
    mapPiece dialect (blanks ++ text) = mapAll dialect (Text.trimRight text) := by
  rw [← mapPiece_eq solid, mapPiece, Text.trim,
    Text.trimLeft_append_of_isBlank blank, mapPiece, Text.trim]

/-- Both ways to say how many hyphens an ampersand leaves. -/
theorem Joint.hyphens_eq (joint : Joint) (atStart atEnd : Bool) :
    joint.hyphens atStart atEnd =
      Anchor.hyphens (!joint.before.isEmpty || (!joint.behind.isEmpty && !atEnd))
        (atStart && !joint.before.isEmpty)
        (atEnd && !joint.behind.isEmpty) := by
  unfold Joint.hyphens Anchor.hyphens
  cases joint.before.isEmpty <;> cases joint.behind.isEmpty <;>
    cases atStart <;> cases atEnd <;> rfl

/-- Blanks that were trimmed from the start count as blanks beside the ampersand. -/
theorem hyphens_or (spaced leading trailing : Bool) :
    Anchor.hyphens (leading || spaced) leading trailing =
      Anchor.hyphens spaced leading trailing := by
  cases spaced <;> cases leading <;> rfl

theorem Joint.IsFirst.split {joint : Joint} {piece : Text}
    (first : joint.IsFirst text piece rest) :
    text = (piece ++ joint.before) ++ '&' :: (joint.behind ++ rest) ∧
      '&' ∉ piece ++ joint.before := by
  obtain ⟨parts, free, -, -⟩ := Joint.isFirst_iff.mp first
  exact ⟨by simp [parts, Joint.text],
    by simp [free, ampersand_not_mem joint.blankBefore]⟩

theorem Cut.isEmpty_eq {piece : Text} {joints : List (Joint × Text)}
    (cut : Cut text piece joints) :
    text.isEmpty = (piece.isEmpty && joints.isEmpty) := by
  cases cut with
  | whole => simp
  | joint first => simp [first.parts, Joint.text]

/-! ## The computation follows the cut -/

/-- What stands behind a joint: `blanks` are those that the joint has taken, and
`previous` is the piece in front of it, as the computation cuts it. -/
theorem assemble_eq {piece : Text} {joints : List (Joint × Text)}
    (cut : Cut text piece joints) (solid : startsBlank text = false)
    (blank : blanks.isBlank = true) (leading : Bool) (previous : Text) :
    assemble dialect (endsBlank (blanks ++ text)) leading previous
        (Text.splitAt (· == '&') (Text.trimRight (blanks ++ text))) =
      Anchor.hyphens
          (endsBlank (Text.trimLeft previous) ||
            (!blanks.isEmpty && !text.isEmpty))
          (leading && previous.isEmpty) (text.isEmpty && !blanks.isEmpty)
        ++ substitute dialect false piece joints := by
  induction cut generalizing blanks leading previous with
  | @whole text none_ =>
      have free := ampersand_mem_iff.mp none_
      by_cases empty : text = []
      · subst empty
        rw [List.append_nil, Text.trimRight_of_isBlank blank,
          Text.splitAt_of_free List.not_mem_nil, endsBlank_of_isBlank blank]
        simp [assemble, substitute, startsBlank, mapPiece, mapAll, Text.trim,
          Text.trimLeft]
      · have freeTrimmed : '&' ∉ blanks ++ Text.trimRight text := by
          rw [List.mem_append, not_or]
          refine ⟨ampersand_not_mem blank, fun member => free ?_⟩
          obtain ⟨taken, -, parts⟩ := Text.exists_trimRight text
          exact parts ▸ List.mem_append_left taken member
        have solidTrimmed := startsBlank_trimRight solid
        rw [trimRight_append solid empty, Text.splitAt_of_free freeTrimmed, assemble,
          startsBlank_blanks_append blank solidTrimmed,
          mapPiece_append blank solidTrimmed,
          trimRight_eq_self (endsBlank_trimRight text)]
        have visible : text.isEmpty = false := List.isEmpty_eq_false_iff.mpr empty
        have visiblePiece : (blanks ++ Text.trimRight text).isEmpty = false :=
          List.isEmpty_eq_false_iff.mpr
            (List.append_ne_nil_of_right_ne_nil _ (trimRight_ne_nil solid empty))
        simp [assemble, substitute, visible, visiblePiece]
  | @joint joint text piece rest next joints first later ih =>
      obtain ⟨-, -, solidPiece, solidRest⟩ := Joint.isFirst_iff.mp first
      obtain ⟨rfl, free⟩ := first.split
      have freeFront : '&' ∉ blanks ++ (piece ++ joint.before) := fun member =>
        (List.mem_append.mp member).elim (ampersand_not_mem blank) free
      have solidFront := startsBlank_of_append solid
      have visible : (piece ++ joint.before ++
          '&' :: (joint.behind ++ rest)).isEmpty = false := by
        simp
      have pieces : (Text.splitAt (· == '&')
          (Text.trimRight (joint.behind ++ rest))).isEmpty = false :=
        List.isEmpty_eq_false_iff.mpr (Text.splitAt_ne_nil _ _)
      rw [← List.append_assoc, Text.trimRight_append_cons ampersand_visible,
        endsBlank_append_cons ampersand_visible,
        splitAt_append_ampersand freeFront, assemble,
        startsBlank_blanks_append blank solidFront,
        mapPiece_append blank solidFront,
        Text.trimRight_append_of_isBlank joint.blankBefore,
        trimRight_eq_self solidPiece,
        ih solidRest joint.blankBehind, Text.trimLeft_append_of_isBlank blank,
        trimLeft_eq_self solidFront,
        endsBlank_append_blanks joint.blankBefore solidPiece,
        substitute, joint.hyphens_eq, ← later.isEmpty_eq, visible]
      simp [pieces]

/-- The anchor of a text that has been made visible and lower case. -/
theorem pieces_eq_substitute {piece : Text} {joints : List (Joint × Text)}
    (cut : Cut text piece joints) :
    (match Text.splitAt (· == '&') (Text.trim text) with
      | [] => []
      | first :: pieces =>
        mapPiece dialect first
          ++ assemble dialect (endsBlank text) (startsBlank text) first pieces) =
      substitute dialect true piece joints := by
  cases cut with
  | whole none_ =>
      have free : '&' ∉ Text.trim text := fun member =>
        ampersand_mem_iff.mp none_ (Text.mem_of_mem_trim member)
      have solid : startsBlank (Text.trim text) = false :=
        startsBlank_trimRight (startsBlank_trimLeft text)
      rw [Text.splitAt_of_free free]
      dsimp only
      rw [mapPiece_eq solid, Text.trim, trimRight_eq_self (endsBlank_trimRight _)]
      simp [assemble, substitute]
  | @joint joint _ _ rest next joints first later =>
      obtain ⟨-, -, solidPiece, solidRest⟩ := Joint.isFirst_iff.mp first
      obtain ⟨rfl, free⟩ := first.split
      have freeFront : '&' ∉ Text.trimLeft (piece ++ joint.before) := fun member =>
        free ((List.dropWhile_sublist _).subset member)
      rw [Text.trim, Text.trimLeft_append_cons ampersand_visible,
        Text.trimRight_append_cons ampersand_visible,
        splitAt_append_ampersand freeFront,
        endsBlank_append_cons ampersand_visible]
      dsimp only
      rw [assemble_eq later solidRest joint.blankBehind,
        trimLeft_eq_self (startsBlank_trimLeft _), substitute, joint.hyphens_eq,
        ← later.isEmpty_eq]
      by_cases empty : piece = []
      · -- The joint takes the blanks at the start of the text.
        subst empty
        have leading : startsBlank (joint.before ++ '&' :: (joint.behind ++ rest)) =
            !joint.before.isEmpty :=
          startsBlank_blanks_append joint.blankBefore ampersand_visible
        rw [List.nil_append, leading, Text.trimLeft_of_isBlank joint.blankBefore]
        simp [mapPiece, mapAll, Text.trim, Text.trimLeft, Text.trimRight,
          Text.dropEndWhile, endsBlank, hyphens_or]
      · have visible := trimLeft_ne_nil solidPiece empty
        have solid := endsBlank_trimLeft solidPiece
        rw [mapPiece_eq (startsBlank_trimLeft _), trimLeft_append solidPiece empty,
          endsBlank_append_blanks joint.blankBefore solid,
          Text.trimRight_append_of_isBlank joint.blankBefore,
          trimRight_eq_self solid]
        have frontVisible :
            (Text.trimLeft piece ++ joint.before).isEmpty = false :=
          List.isEmpty_eq_false_iff.mpr
            (List.append_ne_nil_of_left_ne_nil visible _)
        have pieceVisible : piece.isEmpty = false :=
          List.isEmpty_eq_false_iff.mpr empty
        simp [frontVisible, pieceVisible]

/-- The anchor of a heading is what its visible text in lower case yields, cut at the
leftmost and longest matches of an ampersand between blanks.  There is exactly one
such cut. -/
theorem generate_eq_substitute (dialect : Dialect) (heading : Text) :
    ∃ piece joints,
      Cut (Text.lower (Markup.visible heading)) piece joints ∧
      (∀ piece' joints',
        Cut (Text.lower (Markup.visible heading)) piece' joints' →
          piece' = piece ∧ joints' = joints) ∧
      generate dialect heading = substitute dialect true piece joints := by
  obtain ⟨piece, joints, cut⟩ := exists_cut (Text.lower (Markup.visible heading))
  exact ⟨piece, joints, cut, fun _ _ other => other.unique cut,
    pieces_eq_substitute cut⟩

-- The blanks between two ampersands belong to the first one.
example : generate .github " A &  & b&c & ".toList = "a----bc-".toList := by
  decide +kernel

end Anchor

end AnchorLint
