import AnchorLint.Text.Basic
import Mathlib.Data.List.Lex
import Mathlib.Data.Char

/-!
# The order of texts

Texts are compared character by character, by code point, and a sorted list of
distinct texts increases strictly.
-/

namespace AnchorLint

namespace Text

theorem le_iff {first second : Text} :
    le first second = true ↔ ¬ second < first := by
  simp [le]

theorem le_transitive (first second third : Text)
    (before : le first second = true) (behind : le second third = true) :
    le first third = true := by
  rw [le_iff, not_lt] at before behind ⊢
  exact before.trans behind

theorem le_or_le (first second : Text) :
    (le first second || le second first) = true := by
  rw [Bool.or_eq_true, le_iff, le_iff, not_lt, not_lt]
  exact le_total first second

theorem pairwise_sort (texts : List Text) :
    (sort texts).Pairwise fun first second => le first second = true :=
  List.pairwise_mergeSort le_transitive le_or_le texts

/-- Distinct texts stand in strictly increasing order once they are sorted. -/
theorem pairwise_lt_sort {texts : List Text} (nodup : texts.Nodup) :
    (sort texts).Pairwise (· < ·) := by
  have distinct : (sort texts).Nodup :=
    (List.mergeSort_perm texts le).nodup_iff.mpr nodup
  refine (pairwise_sort texts).imp₂ ?_ distinct
  intro first second ordered different
  rw [le_iff] at ordered
  exact (lt_or_gt_of_ne different).resolve_right ordered

/-- Distinct texts are sorted in one way. -/
theorem sort_congr {first second : List Text} (nodup : first.Nodup)
    (nodup' : second.Nodup) (same : ∀ text, text ∈ first ↔ text ∈ second) :
    sort first = sort second := by
  have perm : (sort first).Perm (sort second) :=
    ((List.mergeSort_perm first le).trans
      ((List.perm_ext_iff_of_nodup nodup nodup').mpr same)).trans
        (List.mergeSort_perm second le).symm
  refine perm.eq_of_pairwise ?_ (pairwise_lt_sort nodup)
    (pairwise_lt_sort nodup')
  intro one other _ _ below above
  exact absurd above below.asymm

end Text

end AnchorLint
