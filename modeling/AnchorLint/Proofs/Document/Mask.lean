import AnchorLint.Document.Comment
import AnchorLint.Proofs.Document.Pairing
import AnchorLint.Proofs.Text.Find

/-!
# Masked lines

What has been read is blanked out before more is looked for.  The spans that are
blanked out lie in the line: the matches of patterns do, and so do code spans and
comments.  So a masked line is as long as the line itself and has spaces in these
spans and nowhere else, but where the line has them.  A place in the one is a place
in the other, and a word without spaces that the masked line shows at a place
stands in the line at the same place.
-/

namespace AnchorLint

def Span.FitsIn (length : Nat) (span : Span) : Prop :=
  span.start ≤ span.stop ∧ span.stop ≤ length

def Span.Holds (span : Span) (offset : Nat) : Prop :=
  span.start ≤ offset ∧ offset < span.stop

namespace Span

def covered (spans : List Span) (index : Nat) : Bool :=
  spans.any fun span => span.start ≤ index && index < span.stop

theorem covered_append (first second : List Span) (index : Nat) :
    covered (first ++ second) index =
      (covered first index || covered second index) :=
  List.any_append

theorem covered_eq_true {spans : List Span} {index : Nat} :
    covered spans index = true ↔ ∃ span ∈ spans, span.Holds index := by
  simp [covered, Holds]

theorem covered_eq_false {spans : List Span} {index : Nat} :
    covered spans index = false ↔
      ∀ span ∈ spans, span.start ≤ index → span.stop ≤ index := by
  simp [covered]

theorem covered_congr {spans others : List Span}
    (same : ∀ span, span ∈ spans ↔ span ∈ others) (index : Nat) :
    covered spans index = covered others index := by
  rw [Bool.eq_iff_iff, covered_eq_true, covered_eq_true]
  simp only [same]

theorem covered_cons_of_stop_le {span : Span} {index : Nat}
    (behind : span.stop ≤ index) (spans : List Span) :
    covered (span :: spans) index = covered spans index := by
  simp [covered, Nat.not_lt_of_le behind]

/-- Up to the end of the first span only its start counts, if the others start
later. -/
theorem covered_cons_of_lt_stop {span : Span} {spans : List Span} {index : Nat}
    (ordered : ∀ other ∈ spans, span.start ≤ other.start)
    (before : index < span.stop) :
    covered (span :: spans) index = decide (span.start ≤ index) := by
  by_cases started : span.start ≤ index
  · simp [covered, started, before]
  · have outside : covered (span :: spans) index = false := by
      refine covered_eq_false.mpr fun other member starts => ?_
      rcases List.mem_cons.mp member with rfl | later
      · exact absurd starts started
      · exact absurd ((ordered other later).trans starts) started
    simp [outside, started]

end Span

/-- Whether `masked` is a text with spaces in some spans and unchanged elsewhere. -/
structure Text.IsMasked (text : Text) (spans : List Span) (masked : Text) : Prop where
  length : masked.length = text.length
  hidden : ∀ span ∈ spans, ∀ index, span.Holds index → masked[index]? = some ' '
  shown : ∀ index, (∀ span ∈ spans, ¬ span.Holds index) →
    masked[index]? = text[index]?

namespace Inline

theorem length_blankFrom {position total : Nat} {text : Text}
    (length : position + text.length = total) {spans : List Span}
    (fit : ∀ span ∈ spans, span.FitsIn total) :
    position + (blankFrom position text spans).length = total := by
  induction spans generalizing position text with
  | nil => exact length
  | cons span spans ih =>
      obtain ⟨⟨ordered, inside⟩, fitLater⟩ := List.forall_mem_cons.mp fit
      rw [blankFrom]
      split
      · exact ih length fitLater
      · rename_i ahead
        have behind : span.stop + (text.drop (span.stop - position)).length =
            total := by
          rw [List.length_drop]
          omega
        have later := ih behind fitLater
        have start : (text.take (max span.start position - position)).length =
            max span.start position - position := by
          rw [List.length_take]
          omega
        simp only [List.length_append, List.length_replicate, start]
        omega

theorem length_blank {text : Text} {spans : List Span}
    (fit : ∀ span ∈ spans, span.FitsIn text.length) :
    (blank text spans).length = text.length := by
  have sorted : ∀ span ∈ spans.mergeSort spanLe, span.FitsIn text.length :=
    fun span member => fit span (List.mem_mergeSort.mp member)
  have length := length_blankFrom (Nat.zero_add text.length) sorted
  rwa [Nat.zero_add] at length

theorem getElem?_take_append_replicate {position start stop index : Nat} {text : Text}
    (ahead : position ≤ start) (proper : start ≤ stop)
    (inside : stop ≤ position + text.length) (before : position + index < stop) :
    (text.take (start - position) ++ List.replicate (stop - start) ' ')[index]? =
      text[index]?.map fun character =>
        if start ≤ position + index then ' ' else character := by
  have length : (text.take (start - position)).length = start - position := by
    rw [List.length_take]
    omega
  by_cases started : start ≤ position + index
  · have short : index < text.length := by omega
    rw [List.getElem?_append_right (by omega), length,
      List.getElem?_replicate_of_lt (by omega), List.getElem?_eq_getElem short,
      Option.map_some, if_pos started]
  · have early : index < start - position := by omega
    rw [List.getElem?_append_left (by omega), List.getElem?_take_of_lt early]
    simp [started]

/-- A blanked text has spaces inside the spans, and elsewhere it is the text. -/
theorem getElem?_blankFrom {position : Nat} {text : Text} {spans : List Span}
    (ordered : spans.Pairwise fun first second => first.start ≤ second.start)
    (fit : ∀ span ∈ spans, span.FitsIn (position + text.length)) (index : Nat) :
    (blankFrom position text spans)[index]? =
      text[index]?.map fun character =>
        if Span.covered spans (position + index) then ' ' else character := by
  induction spans generalizing position text index with
  | nil => simp [blankFrom, Span.covered]
  | cons span spans ih =>
      obtain ⟨⟨proper, inside⟩, fitLater⟩ := List.forall_mem_cons.mp fit
      obtain ⟨startsLater, orderedLater⟩ := List.pairwise_cons.mp ordered
      rw [blankFrom]
      split
      · rename_i passed
        rw [ih orderedLater fitLater,
          Span.covered_cons_of_stop_le (by omega) spans]
      · rename_i ahead
        have length : (text.take (max span.start position - position)
            ++ List.replicate (span.stop - max span.start position) ' ').length =
              span.stop - position := by
          rw [List.length_append, List.length_take, List.length_replicate]
          omega
        -- The index lies before the end of the span or behind it.
        rcases Nat.lt_or_ge (position + index) span.stop with before | behind
        · rw [List.getElem?_append_left (by omega),
            getElem?_take_append_replicate (Nat.le_max_right _ _) (by omega) inside
              before,
            Span.covered_cons_of_lt_stop startsLater before]
          have starts : max span.start position ≤ position + index ↔
              span.start ≤ position + index := by
            omega
          simp only [starts, decide_eq_true_eq]
        · have onward : span.stop + (text.drop (span.stop - position)).length =
              position + text.length := by
            rw [List.length_drop]
            omega
          have offset : span.stop + (index - (span.stop - position)) =
              position + index := by
            omega
          have place : span.stop - position + (index - (span.stop - position)) =
              index := by
            omega
          rw [List.getElem?_append_right (by omega), length,
            ih orderedLater (onward ▸ fitLater), List.getElem?_drop, offset, place,
            Span.covered_cons_of_stop_le behind]

theorem pairwise_start_mergeSort (spans : List Span) :
    (spans.mergeSort spanLe).Pairwise fun first second =>
      first.start ≤ second.start := by
  refine (List.pairwise_mergeSort ?_ ?_ spans).imp ?_
  · intro first second third one two
    simp only [spanLe, Bool.or_eq_true, decide_eq_true_eq, Bool.and_eq_true,
      beq_iff_eq] at one two ⊢
    omega
  · intro first second
    simp only [spanLe, Bool.or_eq_true, decide_eq_true_eq, Bool.and_eq_true,
      beq_iff_eq]
    omega
  · intro first second le
    simp only [spanLe, Bool.or_eq_true, decide_eq_true_eq, Bool.and_eq_true,
      beq_iff_eq] at le
    omega

theorem getElem?_blank {text : Text} {spans : List Span}
    (fit : ∀ span ∈ spans, span.FitsIn text.length) (index : Nat) :
    (blank text spans)[index]? = text[index]?.map fun character =>
      if Span.covered spans index then ' ' else character := by
  have sorted : ∀ span ∈ spans.mergeSort spanLe,
      span.FitsIn (0 + text.length) := fun span member =>
    (Nat.zero_add text.length).symm ▸ fit span (List.mem_mergeSort.mp member)
  rw [blank, getElem?_blankFrom (pairwise_start_mergeSort spans) sorted,
    Nat.zero_add, Span.covered_congr fun _ => List.mem_mergeSort]

theorem isMasked_blank {text : Text} {spans : List Span}
    (fit : ∀ span ∈ spans, span.FitsIn text.length) :
    text.IsMasked spans (blank text spans) where
  length := length_blank fit
  hidden span member index holds := by
    have short : index < text.length := Nat.lt_of_lt_of_le holds.2 (fit span member).2
    rw [getElem?_blank fit, List.getElem?_eq_getElem short,
      Span.covered_eq_true.mpr ⟨span, member, holds⟩]
    rfl
  shown index outside := by
    have uncovered : Span.covered spans index = false := by
      rw [Bool.eq_false_iff, ne_eq, Span.covered_eq_true]
      exact fun ⟨span, member, holds⟩ => outside span member holds
    rw [getElem?_blank fit, uncovered]
    cases text[index]? <;> rfl

theorem isMasked_replicate (text : Text) :
    text.IsMasked [⟨0, text.length⟩] (List.replicate text.length ' ') where
  length := List.length_replicate
  hidden span member index holds := by
    obtain rfl := List.mem_singleton.mp member
    exact List.getElem?_replicate_of_lt holds.2
  shown index outside := by
    have long : text.length ≤ index := by
      simpa [Span.Holds] using outside ⟨0, text.length⟩ List.mem_cons_self
    simp [long]

/-- Whether a masked text is as long as the content of a line and shows nothing
but what the line has at the same places. -/
structure Shows (content masked : Text) : Prop where
  length : masked.length = content.length
  visible : ∀ (index : Nat) (character : Char),
    masked[index]? = some character → character ≠ ' ' →
      content[index]? = some character

namespace Shows

variable {content masked : Text}

theorem refl (content : Text) : Shows content content :=
  ⟨rfl, fun _ _ here _ => here⟩

theorem of_isMasked {spans : List Span} (isMasked : content.IsMasked spans masked) :
    Shows content masked where
  length := isMasked.length
  visible index character here proper := by
    by_cases inside : ∃ span ∈ spans, span.Holds index
    · obtain ⟨span, member, holds⟩ := inside
      rw [isMasked.hidden span member index holds] at here
      exact absurd (Option.some.inj here).symm proper
    · rw [← here]
      exact (isMasked.shown index fun span member holds =>
        inside ⟨span, member, holds⟩).symm

theorem blank (shows_ : Shows content masked) {spans : List Span}
    (fit : ∀ span ∈ spans, span.FitsIn masked.length) :
    Shows content (Inline.blank masked spans) where
  length := (length_blank fit).trans shows_.length
  visible index character here proper := by
    have before := (of_isMasked (isMasked_blank fit)).visible index character here proper
    exact shows_.visible index character before proper

theorem prefix_drop (shows_ : Shows content masked) {word : Text} {start : Nat}
    (solid : ' ' ∉ word) (shown : word <+: masked.drop start) :
    word <+: content.drop start := by
  rw [List.prefix_iff_getElem?] at shown ⊢
  intro index short
  have here := shown index short
  rw [List.getElem?_drop] at here ⊢
  exact shows_.visible _ _ here fun space => solid (space ▸ List.getElem_mem short)

end Shows

theorem fitsIn_of_mem_spansOf {α : Type} {pattern : Pattern α} {text : Text}
    {found : List (Found α)}
    (matched : ∀ one ∈ found, one ∈ Pattern.findAll pattern text) :
    ∀ span ∈ spansOf found, span.FitsIn text.length := by
  intro span member
  obtain ⟨one, inFound, rfl⟩ := List.mem_map.mp member
  have isMatch := Pattern.isMatch_of_mem_findAll (matched one inFound)
  exact ⟨Nat.le_of_lt isMatch.lt_stop, isMatch.stop_le⟩

/-! ## What has been read -/

/-- A masked line without its inline links. -/
def unlinked (masked : Text) : Text :=
  blank masked (spansOf (Pattern.findAll inlineLink masked))

/-- A masked line without its links and full references. -/
def unlabelled (masked : Text) : Text :=
  blank (unlinked masked)
    (spansOf (Pattern.findAll fullReference (unlinked masked)))

def shortcuts (masked : Text) : List (Found Written) :=
  (Pattern.findAll shortcutReference (unlabelled masked)).filter fun found =>
    !Text.startsWith found.value.text ['^']

/-- A masked line without its links and references. -/
def unreferenced (masked : Text) : Text :=
  blank (unlabelled masked) (spansOf (shortcuts masked))

/-- A masked line without its links, references and addresses in brackets. -/
def unaddressed (masked : Text) : Text :=
  blank (unreferenced masked)
    (spansOf (Pattern.findAll autolink (unreferenced masked))
      ++ spansOf (Pattern.findAll mailAutolink (unreferenced masked)))

namespace Shows

variable {content masked : Text} (shows_ : Shows content masked)

include shows_

theorem unlinked : Shows content (Inline.unlinked masked) :=
  shows_.blank (fitsIn_of_mem_spansOf fun _ member => member)

theorem unlabelled : Shows content (Inline.unlabelled masked) :=
  shows_.unlinked.blank (fitsIn_of_mem_spansOf fun _ member => member)

theorem unreferenced : Shows content (Inline.unreferenced masked) :=
  shows_.unlabelled.blank
    (fitsIn_of_mem_spansOf fun _ member => (List.mem_filter.mp member).1)

theorem unaddressed : Shows content (Inline.unaddressed masked) :=
  shows_.unreferenced.blank (List.forall_mem_append.mpr
    ⟨fitsIn_of_mem_spansOf fun _ member => member,
      fitsIn_of_mem_spansOf fun _ member => member⟩)

end Shows

end Inline

/-! ## Code spans -/

namespace Run

theorem bounds_of_mem_collectFrom {marker : Char} {position : Nat}
    {before : Option Char} {current : Option (Nat × Option Char)} {text : Text}
    {floor : Nat} (reached : floor ≤ position)
    (began : ∀ open_ ∈ current, floor ≤ open_.1 ∧ open_.1 ≤ position) {run : Run}
    (member : run ∈ collectFrom marker position before current text) :
    floor ≤ run.start ∧ run.start ≤ run.stop ∧
      run.stop ≤ position + text.length := by
  fun_induction collectFrom marker position before current text with
  | case1 => simp at member
  | case2 position before start outer =>
      obtain rfl := List.mem_singleton.mp member
      simpa using began _ rfl
  | case3 position before rest ih =>
      have later := ih (by omega) (by simp; omega) member
      simp only [List.length_cons]
      omega
  | case4 position before character rest other ih =>
      have later := ih (by omega) (by simp) member
      simp only [List.length_cons]
      omega
  | case5 position before start outer rest ih =>
      have earlier := began _ rfl
      have later := ih (by omega) (by simp at earlier ⊢; omega) member
      simp only [List.length_cons]
      omega
  | case6 position before start outer character rest other ih =>
      have earlier := began _ rfl
      simp only [List.length_cons]
      rcases List.mem_cons.mp member with rfl | inRest
      · dsimp only at earlier ⊢
        omega
      · have later := ih (by omega) (by simp) inRest
        omega

theorem pairwise_collectFrom {marker : Char} {position : Nat}
    {before : Option Char} {current : Option (Nat × Option Char)} {text : Text}
    (began : ∀ open_ ∈ current, open_.1 ≤ position) :
    (collectFrom marker position before current text).Pairwise
      fun first second => first.start ≤ second.start := by
  fun_induction collectFrom marker position before current text with
  | case1 => exact List.Pairwise.nil
  | case2 position before start outer => exact List.pairwise_singleton _ _
  | case3 position before rest ih => exact ih (by simp)
  | case4 position before character rest other ih => exact ih (by simp)
  | case5 position before start outer rest ih =>
      have earlier := began _ rfl
      exact ih (by simp at earlier ⊢; omega)
  | case6 position before start outer character rest other ih =>
      have earlier := began _ rfl
      refine List.pairwise_cons.mpr ⟨fun run member => ?_, ih (by simp)⟩
      have later := bounds_of_mem_collectFrom (Nat.le_refl _) (by simp) member
      dsimp only at earlier ⊢
      omega

end Run

namespace Inline

theorem fitsIn_of_mem_pairSpans {length : Nat} {runs : List Run}
    (ordered : runs.Pairwise fun first second => first.start ≤ second.start)
    (fit : ∀ run ∈ runs, run.start ≤ run.stop ∧ run.stop ≤ length) :
    ∀ span ∈ pairSpans runs, span.FitsIn length := by
  fun_induction pairSpans runs with
  | case1 => simp
  | case2 run rest alone ih =>
      exact ih (List.pairwise_cons.mp ordered).2
        (List.forall_mem_cons.mp fit).2
  | case3 run rest closer after found ih =>
      obtain ⟨behind, orderedRest⟩ := List.pairwise_cons.mp ordered
      obtain ⟨-, fitRest⟩ := List.forall_mem_cons.mp fit
      have part : (closer :: after).Sublist rest :=
        found ▸ List.dropWhile_sublist _
      have inRest : closer ∈ rest := part.subset List.mem_cons_self
      have tail : after.Sublist rest := (List.sublist_cons_self _ _).trans part
      refine List.forall_mem_cons.mpr ⟨?_, ?_⟩
      · exact ⟨Nat.le_trans (behind closer inRest) (fitRest closer inRest).1,
          (fitRest closer inRest).2⟩
      · exact ih (orderedRest.sublist tail)
          fun run member => fitRest run (tail.subset member)

theorem fitsIn_of_mem_codeSpans {text : Text} :
    ∀ span ∈ codeSpans text, span.FitsIn text.length := by
  rw [codeSpans_eq_pairSpans]
  refine fitsIn_of_mem_pairSpans (Run.pairwise_collectFrom (by simp)) ?_
  intro run member
  have bounds := Run.bounds_of_mem_collectFrom (Nat.le_refl 0) (by simp) member
  rw [Nat.zero_add] at bounds
  exact bounds.2

end Inline

/-! ## Comments -/

namespace Comment

theorem fitsIn_of_mem_codeSpansFrom {content : Text} {position : Nat}
    (inside : position ≤ content.length) :
    ∀ span ∈ codeSpansFrom content position, span.FitsIn content.length := by
  intro span member
  obtain ⟨found, inFound, rfl⟩ := List.mem_map.mp member
  obtain ⟨ordered, fits⟩ := Inline.fitsIn_of_mem_codeSpans found inFound
  rw [List.length_drop] at fits
  constructor
  · exact Nat.add_le_add_right ordered position
  · dsimp only
    omega

theorem findFrom_fits (content : Text) (spans : List Span)
    (steps position : Nat) :
    (∀ span ∈ (findFrom content spans steps position).hidden,
        span.FitsIn content.length) ∧
      ∀ start ∈ (findFrom content spans steps position).dangling,
        start < content.length := by
  fun_induction findFrom content spans steps position with
  | case1 => simp
  | case2 => simp
  | case3 steps position start found inCode ih => exact ih
  | case4 steps position start found outside stop closed rest ih =>
      have opens := Text.bounds_of_findFrom? found (by decide)
      have closes := Text.bounds_of_findFrom? closed (by decide)
      have length : closer.length = 3 := rfl
      refine ⟨List.forall_mem_cons.mpr ⟨⟨?_, ?_⟩, ih.1⟩, ih.2⟩
      · dsimp only
        omega
      · dsimp only
        omega
  | case5 steps position start found outside unclosed =>
      have opens := Text.bounds_of_findFrom? found (by decide)
      have length : opener.length = 4 := rfl
      refine ⟨by simp, fun at_ dangles => ?_⟩
      obtain rfl := Option.some.inj dangles
      omega

/-- The spans that are blanked out behind a position; `hidden` is what a comment
from an earlier line takes up. -/
def blankedFrom (place : Inline.Place) (lastClose : Option Nat) (position : Nat)
    (hidden : List Span) : List Span :=
  let spans := codeSpansFrom place.content position
  let found := findFrom place.content spans (place.content.length + 1) position
  let dangling := found.dangling.filter fun start =>
    lastClose.any (place.offset + start < ·)
  hidden ++ found.hidden
    ++ (dangling.toList.map fun start => ⟨start, place.content.length⟩) ++ spans

section

variable {place : Inline.Place} (lastClose : Option Nat) {position : Nat}
  (inside : position ≤ place.content.length) {hidden : List Span}
  (fit : ∀ span ∈ hidden, span.FitsIn place.content.length)

include inside fit

theorem fitsIn_of_mem_blankedFrom :
    ∀ span ∈ blankedFrom place lastClose position hidden,
      span.FitsIn place.content.length := by
  have found := findFrom_fits place.content
    (codeSpansFrom place.content position) (place.content.length + 1) position
  intro span member
  simp only [blankedFrom, List.mem_append, List.mem_map, Option.mem_toList,
    Option.filter_eq_some_iff] at member
  rcases member with ((inHidden | inFound) | ⟨start, ⟨dangles, -⟩, rfl⟩) | inCode
  · exact fit span inHidden
  · exact found.1 span inFound
  · exact ⟨Nat.le_of_lt (found.2 start dangles), Nat.le_refl _⟩
  · exact fitsIn_of_mem_codeSpansFrom inside span inCode

theorem isMasked_maskFrom (closed : List (Nat × Text)) :
    place.content.IsMasked (blankedFrom place lastClose position hidden)
      (maskFrom place lastClose position hidden closed).text :=
  Inline.isMasked_blank (fitsIn_of_mem_blankedFrom lastClose inside fit)

end

/-- The spans that are blanked out on a line, where `pending` is the comment open at
its start. -/
def blanked (place : Inline.Place) (lastClose : Option Nat) :
    (pending : Option Pending) → List Span
  | none => blankedFrom place lastClose 0 []
  | some _ =>
    match Text.find? closer place.content with
    | none => [⟨0, place.content.length⟩]
    | some stop => blankedFrom place lastClose (stop + 3) [⟨0, stop + 3⟩]

theorem isMasked_mask (place : Inline.Place) (lastClose : Option Nat)
    (pending : Option Pending) :
    place.content.IsMasked (blanked place lastClose pending)
      (mask place lastClose pending).text := by
  cases pending with
  | none => exact isMasked_maskFrom lastClose (Nat.zero_le _) (by simp) []
  | some open_ =>
      unfold mask blanked
      dsimp only
      cases found : Text.find? closer place.content with
      | none => exact Inline.isMasked_replicate place.content
      | some stop =>
          have fits := (Text.prefix_of_find? found).length_le
          have length : closer.length = 3 := rfl
          rw [List.length_drop] at fits
          have inside : stop + 3 ≤ place.content.length := by omega
          refine isMasked_maskFrom lastClose inside ?_ _
          exact List.forall_mem_singleton.mpr ⟨Nat.zero_le _, inside⟩

/-- A masked line shows nothing but the line. -/
theorem shows_mask (place : Inline.Place) (lastClose : Option Nat)
    (pending : Option Pending) :
    Inline.Shows place.content (mask place lastClose pending).text :=
  Inline.Shows.of_isMasked (isMasked_mask place lastClose pending)

theorem length_mask (place : Inline.Place) (lastClose : Option Nat)
    (pending : Option Pending) :
    (mask place lastClose pending).text.length = place.content.length :=
  (shows_mask place lastClose pending).length

end Comment

end AnchorLint
