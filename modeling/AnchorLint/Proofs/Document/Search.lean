import AnchorLint.Proofs.Document.Mask

/-!
# Code spans and comments of a line

Code spans are paired runs of backticks.  Runs on two sides of another character
are not joined, and two parts of the runs are paired on their own unless a span
goes from the one to the other.

The search for comments goes on from one opener to the next.  This file has one
equation for each way it may go, and from these it follows that what is found
behind a position depends on what is behind it.
-/

namespace AnchorLint

/-! ## Runs and pairs -/

namespace Run

/-- A character that is no marker separates the runs before it from those behind
it. -/
theorem collectFrom_append {marker cut : Char} (other : cut ≠ marker)
    (position : Nat) (before : Option Char)
    (current : Option (Nat × Option Char)) (first second : Text) :
    collectFrom marker position before current (first ++ cut :: second) =
      collectFrom marker position before current (first ++ [cut])
        ++ collectFrom marker (position + first.length + 1) (some cut) none
          second := by
  induction first generalizing position before current with
  | nil => cases current <;> simp [collectFrom, other]
  | cons character first ih =>
      have count : position + 1 + first.length + 1 =
          position + (first.length + 1) + 1 := by
        omega
      by_cases isMarker : character = marker
      · cases current <;> simp [collectFrom, isMarker, ih, count]
      · cases current <;> simp [collectFrom, isMarker, ih, count]

theorem start_lt_stop_of_mem_collectFrom {marker : Char} {position : Nat}
    {before : Option Char} {current : Option (Nat × Option Char)} {text : Text}
    (began : ∀ open_ ∈ current, open_.1 < position) {run : Run}
    (member : run ∈ collectFrom marker position before current text) :
    run.start < run.stop := by
  fun_induction collectFrom marker position before current text with
  | case1 => simp at member
  | case2 position before start outer =>
      obtain rfl := List.mem_singleton.mp member
      exact began _ rfl
  | case3 position before rest ih => exact ih (by simp) member
  | case4 position before character rest other ih => exact ih (by simp) member
  | case5 position before start outer rest ih =>
      have earlier := began _ rfl
      exact ih (by simp at earlier ⊢; omega) member
  | case6 position before start outer character rest other ih =>
      rcases List.mem_cons.mp member with rfl | inRest
      · exact began _ rfl
      · exact ih (by simp) inRest

theorem bounds_of_mem_collectFrom_none {marker : Char} {position : Nat}
    {before : Option Char} {text : Text} {run : Run}
    (member : run ∈ collectFrom marker position before none text) :
    position ≤ run.start ∧ run.start < run.stop ∧
      run.stop ≤ position + text.length := by
  have inside := bounds_of_mem_collectFrom (Nat.le_refl _) (by simp) member
  exact ⟨inside.1, start_lt_stop_of_mem_collectFrom (by simp) member, inside.2.2⟩

end Run

namespace Inline

theorem exists_runs_of_mem_pairSpans {runs : List Run} {span : Span}
    (member : span ∈ pairSpans runs) :
    ∃ opener ∈ runs, ∃ closer ∈ runs,
      span = ⟨opener.start, closer.stop⟩ := by
  fun_induction pairSpans runs with
  | case1 => simp at member
  | case2 run rest alone ih =>
      obtain ⟨opener, inRest, closer, closerIn, same⟩ := ih member
      exact ⟨opener, List.mem_cons_of_mem _ inRest, closer,
        List.mem_cons_of_mem _ closerIn, same⟩
  | case3 run rest closer after found ih =>
      have part : (closer :: after).Sublist rest :=
        found ▸ List.dropWhile_sublist _
      rcases List.mem_cons.mp member with rfl | later
      · exact ⟨run, List.mem_cons_self, closer,
          List.mem_cons_of_mem _ (part.subset List.mem_cons_self), rfl⟩
      · obtain ⟨opener, inAfter, last, lastIn, same⟩ := ih later
        have inRuns : ∀ other ∈ after, other ∈ run :: rest :=
          fun other inAfter => List.mem_cons_of_mem _
            (part.subset (List.mem_cons_of_mem _ inAfter))
        exact ⟨opener, inRuns opener inAfter, last, inRuns last lastIn, same⟩

/-- Two parts of the runs are paired on their own if no span goes from the one to
the other. -/
theorem pairSpans_append {first second : List Run}
    (apart : ∀ opener ∈ first, ∀ closer ∈ second,
      (⟨opener.start, closer.stop⟩ : Span) ∉ pairSpans (first ++ second)) :
    pairSpans (first ++ second) = pairSpans first ++ pairSpans second := by
  fun_induction pairSpans first with
  | case1 => rfl
  | case2 run rest alone ih =>
      have dropped : ((rest ++ second).dropWhile
          fun other => other.size != run.size) =
            second.dropWhile fun other => other.size != run.size := by
        rw [List.dropWhile_append, alone]
        rfl
      have same : pairSpans (run :: rest ++ second) =
          pairSpans (rest ++ second) := by
        refine pairSpans_of_eq_nil (dropped.trans ?_)
        cases found : second.dropWhile fun other => other.size != run.size with
        | nil => rfl
        | cons closer after =>
            have inSecond : closer ∈ second :=
              (List.dropWhile_sublist _).subset (found ▸ List.mem_cons_self)
            refine absurd ?_ (apart run List.mem_cons_self closer inSecond)
            rw [List.cons_append, pairSpans_of_eq_cons (dropped.trans found)]
            exact List.mem_cons_self
      rw [same]
      refine ih fun opener inFirst closer inSecond => ?_
      rw [← same]
      exact apart opener (List.mem_cons_of_mem _ inFirst) closer inSecond
  | case3 run rest closer after found ih =>
      have dropped : ((rest ++ second).dropWhile
          fun other => other.size != run.size) = closer :: (after ++ second) := by
        rw [List.dropWhile_append, found]
        rfl
      have same : pairSpans (run :: rest ++ second) =
          ⟨run.start, closer.stop⟩ :: pairSpans (after ++ second) :=
        pairSpans_of_eq_cons dropped
      have tail : after.Sublist rest :=
        (List.sublist_cons_self _ _).trans (found ▸ List.dropWhile_sublist _)
      rw [same, List.cons_append]
      refine congrArg (_ :: ·) (ih fun opener inFirst closer inSecond member => ?_)
      refine apart opener (List.mem_cons_of_mem _ (tail.subset inFirst)) closer
        inSecond ?_
      rw [same]
      exact List.mem_cons_of_mem _ member

end Inline

/-! ## Covered places -/

/-- Texts look the same without some spans if they agree outside of them. -/
theorem Inline.blank_congr {text other : Text} {spans others : List Span}
    (fit : ∀ span ∈ spans, span.FitsIn text.length)
    (otherFit : ∀ span ∈ others, span.FitsIn other.length)
    (length : other.length = text.length)
    (agree : ∀ index, Span.covered spans index = true ∧
        Span.covered others index = true ∨
      other[index]? = text[index]? ∧
        Span.covered others index = Span.covered spans index) :
    blank other others = blank text spans := by
  refine List.ext_getElem? fun index => ?_
  rw [getElem?_blank fit, getElem?_blank otherFit]
  rcases agree index with ⟨here, otherHere⟩ | ⟨sameText, sameCover⟩
  · simp only [here, otherHere, if_true]
    rcases Nat.lt_or_ge index text.length with short | long
    · rw [List.getElem?_eq_getElem short, List.getElem?_eq_getElem (length ▸ short)]
      rfl
    · rw [List.getElem?_eq_none long, List.getElem?_eq_none (length ▸ long)]
  · simp only [sameText, sameCover]

/-! ## The search -/

namespace Comment

section

variable {content : Text} {spans : List Span} {steps position start stop : Nat}

theorem findFrom_of_missing
    (missing : Text.findFrom? opener content position = none) :
    findFrom content spans (steps + 1) position = {} := by
  rw [findFrom, missing]

theorem findFrom_of_covered
    (found : Text.findFrom? opener content position = some start)
    (inCode : Span.covered spans start = true) :
    findFrom content spans (steps + 1) position =
      findFrom content spans steps (start + 4) := by
  rw [findFrom, found]
  exact if_pos inCode

theorem findFrom_of_closed
    (found : Text.findFrom? opener content position = some start)
    (outside : Span.covered spans start = false)
    (closed : Text.findFrom? closer content (start + 4) = some stop) :
    findFrom content spans (steps + 1) position =
      { findFrom content spans steps (stop + 3) with
        hidden := ⟨start, stop + 3⟩
          :: (findFrom content spans steps (stop + 3)).hidden
        bodies := content.slice (start + 4) stop
          :: (findFrom content spans steps (stop + 3)).bodies } := by
  rw [findFrom, found]
  refine (if_neg (Bool.eq_false_iff.mp outside)).trans ?_
  rw [closed]

theorem findFrom_of_unclosed
    (found : Text.findFrom? opener content position = some start)
    (outside : Span.covered spans start = false)
    (unclosed : Text.findFrom? closer content (start + 4) = none) :
    findFrom content spans (steps + 1) position =
      { dangling := some start } := by
  rw [findFrom, found]
  refine (if_neg (Bool.eq_false_iff.mp outside)).trans ?_
  rw [unclosed]

end

/-- What is found behind a position begins behind it, and comments begin outside of
code. -/
theorem le_of_findFrom (content : Text) (spans : List Span)
    (steps position : Nat) :
    (∀ comment ∈ (findFrom content spans steps position).hidden,
      position ≤ comment.start ∧ Span.covered spans comment.start = false) ∧
      ∀ start ∈ (findFrom content spans steps position).dangling,
        position ≤ start := by
  induction steps generalizing position with
  | zero => simp [findFrom]
  | succ steps ih =>
      cases found : Text.findFrom? opener content position with
      | none => simp [findFrom_of_missing found]
      | some start =>
          have opens := (Text.bounds_of_findFrom? found (by decide)).1
          -- What is found further behind is behind the position as well.
          have later {next : Nat} (behind : position ≤ next) :
              (∀ comment ∈ (findFrom content spans steps next).hidden,
                position ≤ comment.start ∧
                  Span.covered spans comment.start = false) ∧
                ∀ start ∈ (findFrom content spans steps next).dangling,
                  position ≤ start :=
            ⟨fun comment member => ((ih next).1 comment member).imp_left
                (Nat.le_trans behind),
              fun start member => Nat.le_trans behind ((ih next).2 start member)⟩
          cases inCode : Span.covered spans start with
          | true =>
              rw [findFrom_of_covered found inCode]
              exact later (by omega)
          | false =>
              cases closed : Text.findFrom? closer content (start + 4) with
              | none =>
                  rw [findFrom_of_unclosed found inCode closed]
                  simpa using opens
              | some stop =>
                  have closes := (Text.bounds_of_findFrom? closed (by decide)).1
                  obtain ⟨comments, dangling⟩ := @later (stop + 3) (by omega)
                  rw [findFrom_of_closed found inCode closed]
                  exact ⟨List.forall_mem_cons.mpr ⟨⟨opens, inCode⟩, comments⟩,
                    dangling⟩

theorem findFrom_congr {content other : Text} {spans others : List Span}
    {steps position : Nat}
    (same : other.drop position = content.drop position)
    (covered : ∀ index, position ≤ index →
      Span.covered others index = Span.covered spans index) :
    findFrom other others steps position =
      findFrom content spans steps position := by
  have drop_eq {next : Nat} (le : position ≤ next) :
      other.drop next = content.drop next := by
    obtain ⟨more, rfl⟩ := Nat.exists_eq_add_of_le le
    rw [← List.drop_drop, same, List.drop_drop]
  have found_eq (word : Text) {next : Nat} (le : position ≤ next) :
      Text.findFrom? word other next = Text.findFrom? word content next := by
    rw [Text.findFrom?, drop_eq le, Text.findFrom?]
  induction steps generalizing position with
  | zero => rfl
  | succ steps ih =>
      have onward {next : Nat} (le : position ≤ next) :
          findFrom other others steps next = findFrom content spans steps next :=
        ih (drop_eq le) (fun index behind => covered index
            (Nat.le_trans le behind))
          (fun further => drop_eq (Nat.le_trans le further))
          (fun word _ further => found_eq word (Nat.le_trans le further))
      have opens := found_eq opener (Nat.le_refl position)
      cases found : Text.findFrom? opener content position with
      | none => rw [findFrom_of_missing found, findFrom_of_missing (opens.trans found)]
      | some start =>
          have le := (Text.bounds_of_findFrom? found (by decide)).1
          have closes := @found_eq closer (start + 4) (by omega)
          have sameCover := covered start le
          cases inCode : Span.covered spans start with
          | true =>
              rw [findFrom_of_covered found inCode, findFrom_of_covered
                (opens.trans found) (sameCover.trans inCode)]
              exact onward (by omega)
          | false =>
              cases closed : Text.findFrom? closer content (start + 4) with
              | none =>
                  rw [findFrom_of_unclosed found inCode closed,
                    findFrom_of_unclosed (opens.trans found)
                      (sameCover.trans inCode) (closes.trans closed)]
              | some stop =>
                  have behind := (Text.bounds_of_findFrom? closed (by decide)).1
                  rw [findFrom_of_closed found inCode closed,
                    findFrom_of_closed (opens.trans found)
                      (sameCover.trans inCode) (closes.trans closed),
                    onward (by omega), Text.slice, drop_eq (by omega), Text.slice]

theorem mem_hidden_of_closed {content : Text} {spans : List Span}
    {steps position start stop : Nat}
    (found : Text.findFrom? opener content position = some start)
    (outside : Span.covered spans start = false)
    (closed : Text.findFrom? closer content (start + 4) = some stop)
    {comment : Span}
    (member : comment ∈ (findFrom content spans (steps + 1) position).hidden) :
    comment = ⟨start, stop + 3⟩ ∨
      stop + 3 ≤ comment.start ∧
        comment ∈ (findFrom content spans steps (stop + 3)).hidden := by
  rw [findFrom_of_closed found outside closed] at member
  refine (List.mem_cons.mp member).imp_right fun later => ⟨?_, later⟩
  exact ((le_of_findFrom content spans steps (stop + 3)).1 comment later).1

theorem start_le_of_mem_hidden {content : Text} {spans : List Span}
    {steps position start : Nat}
    (found : Text.findFrom? opener content position = some start) {comment : Span}
    (member : comment ∈ (findFrom content spans steps position).hidden) :
    start ≤ comment.start := by
  cases steps with
  | zero => simp [findFrom] at member
  | succ steps =>
      cases inCode : Span.covered spans start with
      | true =>
          rw [findFrom_of_covered found inCode] at member
          exact Nat.le_of_add_right_le
            ((le_of_findFrom content spans steps _).1 comment member).1
      | false =>
          cases closed : Text.findFrom? closer content (start + 4) with
          | none => simp [findFrom_of_unclosed found inCode closed] at member
          | some stop =>
              have closes := (Text.bounds_of_findFrom? closed (by decide)).1
              rcases mem_hidden_of_closed found inCode closed member with
                rfl | ⟨behind, -⟩
              · exact Nat.le_refl _
              · omega

/-- What the search for comments behind a position finds on a line. -/
def search (content : Text) (position : Nat) : Found :=
  findFrom content (codeSpansFrom content position) (content.length + 1) position

theorem maskFrom_eq (place : Inline.Place) (lastClose : Option Nat)
    (position : Nat) (hidden : List Span) (closed : List (Nat × Text)) :
    maskFrom place lastClose position hidden closed =
      { text := Inline.blank place.content
          (blankedFrom place lastClose position hidden)
        closed := closed ++ (search place.content position).bodies.map
          fun body => (place.line, body)
        pending := ((search place.content position).dangling.filter fun start =>
          lastClose.any (place.offset + start < ·)).map fun start =>
            ⟨place.line, [place.content.drop (start + 4)]⟩ } := rfl

end Comment

end AnchorLint
