import AnchorLint.Proofs.Rule.Course
import Mathlib.Data.List.Infix

/-!
# Brackets of captures and restores

A comment may capture which rules are off, and a later one may restore them.  Between
the two there may be further captures, as long as each of them is restored before.
Such a bracket leaves no trace: behind it the running coverage and the coverages that
wait to be restored are those from before it.  Its regions end with it, and those that
were open before are open again at the latest on the line behind it.  So on later
lines the regions of spans are the same as without the bracket, whatever comments
follow.
-/

namespace AnchorLint

namespace Replay

/-- A replay that goes on with comments in order. -/
def feedAll (replay : Replay) (fed : List (Nat × Directive)) : Replay :=
  fed.foldl (fun replay entry => replay.feed entry.1 entry.2) replay

@[simp]
theorem feedAll_concat (replay : Replay) (fed : List (Nat × Directive))
    (entry : Nat × Directive) :
    replay.feedAll (fed ++ [entry]) =
      (replay.feedAll fed).feed entry.1 entry.2 := by
  simp [feedAll]

theorem ofDirectives_append (first second : List (Nat × Directive)) :
    ofDirectives (first ++ second) = (ofDirectives first).feedAll second :=
  List.foldl_append

/-! ## Balanced comments -/

/-- How many of some comments ask for an action. -/
def count (action : Action) (fed : List (Nat × Directive)) : Nat :=
  fed.countP fun entry => entry.2.action == action

/-- Whether comments in order restore what they capture and nothing else: up to each
of them there are no more restores than captures, and in the end there are as many. -/
structure IsBalanced (fed : List (Nat × Directive)) : Prop where
  restores_le : ∀ first, first <+: fed → count .restore first ≤ count .capture first
  restores_eq : count .restore fed = count .capture fed

instance (fed : List (Nat × Directive)) : Decidable (IsBalanced fed) :=
  decidable_of_iff
    ((∀ first ∈ fed.inits, count .restore first ≤ count .capture first) ∧
      count .restore fed = count .capture fed)
    ⟨fun ⟨le, eq⟩ => ⟨fun first part => le first ((List.mem_inits _ _).mpr part), eq⟩,
      fun ⟨le, eq⟩ => ⟨fun first part => le first ((List.mem_inits _ _).mp part), eq⟩⟩

theorem captured_moveTo (line : Nat) (coverage : Coverage) (replay : Replay) :
    (replay.moveTo line coverage).captured = replay.captured := by
  obtain ⟨openSince, closed, equal⟩ := moveTo_keeps line coverage replay
  rw [equal]

/-- What a comment does to the coverages that wait to be restored. -/
theorem captured_feed (replay : Replay) (line : Nat) (directive : Directive) :
    (replay.feed line directive).captured =
      match directive.action with
      | .capture => replay.coverage :: replay.captured
      | .restore => replay.captured.tail
      | _ => replay.captured := by
  unfold feed
  cases directive.action with
  | disable => exact captured_moveTo _ _ _
  | enable => exact captured_moveTo _ _ _
  | capture => rfl
  | restore =>
      cases stack : replay.captured with
      | nil =>
          dsimp only
          rw [captured_moveTo, stack]
          rfl
      | cons coverage captured => exact captured_moveTo _ _ _
  | disableLine => rfl
  | disableNextLine => rfl
  | disableFile => rfl
  | enableFile => rfl
  | configureFile =>
      dsimp only
      rw [configure_eq]

theorem coverage_of_restore {replay : Replay} {directive : Directive}
    (restores : directive.action = .restore) {coverage : Coverage}
    {captured : List Coverage} (stack : replay.captured = coverage :: captured)
    (line : Nat) :
    (replay.feed line directive).coverage = coverage := by
  unfold feed
  rw [restores, stack]
  rfl

/-- Whatever balanced comments capture lies above what was captured before. -/
theorem exists_captured {fed first : List (Nat × Directive)} (balanced : IsBalanced fed)
    (part : first <+: fed) (replay : Replay) :
    ∃ above, (replay.feedAll first).captured = above ++ replay.captured ∧
      above.length + count .restore first = count .capture first := by
  induction first using List.reverseRecOn with
  | nil => exact ⟨[], rfl, rfl⟩
  | append_singleton first entry ih =>
      obtain ⟨above, stack, many⟩ := ih ((List.prefix_append _ _).trans part)
      have few := balanced.restores_le _ part
      rw [feedAll_concat, captured_feed, stack]
      simp only [count, List.countP_append, List.countP_singleton] at few many ⊢
      cases action : entry.2.action with
      | capture =>
          refine ⟨_ :: above, rfl, ?_⟩
          simp
          omega
      | restore =>
          cases above with
          | nil =>
              simp [action] at few many
              omega
          | cons coverage above =>
              refine ⟨above, rfl, ?_⟩
              simp at many ⊢
              omega
      | _ => exact ⟨above, rfl, by simpa using many⟩

section

variable {opening closing : Nat} {capture restore : Directive}
  {inside : List (Nat × Directive)}

/-- Behind a bracket the running coverage and the captured ones are those from before
it. -/
theorem running_bracket (captures : capture.action = .capture)
    (restores : restore.action = .restore) (balanced : IsBalanced inside)
    (replay : Replay) :
    (replay.feedAll
        ((opening, capture) :: inside ++ [(closing, restore)])).coverage =
      replay.coverage ∧
    (replay.feedAll
        ((opening, capture) :: inside ++ [(closing, restore)])).captured =
      replay.captured := by
  obtain ⟨above, stack, many⟩ := exists_captured balanced (List.prefix_refl _)
    (replay.feed opening capture)
  obtain rfl : above = [] := List.length_eq_zero_iff.mp (by
    have same := balanced.restores_eq
    omega)
  have stack : (replay.feedAll ((opening, capture) :: inside)).captured =
      replay.coverage :: replay.captured := by
    change ((replay.feed opening capture).feedAll inside).captured = _
    rw [stack, captured_feed, captures]
    rfl
  rw [feedAll_concat]
  refine ⟨coverage_of_restore restores stack closing, ?_⟩
  rw [captured_feed, restores, stack]
  rfl

end

/-! ## Replays that agree over a line -/

theorem covered_moveTo {replay : Replay} (consistent : replay.Consistent)
    (line : Nat) (coverage : Coverage) (switch : Switch) (at_ : Nat) :
    (replay.moveTo line coverage).Covered switch at_ ↔
      replay.Covered switch at_ ∨
        switch ∉ coverage.switches ∧ replay.Begun switch at_ ∧ at_ ≤ line := by
  unfold Covered Begun
  simp only [mem_closed_moveTo consistent, or_and_right, exists_or]
  refine or_congr_right ?_
  constructor
  · rintro ⟨region, ⟨other, first, member, gone, -, rfl⟩, rule, source, covers⟩
    obtain rfl : other = switch := Prod.ext rule source
    simp only [Region.covers, Option.all_some, Bool.and_eq_true,
      decide_eq_true_eq] at covers
    exact ⟨gone, ⟨first, member, covers.1⟩, covers.2⟩
  · rintro ⟨gone, ⟨first, member, begun⟩, upTo⟩
    refine ⟨_, ⟨switch, first, member, gone, Nat.le_trans begun upTo, rfl⟩, rfl, rfl,
      ?_⟩
    simp [Region.covers, begun, upTo]

theorem begun_moveTo {replay : Replay} (consistent : replay.Consistent)
    (line : Nat) (coverage : Coverage) (switch : Switch) (at_ : Nat) :
    (replay.moveTo line coverage).Begun switch at_ ↔
      switch ∈ coverage.switches ∧
        if switch ∈ replay.coverage.switches then replay.Begun switch at_
        else line + 1 ≤ at_ := by
  unfold Begun
  simp only [mem_openSince_moveTo consistent, and_assoc, exists_and_left]
  refine and_congr_right fun _ => ?_
  split <;> simp

/-- Whether two replays are in the same course, and over a line the same regions of
spans are closed and the same are open. -/
structure Alike (line : Nat) (first second : Replay) : Prop where
  coverage : first.coverage = second.coverage
  captured : first.captured = second.captured
  covered : ∀ switch : Switch, IsSpanSource switch.2 →
    (first.Covered switch line ↔ second.Covered switch line)
  begun : ∀ switch, first.Begun switch line ↔ second.Begun switch line

namespace Alike

variable {line : Nat} {first second : Replay}

theorem spans (alike : Alike line first second) {switch : Switch}
    (isSpan : IsSpanSource switch.2) :
    first.Spans switch line ↔ second.Spans switch line :=
  or_congr (alike.covered switch isSpan) (alike.begun switch)

theorem moveTo (alike : Alike line first second) (consistent : first.Consistent)
    (other : second.Consistent) (number : Nat) (coverage : Coverage) :
    Alike line (first.moveTo number coverage) (second.moveTo number coverage) where
  coverage := rfl
  captured := by
    rw [captured_moveTo, captured_moveTo, alike.captured]
  covered := fun switch isSpan => by
    rw [covered_moveTo consistent, covered_moveTo other, alike.covered switch isSpan,
      alike.begun]
  begun := fun switch => by
    rw [begun_moveTo consistent, begun_moveTo other, alike.coverage, alike.begun]

theorem addLine (alike : Alike line first second) (number : Nat)
    {source : RegionSource} (notSpan : ¬ IsSpanSource source) (rules : List Text) :
    Alike line (first.addLine number source rules)
      (second.addLine number source rules) := by
  refine ⟨alike.coverage, alike.captured, fun switch isSpan => ?_, alike.begun⟩
  rw [covered_addLine first _ notSpan _ _ isSpan,
    covered_addLine second _ notSpan _ _ isSpan]
  exact alike.covered switch isSpan

/-- One more comment, on whatever line, keeps replays alike. -/
theorem feed (alike : Alike line first second) (consistent : first.Consistent)
    (other : second.Consistent) (number : Nat) (directive : Directive) :
    Alike line (first.feed number directive) (second.feed number directive) := by
  unfold Replay.feed
  cases directive.action with
  | disable =>
      dsimp only
      rw [← alike.coverage]
      exact alike.moveTo consistent other number _
  | enable =>
      dsimp only
      rw [← alike.coverage]
      exact alike.moveTo consistent other number _
  | capture =>
      refine { alike with captured := ?_ }
      dsimp only
      rw [alike.coverage, alike.captured]
  | restore =>
      cases stack : first.captured with
      | nil =>
          rw [← alike.captured, stack]
          exact alike.moveTo consistent other number _
      | cons coverage captured =>
          rw [← alike.captured, stack]
          have popped : Alike line { first with captured := captured }
              { second with captured := captured } := { alike with captured := rfl }
          exact popped.moveTo (consistent.pop stack)
            (other.pop (alike.captured ▸ stack)) number coverage
  | disableLine => exact alike.addLine number (by simp [IsSpanSource]) _
  | disableNextLine => exact alike.addLine _ (by simp [IsSpanSource]) _
  | disableFile => exact { alike with }
  | enableFile => exact { alike with }
  | configureFile =>
      dsimp only
      rw [configure_eq, configure_eq _ second]
      exact { alike with }

theorem feedAll (alike : Alike line first second) (consistent : first.Consistent)
    (other : second.Consistent) (fed : List (Nat × Directive)) :
    Alike line (first.feedAll fed) (second.feedAll fed) := by
  induction fed generalizing first second with
  | nil => exact alike
  | cons entry fed ih =>
      exact ih (alike.feed consistent other entry.1 entry.2)
        (consistent.feed entry.1 entry.2) (other.feed entry.1 entry.2)

/-- Behind everything that was fed, replays in the same course are alike. -/
theorem of_course {last : Nat} (behind : last < line)
    (consistent : first.Consistent) (other : second.Consistent)
    (ends : first.EndsBy last) (otherEnds : second.EndsBy last)
    (coverage : first.coverage = second.coverage)
    (captured : first.captured = second.captured) : Alike line first second := by
  refine ⟨coverage, captured, fun switch isSpan => ?_, fun switch => ?_⟩
  · exact iff_of_false (ends.not_covered behind isSpan)
      (otherEnds.not_covered behind isSpan)
  · rw [ends.begun_iff consistent behind, otherEnds.begun_iff other behind, coverage]

end Alike

/-! ## What a bracket leaves behind -/

/-- A bracket leaves no trace.  From whatever replay it is fed to, the running coverage
and the captured ones are behind it what they were before it.  And where it comes in
order behind other comments, the regions of spans over all lines behind it are those
that there are without it, whatever is fed later. -/
theorem bracket_is_transparent {opening closing : Nat} {capture restore : Directive}
    {inside : List (Nat × Directive)} (captures : capture.action = .capture)
    (restores : restore.action = .restore) (balanced : IsBalanced inside) :
    let bracket := (opening, capture) :: inside ++ [(closing, restore)]
    (∀ replay : Replay,
      (replay.feedAll bracket).coverage = replay.coverage ∧
        (replay.feedAll bracket).captured = replay.captured) ∧
    ∀ before after : List (Nat × Directive),
      (∀ entry ∈ before ++ bracket, entry.1 ≤ closing) →
      ∀ line, closing < line → ∀ rule source, IsSpanSource source →
        Region.anyOf (ofDirectives (before ++ bracket ++ after)).regions rule
            (some line) [source] =
          Region.anyOf (ofDirectives (before ++ after)).regions rule (some line)
            [source] := by
  intro bracket
  have running := @running_bracket opening closing _ _ _ captures restores balanced
  refine ⟨running, ?_⟩
  intro before after bounded line behind rule source isSpan
  have same : Alike line (ofDirectives (before ++ bracket)) (ofDirectives before) := by
    refine .of_course behind (consistent_ofDirectives _) (consistent_ofDirectives _)
      (endsBy_ofDirectives bounded) (endsBy_ofDirectives fun entry member =>
        bounded entry (List.mem_append_left _ member)) ?_ ?_
    · rw [ofDirectives_append]
      exact (running _).1
    · rw [ofDirectives_append]
      exact (running _).2
  have alike := same.feedAll (consistent_ofDirectives _) (consistent_ofDirectives _)
    after
  rw [← ofDirectives_append, ← ofDirectives_append] at alike
  rw [Bool.eq_iff_iff, anyOf_span rule line isSpan, anyOf_span rule line isSpan]
  exact alike.spans isSpan

/-- A bracket within a bracket, in which rules are switched on and off, among them all
at once.  Behind it the rule that was off before is off again, and it stays so until a
later comment. -/
theorem bracket_is_transparent_nested :
    let before : List (Nat × Directive) :=
      [(1, ⟨.disable, [Rule.linkFragments], []⟩)]
    let inside : List (Nat × Directive) :=
      [ (2, ⟨.enable, [Rule.all], []⟩), (3, ⟨.capture, [Rule.all], []⟩),
        (3, ⟨.disable, [Rule.all], []⟩),
        (4, ⟨.enable, [Rule.duplicateFootnotes], []⟩),
        (5, ⟨.restore, [Rule.all], []⟩) ]
    let bracket : List (Nat × Directive) :=
      (2, ⟨.capture, [Rule.all], []⟩) :: inside ++ [(6, ⟨.restore, [Rule.all], []⟩)]
    let after : List (Nat × Directive) := [(8, ⟨.enable, [Rule.all], []⟩)]
    IsBalanced inside ∧ (∀ entry ∈ before ++ bracket, entry.1 ≤ 6) ∧
      (ofDirectives (before ++ bracket)).coverage = .only [Rule.linkFragments] ∧
      Region.anyOf (ofDirectives (before ++ bracket ++ after)).regions
        Rule.linkFragments (some 8) [.disable] = true ∧
      Region.anyOf (ofDirectives (before ++ bracket ++ after)).regions
        Rule.linkFragments (some 9) [.disable] = false := by
  intro before inside bracket after
  have balanced : IsBalanced inside := by decide
  have bounded : ∀ entry ∈ before ++ bracket, entry.1 ≤ 6 := by decide
  obtain ⟨running, later⟩ := @bracket_is_transparent 2 6 ⟨.capture, [Rule.all], []⟩
    ⟨.restore, [Rule.all], []⟩ inside rfl rfl balanced
  refine ⟨balanced, bounded, ?_, ?_, ?_⟩
  · rw [ofDirectives_append, (running (ofDirectives before)).1]
    decide +kernel
  · rw [later before after bounded 8 (by decide) _ _ (.inl rfl)]
    decide +kernel
  · rw [later before after bounded 9 (by decide) _ _ (.inl rfl)]
    decide +kernel

end Replay

end AnchorLint
