import AnchorLint.Proofs.Rule.Course

/-!
# Rules that the configuration switches off

Data in a comment may set a rule to false, which switches it off for the whole
document.  Comments that switch rules off and on for the whole document have regions of
the same kinds, and a rule that they switch on again while all rules are off stays on,
whatever the configuration says.  In every other case the last value that is set for a
rule decides alone if it is false, wherever its comment stands among the others.
-/

namespace AnchorLint

def Value.isFalse : Value → Bool
  | .bool false => true
  | _ => false

theorem Value.isFalse_iff (value : Value) :
    value.isFalse = true ↔ value = .bool false := by
  unfold Value.isFalse
  split <;> simp_all

instance (found : Option Value) : Decidable (found = some (.bool false)) :=
  decidable_of_iff (found.any Value.isFalse = true)
    (by cases found <;> simp [Value.isFalse_iff])

namespace Course

/-- Comments in order without those that hold data. -/
def withoutData (fed : List (Nat × Directive)) : List (Nat × Directive) :=
  fed.filter fun entry => entry.2.action != .configureFile

end Course

namespace Replay

variable {fed : List (Nat × Directive)}

theorem moveTo_withConfiguration {replay : Replay}
    (wellFormed : replay.coverage.WellFormed) (line : Nat) (coverage : Coverage)
    (configuration : Entries Text Value) (oversized : Option Nat) :
    moveTo line coverage
        { replay with configuration := configuration, oversized := oversized } =
      { replay.moveTo line coverage with
        configuration := configuration
        oversized := oversized } := by
  rw [moveTo_eq line coverage wellFormed]
  exact moveTo_eq line coverage wellFormed

/-- A comment that holds no data is fed alike whatever the configuration is. -/
theorem feed_withConfiguration {replay : Replay} (consistent : replay.Consistent)
    (line : Nat) {directive : Directive}
    (noData : directive.action ≠ .configureFile) (configuration : Entries Text Value)
    (oversized : Option Nat) :
    feed { replay with configuration := configuration, oversized := oversized } line
        directive =
      { replay.feed line directive with
        configuration := configuration
        oversized := oversized } := by
  unfold feed
  cases action : directive.action with
  | disable => exact moveTo_withConfiguration consistent.coverage line _ _ _
  | enable => exact moveTo_withConfiguration consistent.coverage line _ _ _
  | restore =>
      cases stack : replay.captured with
      | nil =>
          have moved := moveTo_withConfiguration consistent.coverage line (.only [])
            configuration oversized
          simpa [stack] using moved
      | cons coverage captured =>
          have moved := moveTo_withConfiguration (consistent.pop stack).coverage line
            coverage configuration oversized
          simpa [stack] using moved
  | capture => rfl
  | disableLine => rfl
  | disableNextLine => rfl
  | disableFile => rfl
  | enableFile => rfl
  | configureFile => exact absurd action noData

/-- Without the comments that hold data a replay lacks the configuration and nothing
else. -/
theorem ofDirectives_withoutData (fed : List (Nat × Directive)) :
    ofDirectives (Course.withoutData fed) =
      { ofDirectives fed with configuration := [], oversized := none } := by
  induction fed using List.reverseRecOn with
  | nil => rfl
  | append_singleton fed entry ih =>
      rw [ofDirectives_concat, Course.withoutData, List.filter_append]
      change ofDirectives (Course.withoutData fed ++ _) = _
      by_cases data : entry.2.action = .configureFile
      · have dropped : [entry].filter (fun entry => entry.2.action != .configureFile) =
            [] := by simp [data]
        rw [dropped, List.append_nil, ih, feed, data]
        dsimp only
        rw [configure_eq]
      · have kept : [entry].filter (fun entry => entry.2.action != .configureFile) =
            [entry] := by simp [data]
        rw [kept, ofDirectives_concat, ih,
          feed_withConfiguration (consistent_ofDirectives fed) entry.1 data]

theorem fileOff_withoutData (fed : List (Nat × Directive)) :
    Course.fileOff (Course.withoutData fed) = Course.fileOff fed := by
  rw [← isOff_file_ofDirectives, ofDirectives_withoutData, isOff_file_ofDirectives]

theorem lineOff_withoutData (fed : List (Nat × Directive)) (rule : Text) (line : Nat) :
    Course.lineOff (Course.withoutData fed) rule line =
      Course.lineOff fed rule line := by
  rw [Course.lineOff, Course.withoutData, List.any_filter, Course.lineOff]
  refine congrArg fed.any (funext fun entry => ?_)
  cases entry.2.action <;> simp

/-- While the comments leave all rules off for the whole document, the configuration
says nothing. -/
theorem isDisabledAt_withoutData (allOff : Course.fileOff fed Rule.all = true)
    (rule : Text) (line : Nat) :
    Region.isDisabledAt (ofDirectives fed).regions rule line =
      Region.isDisabledAt (ofDirectives (Course.withoutData fed)).regions rule
        line := by
  have spans (name : Text) :
      (ofDirectives (Course.withoutData fed)).SpansOff name line ↔
        (ofDirectives fed).SpansOff name line := by
    rw [ofDirectives_withoutData]
    exact Iff.rfl
  rw [Bool.eq_iff_iff, isDisabledAt_iff, isDisabledAt_iff, fileOff_withoutData,
    lineOff_withoutData, spans]
  simp [allOff]

/-- A rule that the configuration sets to false last is off at every line, unless the
comments for the whole document leave all rules off and this one on: then it is off
where it is off without the configuration. -/
theorem isDisabledAt_of_configured {rule : Text}
    (setOff : Course.configured fed (Rule.normalize rule) = some (.bool false))
    (line : Nat) :
    Region.isDisabledAt (ofDirectives fed).regions rule line = true ↔
      (Course.fileOff fed Rule.all = true →
          Course.fileOff fed (Rule.normalize rule) = true) ∨
        Region.isDisabledAt (ofDirectives (Course.withoutData fed)).regions rule
          line = true := by
  cases allOff : Course.fileOff fed Rule.all with
  | true =>
      rw [← isDisabledAt_withoutData allOff, isDisabledAt_iff]
      simp only [forall_const]
      exact ⟨Or.inr, Or.rec (fun off => Or.inl (Or.inl off)) id⟩
  | false =>
      have off : Region.isDisabledAt (ofDirectives fed).regions rule line = true :=
        (isDisabledAt_iff rule line).mpr (Or.inl (Or.inr ⟨allOff, Or.inl setOff⟩))
      simp [off]

/-- All rules are switched off for the whole document and one of them is switched on
again: it is on, although the data in the last comment sets it to false. -/
theorem configured_off_reenabled :
    let fed : List (Nat × Directive) :=
      [ (1, ⟨.disableFile, [Rule.all], []⟩),
        (2, ⟨.enableFile, [Rule.linkFragments], []⟩),
        (3, ⟨.configureFile, [], "\x7b\"MD051\": false\x7d".toList⟩) ]
    Course.configured fed (Rule.normalize "MD051".toList) = some (.bool false) ∧
      Region.isDisabledAt (ofDirectives fed).regions "MD051".toList 4 = false := by
  intro fed
  have ordered : fed.Pairwise fun first second => first.1 ≤ second.1 := by decide
  refine ⟨by decide +kernel, Bool.eq_false_iff.mpr fun disabled => ?_⟩
  rw [isDisabledAt_iff, spansOff_iff ordered] at disabled
  exact absurd disabled (by decide +kernel)

/-- Data sets a rule to false by another of its names.  Comments that switch rules on,
before and behind it, change nothing. -/
theorem isDisabledAt_of_configured_alias :
    let fed : List (Nat × Directive) :=
      [ (1, ⟨.enableFile, [Rule.linkFragments], []⟩),
        (2, ⟨.configureFile, [], "\x7b\"link-fragments\": false\x7d".toList⟩),
        (5, ⟨.enable, [Rule.all], []⟩) ]
    Course.configured fed (Rule.normalize "md051".toList) = some (.bool false) ∧
      ∀ line, Region.isDisabledAt (ofDirectives fed).regions "md051".toList line =
        true := by
  intro fed
  have setOff : Course.configured fed (Rule.normalize "md051".toList) =
      some (.bool false) := by decide +kernel
  have allOn : Course.fileOff fed Rule.all = false := by decide
  refine ⟨setOff, fun line => (isDisabledAt_of_configured setOff line).mpr (Or.inl ?_)⟩
  exact fun allOff => absurd (allOn.symm.trans allOff) (by simp)

end Replay

end AnchorLint
