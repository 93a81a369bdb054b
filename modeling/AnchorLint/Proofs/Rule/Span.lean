import AnchorLint.Proofs.Rule.Replay

/-!
# Regions over a line

A region of a span begins behind the comment that opens it and ends on the line
of the comment that closes it.  Comments come in the order of their lines, so a
comment never changes which regions lie over its own line or over earlier ones,
and behind it the regions are those of the running coverage.  Consequently a
switch has a region over a line exactly if it belongs to the coverage that the
comments before that line lead to.
-/

namespace AnchorLint

namespace Replay

/-- Whether a switch has a region over a line: a closed one that covers it, or
an open one that has begun. -/
def Spans (replay : Replay) (switch : Switch) (line : Nat) : Prop :=
  (∃ region ∈ replay.closed, region.rule = switch.1 ∧
      region.source = switch.2 ∧ region.covers line = true) ∨
    ∃ first, (switch, first) ∈ replay.openSince ∧ first ≤ line

/-- Whether a closed region of a switch is over a line. -/
def Covered (replay : Replay) (switch : Switch) (line : Nat) : Prop :=
  ∃ region ∈ replay.closed, region.rule = switch.1 ∧ region.source = switch.2 ∧
    region.covers line = true

/-- Whether an open region of a switch is over a line. -/
def Begun (replay : Replay) (switch : Switch) (line : Nat) : Prop :=
  ∃ first, (switch, first) ∈ replay.openSince ∧ first ≤ line

/-- The sources of regions that span lines between two comments. -/
def IsSpanSource (source : RegionSource) : Prop :=
  source = .disable ∨ source = .enable

/-- Nothing in a replay reaches beyond the last line that was fed: regions of
spans end there, and open ones begin at the latest behind it. -/
structure EndsBy (replay : Replay) (last : Nat) : Prop where
  closed : ∀ region ∈ replay.closed, IsSpanSource region.source →
    ∃ stop ≤ last, region.lastLine = some stop
  opened : ∀ entry ∈ replay.openSince, entry.2 ≤ last + 1

theorem mem_closing {line : Nat} {openSince : Entries Switch Nat}
    (nodup : openSince.keys.Nodup) {switch : Switch} {region : Region} :
    closing line openSince switch = some region ↔
      ∃ first, (switch, first) ∈ openSince ∧ first ≤ line ∧
        region = ⟨switch.1, first, some line, switch.2⟩ := by
  simp only [closing, Option.bind_eq_some_iff, Option.ite_none_right_eq_some,
    Entries.lookup_eq_some_iff_mem nodup, Option.some.injEq]
  constructor
  · rintro ⟨first, member, reached, rfl⟩
    exact ⟨first, member, reached, rfl⟩
  · rintro ⟨first, member, reached, rfl⟩
    exact ⟨first, member, reached, rfl⟩

/-- The closed regions behind a move: those from before, and one for every
switch that ends here and did not begin behind this line. -/
theorem mem_closed_moveTo {replay : Replay} (consistent : replay.Consistent)
    (line : Nat) (coverage : Coverage) (region : Region) :
    region ∈ (replay.moveTo line coverage).closed ↔
      region ∈ replay.closed ∨
        ∃ switch first, (switch, first) ∈ replay.openSince ∧
          switch ∉ coverage.switches ∧ first ≤ line ∧
          region = ⟨switch.1, first, some line, switch.2⟩ := by
  rw [moveTo_eq line coverage consistent.coverage]
  simp only [List.mem_append, List.mem_filterMap, Switch.mem_difference,
    mem_closing consistent.nodup_open]
  refine or_congr_right ⟨?_, ?_⟩
  · rintro ⟨switch, ⟨-, gone⟩, first, member, reached, rfl⟩
    exact ⟨switch, first, member, gone, reached, rfl⟩
  · rintro ⟨switch, first, member, gone, reached, rfl⟩
    have before : switch ∈ replay.coverage.switches :=
      (consistent.mem_open switch).mp (Entries.mem_keys_of_mem member)
    exact ⟨switch, ⟨before, gone⟩, first, member, reached, rfl⟩

theorem EndsBy.moveTo {replay : Replay} (consistent : replay.Consistent)
    {line last : Nat} (fed : line ≤ last) (endsBy : replay.EndsBy last)
    (coverage : Coverage) : (replay.moveTo line coverage).EndsBy last where
  closed := by
    intro region member source
    rw [mem_closed_moveTo consistent] at member
    rcases member with old | ⟨switch, first, -, -, -, rfl⟩
    · exact endsBy.closed region old source
    · exact ⟨line, fed, rfl⟩
  opened := by
    rintro ⟨switch, first⟩ member
    rw [mem_openSince_moveTo consistent] at member
    obtain ⟨-, began⟩ := member
    split at began
    · exact endsBy.opened _ began
    · omega

theorem EndsBy.addLine {replay : Replay} {last : Nat}
    (endsBy : replay.EndsBy last) (line : Nat) {source : RegionSource}
    (notSpan : ¬ IsSpanSource source) (rules : List Text) :
    (replay.addLine line source rules).EndsBy last where
  closed := by
    intro region member isSpan
    simp only [Replay.addLine, List.mem_append, List.mem_map] at member
    rcases member with old | ⟨rule, -, rfl⟩
    · exact endsBy.closed region old isSpan
    · exact absurd isSpan notSpan
  opened := endsBy.opened

theorem EndsBy.feed {replay : Replay} (consistent : replay.Consistent)
    {line last : Nat} (fed : line ≤ last) (endsBy : replay.EndsBy last)
    (directive : Directive) : (replay.feed line directive).EndsBy last := by
  unfold Replay.feed
  cases directive.action with
  | disable => exact endsBy.moveTo consistent fed _
  | enable => exact endsBy.moveTo consistent fed _
  | capture => exact { endsBy with }
  | restore =>
      cases stack : replay.captured with
      | nil => exact endsBy.moveTo consistent fed _
      | cons coverage captured =>
          exact EndsBy.moveTo (consistent.pop stack) fed { endsBy with } _
  | disableLine => exact endsBy.addLine line (by simp [IsSpanSource]) _
  | disableNextLine => exact endsBy.addLine _ (by simp [IsSpanSource]) _
  | disableFile => exact { endsBy with }
  | enableFile => exact { endsBy with }
  | configureFile =>
      simp only
      rw [configure_eq]
      exact { endsBy with }

theorem endsBy_ofDirectives {fed : List (Nat × Directive)} {last : Nat}
    (bounded : ∀ entry ∈ fed, entry.1 ≤ last) :
    (ofDirectives fed).EndsBy last := by
  induction fed using List.reverseRecOn with
  | nil => exact ⟨by simp [ofDirectives], by simp [ofDirectives]⟩
  | append_singleton fed entry ih =>
      rw [ofDirectives_concat]
      have earlier := ih fun other member =>
        bounded other (List.mem_append_left _ member)
      exact earlier.feed (consistent_ofDirectives fed)
        (bounded entry (by simp)) entry.2

/-- No closed region of a span is over a line behind everything that was fed. -/
theorem EndsBy.not_covered {replay : Replay} {last line : Nat}
    (endsBy : replay.EndsBy last) (behind : last < line) {switch : Switch}
    (isSpan : IsSpanSource switch.2) : ¬ replay.Covered switch line := by
  rintro ⟨region, member, -, source, covers⟩
  obtain ⟨stop, stopLe, ends⟩ := endsBy.closed region member (source ▸ isSpan)
  simp only [Region.covers, ends, Option.all_some, Bool.and_eq_true,
    decide_eq_true_eq] at covers
  omega

/-- Behind everything that was fed, the open regions have begun. -/
theorem EndsBy.begun_iff {replay : Replay} {last line : Nat}
    (endsBy : replay.EndsBy last) (consistent : replay.Consistent)
    (behind : last < line) (switch : Switch) :
    replay.Begun switch line ↔ switch ∈ replay.coverage.switches := by
  rw [← consistent.mem_open switch]
  constructor
  · exact fun ⟨_, member, _⟩ => Entries.mem_keys_of_mem member
  · intro isOpen
    obtain ⟨⟨_, first⟩, member, rfl⟩ := List.mem_map.mp isOpen
    have began := endsBy.opened _ member
    exact ⟨first, member, by omega⟩

/-- Behind the last line the regions are those of the running coverage. -/
theorem spans_iff_of_lt {replay : Replay} (consistent : replay.Consistent)
    {last line : Nat} (endsBy : replay.EndsBy last) (behind : last < line)
    {switch : Switch} (isSpan : IsSpanSource switch.2) :
    replay.Spans switch line ↔ switch ∈ replay.coverage.switches := by
  rw [← endsBy.begun_iff consistent behind]
  exact or_iff_right (endsBy.not_covered behind isSpan)

/-- Up to the line of a move the regions over a line stay what they were. -/
theorem spans_moveTo {replay : Replay} (consistent : replay.Consistent)
    {line at_ : Nat} (upTo : at_ ≤ line) (coverage : Coverage)
    (switch : Switch) :
    (replay.moveTo line coverage).Spans switch at_ ↔
      replay.Spans switch at_ := by
  unfold Spans
  simp only [mem_closed_moveTo consistent, mem_openSince_moveTo consistent]
  constructor
  · rintro (⟨region, old | ⟨other, first, member, -, -, rfl⟩, rule, source, covers⟩ |
      ⟨first, ⟨-, began⟩, reached⟩)
    · exact Or.inl ⟨region, old, rule, source, covers⟩
    · obtain rfl : other = switch := Prod.ext rule source
      simp only [Region.covers, Bool.and_eq_true, decide_eq_true_eq] at covers
      exact Or.inr ⟨first, member, covers.1⟩
    · split at began
      · exact Or.inr ⟨first, began, reached⟩
      · omega
  · rintro (⟨region, old, rule, source, covers⟩ | ⟨first, member, reached⟩)
    · exact Or.inl ⟨region, Or.inl old, rule, source, covers⟩
    · have before : switch ∈ replay.coverage.switches :=
        (consistent.mem_open switch).mp (Entries.mem_keys_of_mem member)
      by_cases after : switch ∈ coverage.switches
      · exact Or.inr ⟨first, ⟨after, by rwa [if_pos before]⟩, reached⟩
      · refine Or.inl ⟨_, Or.inr ⟨switch, first, member, after,
          Nat.le_trans reached upTo, rfl⟩, rfl, rfl, ?_⟩
        simp [Region.covers, reached, upTo]

theorem covered_addLine (replay : Replay) (line : Nat) {source : RegionSource}
    (notSpan : ¬ IsSpanSource source) (rules : List Text) (at_ : Nat)
    {switch : Switch} (isSpan : IsSpanSource switch.2) :
    (replay.addLine line source rules).Covered switch at_ ↔
      replay.Covered switch at_ := by
  constructor
  · rintro ⟨region, member, rule, sourceEq, covers⟩
    simp only [addLine, List.mem_append, List.mem_map] at member
    rcases member with old | ⟨name, -, rfl⟩
    · exact ⟨region, old, rule, sourceEq, covers⟩
    · have isSource : source = switch.2 := sourceEq
      exact absurd (isSource ▸ isSpan) notSpan
  · rintro ⟨region, member, rest⟩
    exact ⟨region, List.mem_append_left _ member, rest⟩

theorem spans_addLine (replay : Replay) (line : Nat) {source : RegionSource}
    (notSpan : ¬ IsSpanSource source) (rules : List Text) (at_ : Nat)
    {switch : Switch} (isSpan : IsSpanSource switch.2) :
    (replay.addLine line source rules).Spans switch at_ ↔
      replay.Spans switch at_ :=
  or_congr_left (covered_addLine replay line notSpan rules at_ isSpan)

/-- A comment leaves the regions over its own line and over those before it as
they were. -/
theorem spans_feed {replay : Replay} (consistent : replay.Consistent)
    {line at_ : Nat} (upTo : at_ ≤ line) (directive : Directive)
    {switch : Switch} (isSpan : IsSpanSource switch.2) :
    (replay.feed line directive).Spans switch at_ ↔
      replay.Spans switch at_ := by
  unfold feed
  cases directive.action with
  | disable => exact spans_moveTo consistent upTo _ switch
  | enable => exact spans_moveTo consistent upTo _ switch
  | capture => exact Iff.rfl
  | restore =>
      cases stack : replay.captured with
      | nil => exact spans_moveTo consistent upTo _ switch
      | cons coverage captured =>
          exact spans_moveTo (consistent.pop stack) upTo coverage switch
  | disableLine =>
      exact spans_addLine replay line (by simp [IsSpanSource]) _ at_ isSpan
  | disableNextLine =>
      exact spans_addLine replay _ (by simp [IsSpanSource]) _ at_ isSpan
  | disableFile => exact Iff.rfl
  | enableFile => exact Iff.rfl
  | configureFile =>
      simp only
      rw [configure_eq]
      exact Iff.rfl

/-- A switch has a region over a line exactly if it belongs to the coverage that
the comments before that line lead to. -/
theorem spans_ofDirectives {fed : List (Nat × Directive)}
    (ordered : fed.Pairwise fun first second => first.1 ≤ second.1)
    {switch : Switch} (isSpan : IsSpanSource switch.2) (line : Nat) :
    (ofDirectives fed).Spans switch line ↔
      switch ∈ (ofDirectives
        (fed.filter fun entry => entry.1 < line)).coverage.switches := by
  induction fed using List.reverseRecOn with
  | nil => simp [ofDirectives, Spans, Coverage.switches]
  | append_singleton fed entry ih =>
      obtain ⟨orderedBefore, -, isLast⟩ := List.pairwise_append.mp ordered
      have bounded : ∀ other ∈ fed ++ [entry], other.1 ≤ entry.1 := by
        intro other member
        rcases List.mem_append.mp member with earlier | same
        · exact isLast other earlier entry (by simp)
        · exact Nat.le_of_eq (congrArg Prod.fst (List.mem_singleton.mp same))
      by_cases before : entry.1 < line
      · have everything : (fed ++ [entry]).filter (fun other => other.1 < line) =
            fed ++ [entry] := by
          refine List.filter_eq_self.mpr fun other member => ?_
          have := bounded other member
          simp only [decide_eq_true_eq]
          omega
        have endsBy : (ofDirectives (fed ++ [entry])).EndsBy entry.1 :=
          endsBy_ofDirectives bounded
        rw [everything]
        exact spans_iff_of_lt (consistent_ofDirectives _) endsBy before isSpan
      · have rest : (fed ++ [entry]).filter (fun other => other.1 < line) =
            fed.filter fun other => other.1 < line := by
          simp [List.filter_append, before]
        rw [rest, ofDirectives_concat,
          spans_feed (consistent_ofDirectives fed) (by omega) entry.2 isSpan]
        exact ih orderedBefore

end Replay

end AnchorLint
