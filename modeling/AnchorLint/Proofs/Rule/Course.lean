import AnchorLint.Proofs.Rule.Span

/-!
# Regions and the course of a document

The rule-control comments of a document can be followed without any regions: at
each point some rules are off, and those that were off at the captures are kept
for later.  This file shows that the regions of a replay say the same as that
course.  A rule is switched off at a line exactly if it is off for the whole
document, or a comment names it for this single line, or the comments before
the line leave it off.
-/

namespace AnchorLint

namespace Directive

/-- The rules that the data of a directive sets, by their canonical names and in
order, each with its value. -/
def settings (directive : Directive) : Entries Text Value :=
  match directive.action, Json.read directive.payload with
  | .configureFile, .ok (.map entries) =>
    entries.map fun entry => (Rule.normalize entry.1.display, entry.2)
  | _, _ => []

end Directive

/-- The rules that are off at a point of a document, and those that were off at
the captures that have not been restored, last first. -/
structure Course where
  off : Text → Bool := fun _ => false
  captured : List (Text → Bool) := []

namespace Course

/-- The course behind one more comment.  Without a capture, to restore is to
switch everything on. -/
def follow (course : Course) (directive : Directive) : Course :=
  match directive.action with
  | .disable =>
    { course with off := fun rule => course.off rule || directive.names rule }
  | .enable =>
    { course with off := fun rule => course.off rule && !directive.names rule }
  | .capture => { course with captured := course.off :: course.captured }
  | .restore =>
    match course.captured with
    | [] => {}
    | off :: captured => ⟨off, captured⟩
  | _ => course

def ofDirectives (fed : List (Nat × Directive)) : Course :=
  fed.foldl (fun course entry => course.follow entry.2) {}

/-- The rules that are off for the whole document behind one more comment. -/
def followFile (off : Text → Bool) (directive : Directive) : Text → Bool :=
  match directive.action with
  | .disableFile => fun rule => off rule || directive.names rule
  | .enableFile => fun rule => off rule && !directive.names rule
  | _ => off

/-- The rules that comments in order switch off for the whole document. -/
def fileOff (fed : List (Nat × Directive)) : Text → Bool :=
  fed.foldl (fun off entry => followFile off entry.2) fun _ => false

/-- The last value that the data of comments in order sets for a rule. -/
def configured (fed : List (Nat × Directive)) (rule : Text) : Option Value :=
  (fed.flatMap fun entry => entry.2.settings).reverse.lookup rule

/-- Whether one of some comments switches a rule off for a single line: its own
or the next one. -/
def lineOff (fed : List (Nat × Directive)) (rule : Text) (line : Nat) : Bool :=
  fed.any fun entry =>
    entry.2.names rule &&
      (entry.2.action == .disableLine && entry.1 == line
        || entry.2.action == .disableNextLine && entry.1 + 1 == line)

end Course

namespace Replay

/-! ## The course of a replay -/

/-- The course that a replay keeps in its coverages. -/
def course (replay : Replay) : Course :=
  ⟨replay.coverage.isOff, replay.captured.map Coverage.isOff⟩

theorem isOff_nothing : (Coverage.only []).isOff = fun _ => false :=
  funext fun rule => by simp [Coverage.isOff]

theorem course_moveTo {replay : Replay} (consistent : replay.Consistent)
    (line : Nat) (coverage : Coverage) :
    (replay.moveTo line coverage).course =
      ⟨coverage.isOff, replay.captured.map Coverage.isOff⟩ := by
  rw [moveTo_eq line coverage consistent.coverage]
  rfl

/-- Feeding a comment is following it. -/
theorem course_feed {replay : Replay} (consistent : replay.Consistent)
    (line : Nat) (directive : Directive) :
    (replay.feed line directive).course = replay.course.follow directive := by
  unfold feed Course.follow
  cases directive.action with
  | disable =>
      dsimp only
      rw [course_moveTo consistent]
      congr 1
      exact funext fun rule => Coverage.isOff_disable _ directive rule
  | enable =>
      dsimp only
      rw [course_moveTo consistent]
      congr 1
      exact funext fun rule => Coverage.isOff_enable _ directive rule
  | capture => rfl
  | restore =>
      cases stack : replay.captured with
      | nil =>
          dsimp only
          rw [course_moveTo consistent]
          simp [course, stack, isOff_nothing]
      | cons coverage captured =>
          dsimp only
          rw [course_moveTo (consistent.pop stack)]
          simp [course, stack]
  | disableLine => rfl
  | disableNextLine => rfl
  | disableFile => rfl
  | enableFile => rfl
  | configureFile =>
      simp only
      rw [configure_eq]
      rfl

theorem course_ofDirectives (fed : List (Nat × Directive)) :
    (ofDirectives fed).course = Course.ofDirectives fed := by
  induction fed using List.reverseRecOn with
  | nil => simp [ofDirectives, Course.ofDirectives, course, isOff_nothing]
  | append_singleton fed entry ih =>
      rw [ofDirectives_concat, course_feed (consistent_ofDirectives fed), ih]
      simp [Course.ofDirectives]

theorem file_moveTo {replay : Replay} (consistent : replay.Consistent)
    (line : Nat) (coverage : Coverage) :
    (replay.moveTo line coverage).file = replay.file := by
  rw [moveTo_eq line coverage consistent.coverage]

theorem isOff_file_feed {replay : Replay} (consistent : replay.Consistent)
    (line : Nat) (directive : Directive) :
    (replay.feed line directive).file.isOff =
      Course.followFile replay.file.isOff directive := by
  unfold feed Course.followFile
  cases directive.action with
  | disable => simp only [file_moveTo consistent]
  | enable => simp only [file_moveTo consistent]
  | capture => rfl
  | restore =>
      cases stack : replay.captured with
      | nil => simp only [file_moveTo consistent]
      | cons coverage captured =>
          simp only [file_moveTo (consistent.pop stack)]
  | disableLine => rfl
  | disableNextLine => rfl
  | disableFile =>
      exact funext fun rule => Coverage.isOff_disable _ directive rule
  | enableFile =>
      exact funext fun rule => Coverage.isOff_enable _ directive rule
  | configureFile =>
      simp only
      rw [configure_eq]

theorem isOff_file_ofDirectives (fed : List (Nat × Directive)) :
    (ofDirectives fed).file.isOff = Course.fileOff fed := by
  induction fed using List.reverseRecOn with
  | nil => simp [ofDirectives, Course.fileOff, isOff_nothing]
  | append_singleton fed entry ih =>
      rw [ofDirectives_concat, isOff_file_feed (consistent_ofDirectives fed),
        ih]
      simp [Course.fileOff]

/-! ## Regions of a single line -/

/-- The regions of a single line that a comment makes. -/
def lineRegions (entry : Nat × Directive) : List Region :=
  match entry.2.action with
  | .disableLine => entry.2.rules.map fun rule =>
    ⟨rule, entry.1, some entry.1, .disableLine⟩
  | .disableNextLine => entry.2.rules.map fun rule =>
    ⟨rule, entry.1 + 1, some (entry.1 + 1), .disableNextLine⟩
  | _ => []

theorem mem_closed_moveTo_of_not_span {replay : Replay}
    (consistent : replay.Consistent) (line : Nat) (coverage : Coverage)
    {region : Region} (notSpan : ¬ IsSpanSource region.source) :
    region ∈ (replay.moveTo line coverage).closed ↔
      region ∈ replay.closed := by
  rw [mem_closed_moveTo consistent]
  refine or_iff_left ?_
  rintro ⟨switch, first, member, -, -, rfl⟩
  have isOpen := (consistent.mem_open switch).mp
    (Entries.mem_keys_of_mem member)
  exact notSpan (Coverage.source_of_mem_switches isOpen)

/-- Apart from regions of spans, a comment adds its regions of a single line
only. -/
theorem mem_closed_feed_of_not_span {replay : Replay}
    (consistent : replay.Consistent) (line : Nat) (directive : Directive)
    {region : Region} (notSpan : ¬ IsSpanSource region.source) :
    region ∈ (replay.feed line directive).closed ↔
      region ∈ replay.closed ∨ region ∈ lineRegions (line, directive) := by
  unfold feed lineRegions
  cases directive.action with
  | disable =>
      simpa using mem_closed_moveTo_of_not_span consistent line _ notSpan
  | enable =>
      simpa using mem_closed_moveTo_of_not_span consistent line _ notSpan
  | capture => simp
  | restore =>
      cases stack : replay.captured with
      | nil =>
          simpa using mem_closed_moveTo_of_not_span consistent line _ notSpan
      | cons coverage captured =>
          simpa using mem_closed_moveTo_of_not_span (consistent.pop stack) line
            coverage notSpan
  | disableLine => simp [addLine]
  | disableNextLine => simp [addLine]
  | disableFile => simp
  | enableFile => simp
  | configureFile =>
      simp only
      rw [configure_eq]
      simp

theorem mem_closed_ofDirectives_of_not_span {fed : List (Nat × Directive)}
    {region : Region} (notSpan : ¬ IsSpanSource region.source) :
    region ∈ (ofDirectives fed).closed ↔
      ∃ entry ∈ fed, region ∈ lineRegions entry := by
  induction fed using List.reverseRecOn with
  | nil => simp [ofDirectives]
  | append_singleton fed entry ih =>
      rw [ofDirectives_concat, mem_closed_feed_of_not_span
        (consistent_ofDirectives fed) entry.1 entry.2 notSpan, ih]
      simp [or_and_right, exists_or]

theorem source_of_mem_lineRegions {entry : Nat × Directive} {region : Region}
    (member : region ∈ lineRegions entry) :
    region.source = .disableLine ∨ region.source = .disableNextLine := by
  unfold lineRegions at member
  split at member
  · obtain ⟨rule, -, rfl⟩ := List.mem_map.mp member
    exact Or.inl rfl
  · obtain ⟨rule, -, rfl⟩ := List.mem_map.mp member
    exact Or.inr rfl
  · simp at member

/-- No closed region is one for the whole document. -/
theorem closed_ne_file {fed : List (Nat × Directive)} {region : Region}
    (member : region ∈ (ofDirectives fed).closed) :
    region.source ≠ .disableFile ∧ region.source ≠ .enableFile := by
  by_cases isSpan : IsSpanSource region.source
  · rcases isSpan with equal | equal <;> simp [equal]
  · obtain ⟨entry, -, inLine⟩ :=
      (mem_closed_ofDirectives_of_not_span isSpan).mp member
    rcases source_of_mem_lineRegions inLine with equal | equal <;> simp [equal]

theorem lineRegions_touch_iff (entry : Nat × Directive) (rule : Text)
    (line : Nat) :
    (∃ region ∈ lineRegions entry, region.rule = rule ∧
        region.covers line = true) ↔
      rule ∈ entry.2.rules ∧
        (entry.2.action = .disableLine ∧ entry.1 = line ∨
          entry.2.action = .disableNextLine ∧ entry.1 + 1 = line) := by
  have single (number : Nat) (source : RegionSource) :
      (⟨rule, number, some number, source⟩ : Region).covers line = true ↔
        number = line := by
    simp only [Region.covers, Option.all_some, Bool.and_eq_true,
      decide_eq_true_eq]
    omega
  unfold lineRegions
  cases entry.2.action <;> simp [single]

end Replay

/-! ## What the regions say -/

theorem Region.anyOf_iff {regions : List Region} {rule : Text}
    {line : Option Nat} {sources : List RegionSource} :
    Region.anyOf regions rule line sources = true ↔
      ∃ region ∈ regions, region.rule = rule ∧ region.source ∈ sources ∧
        line.all region.covers = true := by
  simp [Region.anyOf, and_assoc]

namespace Replay

theorem mem_regions {replay : Replay} {region : Region} :
    region ∈ replay.regions ↔
      region ∈ replay.closed ∨
      (∃ entry ∈ replay.openSince,
        region = ⟨entry.1.1, entry.2, none, entry.1.2⟩) ∨
      (∃ switch ∈ replay.file.switches,
        region = ⟨switch.1, 1, none, fileSource switch.2⟩) ∨
      ∃ rule, (rule, Value.bool false) ∈ replay.configuration ∧
        region = ⟨rule, 1, none, .disableFile⟩ := by
  simp only [regions, List.mem_append, List.mem_map, List.mem_mergeSort,
    List.mem_filter, or_assoc]
  refine or_congr_right (or_congr ?_ (or_congr ?_ ?_))
  · exact exists_congr fun entry => and_congr_right fun _ => eq_comm
  · exact exists_congr fun switch => and_congr_right fun _ => eq_comm
  · constructor
    · rintro ⟨⟨rule, value⟩, ⟨member, isFalse⟩, rfl⟩
      dsimp only at isFalse
      split at isFalse
      · exact ⟨rule, member, rfl⟩
      · simp at isFalse
    · rintro ⟨rule, member, rfl⟩
      exact ⟨(rule, .bool false), ⟨member, rfl⟩, rfl⟩

theorem fileSource_not_span (source : RegionSource) :
    ¬ IsSpanSource (fileSource source) := by
  cases source <;> simp [fileSource, IsSpanSource]

variable {fed : List (Nat × Directive)}

theorem anyOf_span (rule : Text) (line : Nat) {source : RegionSource}
    (isSpan : IsSpanSource source) :
    Region.anyOf (ofDirectives fed).regions rule (some line) [source] = true ↔
      (ofDirectives fed).Spans (rule, source) line := by
  rw [Region.anyOf_iff]
  simp only [List.mem_singleton, Option.all_some, Spans]
  constructor
  · rintro ⟨region, member, named, sourceEq, covers⟩
    rcases mem_regions.mp member with closed | ⟨⟨⟨name, kind⟩, first⟩, isOpen, rfl⟩ |
      ⟨switch, -, rfl⟩ | ⟨name, -, rfl⟩
    · exact Or.inl ⟨region, closed, named, sourceEq, covers⟩
    · obtain ⟨rfl, rfl⟩ : name = rule ∧ kind = source := ⟨named, sourceEq⟩
      exact Or.inr ⟨first, isOpen, by simpa [Region.covers] using covers⟩
    · have equal : fileSource switch.2 = source := sourceEq
      exact absurd (equal ▸ isSpan) (fileSource_not_span switch.2)
    · have equal : RegionSource.disableFile = source := sourceEq
      subst equal
      simp [IsSpanSource] at isSpan
  · rintro (⟨region, closed, named, sourceEq, covers⟩ | ⟨first, isOpen, began⟩)
    · exact ⟨region, mem_regions.mpr (Or.inl closed), named, sourceEq, covers⟩
    · refine ⟨_, mem_regions.mpr (Or.inr (Or.inl ⟨_, isOpen, rfl⟩)), rfl, rfl, ?_⟩
      simpa [Region.covers] using began

theorem anyOf_line (rule : Text) (line : Nat) :
    Region.anyOf (ofDirectives fed).regions rule (some line)
        [.disableLine, .disableNextLine] = true ↔
      ∃ entry ∈ fed, rule ∈ entry.2.rules ∧
        (entry.2.action = .disableLine ∧ entry.1 = line ∨
          entry.2.action = .disableNextLine ∧ entry.1 + 1 = line) := by
  rw [Region.anyOf_iff]
  simp only [← lineRegions_touch_iff, List.mem_cons, List.not_mem_nil, or_false,
    Option.all_some]
  constructor
  · rintro ⟨region, member, named, isLine, covers⟩
    have notSpan : ¬ IsSpanSource region.source := by
      rcases isLine with equal | equal <;> simp [IsSpanSource, equal]
    rcases mem_regions.mp member with closed | ⟨⟨switch, first⟩, isOpen, rfl⟩ |
      ⟨switch, -, rfl⟩ | ⟨name, -, rfl⟩
    · obtain ⟨entry, inFed, inLine⟩ :=
        (mem_closed_ofDirectives_of_not_span notSpan).mp closed
      exact ⟨entry, inFed, region, inLine, named, covers⟩
    · have running := ((consistent_ofDirectives fed).mem_open switch).mp
        (Entries.mem_keys_of_mem isOpen)
      exact absurd (Coverage.source_of_mem_switches running) notSpan
    · rcases switch with ⟨name, _ | _ | _ | _ | _ | _⟩ <;>
        simp [fileSource] at isLine
    · simp at isLine
  · rintro ⟨entry, inFed, region, inLine, named, covers⟩
    have isLine := source_of_mem_lineRegions inLine
    have notSpan : ¬ IsSpanSource region.source := by
      rcases isLine with equal | equal <;> simp [IsSpanSource, equal]
    have closed := (mem_closed_ofDirectives_of_not_span notSpan).mpr
      ⟨entry, inFed, inLine⟩
    exact ⟨region, mem_regions.mpr (Or.inl closed), named, isLine, covers⟩

/-! ## Regions of the whole document -/

theorem configuration_configure (replay : Replay) (line : Nat)
    {directive : Directive} (isData : directive.action = .configureFile) :
    (replay.feed line directive).configuration =
      directive.settings.foldl (fun known entry => known.put entry.1 entry.2)
        replay.configuration := by
  rw [feed, isData, Directive.settings, isData]
  dsimp only
  unfold configure
  by_cases empty : directive.payload.isEmpty = true
  · rw [List.isEmpty_iff.mp empty]
    rfl
  · rw [if_neg empty]
    split
    · rename_i failed
      rw [failed]
      rfl
    · rename_i failed
      rw [failed]
      rfl
    · rename_i entries isMap
      rw [isMap]
      exact Eq.symm List.foldl_map
    · rename_i value noMap isValue
      rw [isValue]
      cases value with
      | map entries => exact absurd rfl (noMap entries)
      | _ => rfl

/-- Only data in a comment changes the configuration: each rule that it sets gets
the value. -/
theorem configuration_feed (replay : Replay) (line : Nat) (directive : Directive) :
    (replay.feed line directive).configuration =
      directive.settings.foldl (fun known entry => known.put entry.1 entry.2)
        replay.configuration := by
  cases action : directive.action with
  | configureFile => exact configuration_configure replay line action
  | restore =>
      cases stack : replay.captured <;>
        simp [feed, Directive.settings, action, stack]
  | disable => simp [feed, Directive.settings, action]
  | enable => simp [feed, Directive.settings, action]
  | capture => simp [feed, Directive.settings, action]
  | disableLine => simp [feed, Directive.settings, action, addLine]
  | disableNextLine => simp [feed, Directive.settings, action, addLine]
  | disableFile => simp [feed, Directive.settings, action]
  | enableFile => simp [feed, Directive.settings, action]

theorem configuration_ofDirectives (fed : List (Nat × Directive)) :
    (ofDirectives fed).configuration =
      (fed.flatMap fun entry => entry.2.settings).foldl
        (fun known entry => Entries.put known entry.1 entry.2) [] := by
  induction fed using List.reverseRecOn with
  | nil => rfl
  | append_singleton fed entry ih =>
      rw [ofDirectives_concat, configuration_feed, ih, List.flatMap_append,
        List.foldl_append, List.flatMap_singleton]

/-- The configuration holds for each rule the last value that is set for it. -/
theorem mem_configuration_iff {rule : Text} {value : Value} :
    (rule, value) ∈ (ofDirectives fed).configuration ↔
      Course.configured fed rule = some value := by
  have nodup : (ofDirectives fed).configuration.keys.Nodup := by
    rw [configuration_ofDirectives]
    refine Entries.nodup_keys_foldl_put ?_ _
    exact List.nodup_nil
  rw [← Entries.lookup_eq_some_iff_mem nodup, configuration_ofDirectives,
    Entries.lookup_foldl_put]
  simp [Course.configured]

theorem configured_of_noData
    (noData : ∀ entry ∈ fed, entry.2.action ≠ .configureFile) (rule : Text) :
    Course.configured fed rule = none := by
  have nothing : (fed.flatMap fun entry => entry.2.settings) = [] := by
    refine List.flatMap_eq_nil_iff.mpr fun entry member => ?_
    have action := noData entry member
    unfold Directive.settings
    split
    · exact absurd ‹entry.2.action = .configureFile› action
    · rfl
  simp [Course.configured, nothing]

/-- The regions of the whole document are the switches of its coverage, and those
of the rules that the configuration switches off. -/
theorem anyOf_file (rule : Text) {source : RegionSource}
    (isSpan : IsSpanSource source) :
    Region.anyOf (ofDirectives fed).regions rule none [fileSource source] =
        true ↔
      (rule, source) ∈ (ofDirectives fed).file.switches ∨
        source = .disable ∧ Course.configured fed rule = some (.bool false) := by
  rw [Region.anyOf_iff, ← mem_configuration_iff]
  simp only [List.mem_singleton, Option.all_none, and_true]
  constructor
  · rintro ⟨region, member, rfl, sourceEq⟩
    have notSpan : ¬ IsSpanSource region.source :=
      sourceEq ▸ fileSource_not_span source
    rcases mem_regions.mp member with closed | ⟨⟨switch, first⟩, isOpen, rfl⟩ |
      ⟨⟨name, kind⟩, inFile, rfl⟩ | ⟨name, configured, rfl⟩
    · have notFile := closed_ne_file closed
      rcases isSpan with rfl | rfl
      · exact absurd sourceEq notFile.1
      · exact absurd sourceEq notFile.2
    · have running := ((consistent_ofDirectives fed).mem_open switch).mp
        (Entries.mem_keys_of_mem isOpen)
      exact absurd (Coverage.source_of_mem_switches running) notSpan
    · have kindSpan := Coverage.source_of_mem_switches inFile
      have kindEq : kind = source := by
        rcases isSpan with rfl | rfl <;> rcases kindSpan with rfl | rfl <;>
          simp [fileSource] at sourceEq ⊢
      exact Or.inl (kindEq ▸ inFile)
    · have isDisable : source = .disable := by
        rcases isSpan with rfl | rfl <;> simp [fileSource] at sourceEq ⊢
      exact Or.inr ⟨isDisable, configured⟩
  · rintro (inFile | ⟨rfl, configured⟩)
    · exact ⟨_, mem_regions.mpr (Or.inr (Or.inr (Or.inl ⟨_, inFile, rfl⟩))), rfl,
        rfl⟩
    · exact ⟨_, mem_regions.mpr (Or.inr (Or.inr (Or.inr ⟨_, configured, rfl⟩))),
        rfl, rfl⟩

theorem fileOff_iff_switches (rule : Text) :
    Course.fileOff fed rule = true ↔
      if (Rule.all, RegionSource.disable) ∈ (ofDirectives fed).file.switches
      then (rule, RegionSource.enable) ∉ (ofDirectives fed).file.switches
      else (rule, RegionSource.disable) ∈ (ofDirectives fed).file.switches := by
  rw [← isOff_file_ofDirectives]
  exact Coverage.isOff_iff_switches (consistent_ofDirectives fed).file rule

theorem courseOff_iff_switches (rule : Text) :
    (Course.ofDirectives fed).off rule = true ↔
      if (Rule.all, RegionSource.disable) ∈
          (ofDirectives fed).coverage.switches
      then (rule, RegionSource.enable) ∉ (ofDirectives fed).coverage.switches
      else (rule, RegionSource.disable) ∈
        (ofDirectives fed).coverage.switches := by
  rw [← course_ofDirectives]
  exact Coverage.isOff_iff_switches (consistent_ofDirectives fed).coverage rule

theorem lineOff_iff (rule : Text) (line : Nat) :
    Course.lineOff fed rule line = true ↔
      Region.anyOf (ofDirectives fed).regions rule (some line)
          [.disableLine, .disableNextLine] = true ∨
        Region.anyOf (ofDirectives fed).regions Rule.all (some line)
          [.disableLine, .disableNextLine] = true := by
  simp only [anyOf_line, Course.lineOff, Directive.names, List.any_eq_true,
    Bool.and_eq_true, Bool.or_eq_true, List.contains_eq_mem,
    decide_eq_true_eq, beq_iff_eq]
  constructor
  · rintro ⟨entry, member, named | all, placed⟩
    · exact Or.inl ⟨entry, member, named, placed⟩
    · exact Or.inr ⟨entry, member, all, placed⟩
  · rintro (⟨entry, member, named, placed⟩ | ⟨entry, member, all, placed⟩)
    · exact ⟨entry, member, Or.inl named, placed⟩
    · exact ⟨entry, member, Or.inr all, placed⟩

theorem fileOff_all_iff :
    Course.fileOff fed Rule.all = true ↔
      (Rule.all, RegionSource.disable) ∈ (ofDirectives fed).file.switches := by
  rw [← isOff_file_ofDirectives]
  exact (Coverage.all_mem_switches_iff (consistent_ofDirectives fed).file).symm

/-- What the regions of the whole document say about a rule: the comments leave it
off, or they do not leave all rules off and the configuration switches off the rule
or all rules. -/
theorem wholeFile_iff (rule : Text) :
    (if Region.anyOf (ofDirectives fed).regions Rule.all none [.disableFile] then
        !Region.anyOf (ofDirectives fed).regions rule none [.enableFile]
      else Region.anyOf (ofDirectives fed).regions rule none [.disableFile]) =
        true ↔
      Course.fileOff fed rule = true ∨
        Course.fileOff fed Rule.all = false ∧
          (Course.configured fed rule = some (.bool false) ∨
            Course.configured fed Rule.all = some (.bool false)) := by
  have disable (name : Text) :
      Region.anyOf (ofDirectives fed).regions name none [.disableFile] = true ↔
        (name, .disable) ∈ (ofDirectives fed).file.switches ∨
          Course.configured fed name = some (.bool false) :=
    (anyOf_file name (Or.inl (Eq.refl RegionSource.disable))).trans (by simp)
  have enable :
      Region.anyOf (ofDirectives fed).regions rule none [.enableFile] = true ↔
        (rule, .enable) ∈ (ofDirectives fed).file.switches :=
    (anyOf_file rule (Or.inr (Eq.refl RegionSource.enable))).trans (by simp)
  rw [← Bool.not_eq_true, fileOff_all_iff, fileOff_iff_switches]
  by_cases allOff :
      (Rule.all, RegionSource.disable) ∈ (ofDirectives fed).file.switches
  · rw [if_pos ((disable Rule.all).mpr (Or.inl allOff)), if_pos allOff,
      Bool.not_eq_true', ← Bool.not_eq_true, enable]
    simp [allOff]
  · have noEnable : (rule, RegionSource.enable) ∉ (ofDirectives fed).file.switches :=
      fun member => allOff (Coverage.all_mem_switches_of_enable member)
    rw [if_neg allOff]
    split
    · rename_i byAll
      have configured := ((disable Rule.all).mp byAll).resolve_left allOff
      rw [Bool.not_eq_true', ← Bool.not_eq_true, enable]
      simp [noEnable, allOff, configured]
    · rename_i notByAll
      have notConfigured := (not_or.mp (mt (disable Rule.all).mpr notByAll)).2
      rw [disable]
      simp [allOff, notConfigured]

/-- What the regions over a line say about a rule: while all rules are off it is off
unless it is on again, otherwise it is off by name. -/
def SpansOff (replay : Replay) (rule : Text) (line : Nat) : Prop :=
  (replay.Spans (Rule.all, .disable) line → ¬ replay.Spans (rule, .enable) line) ∧
    (¬ replay.Spans (Rule.all, .disable) line → replay.Spans (rule, .disable) line)

/-- The regions of comments switch a rule off at a line exactly if it is off for the
whole document, by a comment or by the configuration, or for the single line, or by
the regions over the line. -/
theorem isDisabledAt_iff (rule : Text) (line : Nat) :
    Region.isDisabledAt (ofDirectives fed).regions rule line = true ↔
      (Course.fileOff fed (Rule.normalize rule) = true ∨
        Course.fileOff fed Rule.all = false ∧
          (Course.configured fed (Rule.normalize rule) = some (.bool false) ∨
            Course.configured fed Rule.all = some (.bool false))) ∨
      Course.lineOff fed (Rule.normalize rule) line = true ∨
      (ofDirectives fed).SpansOff (Rule.normalize rule) line := by
  rw [← wholeFile_iff, lineOff_iff]
  simp only [Region.isDisabledAt, Bool.or_eq_true, or_assoc]
  refine or_congr_right (or_congr_right (or_congr_right ?_))
  simp only [SpansOff, ← anyOf_span _ line (Or.inl (Eq.refl RegionSource.disable)),
    ← anyOf_span _ line (Or.inr (Eq.refl RegionSource.enable))]
  split <;> simp [*]

/-- Where comments come in the order of their lines, the regions over a line say what
the comments before the line leave off. -/
theorem spansOff_iff
    (ordered : fed.Pairwise fun first second => first.1 ≤ second.1) (rule : Text)
    (line : Nat) :
    (ofDirectives fed).SpansOff rule line ↔
      (Course.ofDirectives (fed.filter fun entry => entry.1 < line)).off rule =
        true := by
  have span (name : Text) {source : RegionSource} (isSpan : IsSpanSource source) :
      (ofDirectives fed).Spans (name, source) line ↔
        (name, source) ∈ (ofDirectives
          (fed.filter fun entry => entry.1 < line)).coverage.switches :=
    spans_ofDirectives ordered isSpan line
  rw [courseOff_iff_switches]
  simp only [SpansOff, span _ (Or.inl (Eq.refl RegionSource.disable)),
    span _ (Or.inr (Eq.refl RegionSource.enable))]
  split <;> simp [*]

/-- The regions of comments in the order of their lines switch a rule off at a
line exactly if it is off for the whole document, for the single line, or
behind the comments before the line. -/
theorem isDisabledAt_ofDirectives
    (ordered : fed.Pairwise fun first second => first.1 ≤ second.1)
    (noData : ∀ entry ∈ fed, entry.2.action ≠ .configureFile) (rule : Text)
    (line : Nat) :
    Region.isDisabledAt (ofDirectives fed).regions rule line = true ↔
      Course.fileOff fed (Rule.normalize rule) = true ∨
      Course.lineOff fed (Rule.normalize rule) line = true ∨
      (Course.ofDirectives (fed.filter fun entry => entry.1 < line)).off
        (Rule.normalize rule) = true := by
  rw [isDisabledAt_iff, spansOff_iff ordered, configured_of_noData noData,
    configured_of_noData noData]
  simp

/-! ## Comments for the next line -/

section NextLine

variable {before after : List (Nat × Directive)} {number : Nat}
  {directive : Directive}

theorem ofDirectives_nextLine (isNext : directive.action = .disableNextLine) :
    Course.ofDirectives (before ++ (number, directive) :: after) =
      Course.ofDirectives (before ++ after) := by
  simp [Course.ofDirectives, Course.follow, isNext]

theorem fileOff_nextLine (isNext : directive.action = .disableNextLine) :
    Course.fileOff (before ++ (number, directive) :: after) =
      Course.fileOff (before ++ after) := by
  simp [Course.fileOff, Course.followFile, isNext]

theorem configured_nextLine (isNext : directive.action = .disableNextLine) :
    Course.configured (before ++ (number, directive) :: after) =
      Course.configured (before ++ after) := by
  have nothing : directive.settings = [] := by simp [Directive.settings, isNext]
  funext rule
  simp [Course.configured, nothing]

theorem lineOff_nextLine (isNext : directive.action = .disableNextLine) (rule : Text)
    (line : Nat) :
    Course.lineOff (before ++ (number, directive) :: after) rule line = true ↔
      line = number + 1 ∧ directive.names rule = true ∨
        Course.lineOff (before ++ after) rule line = true := by
  simp only [Course.lineOff, List.any_append, List.any_cons, isNext, Bool.or_eq_true,
    Bool.and_eq_true, beq_iff_eq, reduceCtorEq, false_and, false_or, true_and,
    eq_comm (a := number + 1)]
  rw [or_left_comm, and_comm]

/-- A comment for the next line switches off the rules that it names on the line behind
its own, and changes nothing else. -/
theorem isDisabledAt_nextLine
    (ordered : (before ++ (number, directive) :: after).Pairwise
      fun first second => first.1 ≤ second.1)
    (isNext : directive.action = .disableNextLine) (rule : Text) (line : Nat) :
    Region.isDisabledAt
        (ofDirectives (before ++ (number, directive) :: after)).regions rule line =
          true ↔
      line = number + 1 ∧ directive.names (Rule.normalize rule) = true ∨
        Region.isDisabledAt (ofDirectives (before ++ after)).regions rule line =
          true := by
  have orderedRest : (before ++ after).Pairwise fun first second =>
      first.1 ≤ second.1 :=
    ordered.sublist (List.Sublist.append_left (List.sublist_cons_self _ _) before)
  have sameCourse :
      Course.ofDirectives ((before ++ (number, directive) :: after).filter
          fun entry => entry.1 < line) =
        Course.ofDirectives ((before ++ after).filter fun entry => entry.1 < line) := by
    rw [List.filter_append, List.filter_append, List.filter_cons]
    split
    · exact ofDirectives_nextLine isNext
    · rfl
  rw [isDisabledAt_iff, isDisabledAt_iff, spansOff_iff ordered,
    spansOff_iff orderedRest, sameCourse, fileOff_nextLine isNext,
    configured_nextLine isNext, lineOff_nextLine isNext]
  constructor
  · rintro (whole | (here | single) | spans)
    · exact Or.inr (Or.inl whole)
    · exact Or.inl here
    · exact Or.inr (Or.inr (Or.inl single))
    · exact Or.inr (Or.inr (Or.inr spans))
  · rintro (here | whole | single | spans)
    · exact Or.inr (Or.inl (Or.inl here))
    · exact Or.inl whole
    · exact Or.inr (Or.inl (Or.inr single))
    · exact Or.inr (Or.inr spans)

end NextLine

end Replay

end AnchorLint
