import AnchorLint.Proofs.Document.Harvest
import AnchorLint.Proofs.Rule.Course

/-!
# The comments of a scan

A comment is fed when it ends, with the line on which it began.  Only one
comment is open at a time and nothing else begins before it has ended, so the
lines of the comments never go back.  This file lists the comments that a scan
feeds, shows that the replay of a harvest is the one of the directives among
them, and that they come in the order of their lines.
-/

namespace AnchorLint

namespace Comment

/-- A line either continues the open comment, or ends it before the comments of
its own; a comment that is then open began on the line. -/
theorem mask_cases (place : Inline.Place) (lastClose : Option Nat)
    (pending : Option Pending) :
    (∃ open_ parts, pending = some open_ ∧
        (mask place lastClose pending).closed = [] ∧
        (mask place lastClose pending).pending = some ⟨open_.line, parts⟩) ∨
      (∃ (inside : Text) (bodies : List Text),
        (mask place lastClose pending).closed =
          pending.toList.map (fun open_ => (open_.line, inside))
            ++ bodies.map (fun body => (place.line, body)) ∧
        ∀ open_ ∈ (mask place lastClose pending).pending,
          open_.line = place.line) := by
  cases pending with
  | none =>
      refine Or.inr ⟨[], _, rfl, ?_⟩
      intro open_ member
      simp only [mask, maskFrom, Option.mem_def, Option.map_eq_some_iff] at member
      obtain ⟨start, -, rfl⟩ := member
      rfl
  | some open_ =>
      unfold mask
      dsimp only
      split
      · exact Or.inl ⟨open_, _, rfl, rfl, rfl⟩
      · refine Or.inr ⟨_, _, rfl, ?_⟩
        intro later member
        simp only [maskFrom, Option.mem_def, Option.map_eq_some_iff] at member
        obtain ⟨start, -, rfl⟩ := member
        rfl

end Comment

namespace Scan

/-! ## What a line feeds -/

/-- The comments that a line feeds, each with the line on which it began. -/
def fedBy (header : Nat) (lastClose : Option Nat) (state : State)
    (input : Input) : List (Nat × Text) :=
  if input.number ≤ header ∨ (fenced? state input).isSome
      ∨ (indented? state input).isSome then []
  else (Comment.mask input.place lastClose state.context.comment).closed

/-- The comments that lines feed in order; at the end an open comment ends. -/
def comments (header : Nat) (lastClose : Option Nat) :
    State → List Input → List (Nat × Text)
  | state, [] =>
    state.context.comment.toList.map fun open_ => (open_.line, open_.body)
  | state, input :: rest =>
    fedBy header lastClose state input
      ++ comments header lastClose (step header lastClose state input) rest

def directivesOf (comments : List (Nat × Text)) : List (Nat × Directive) :=
  comments.filterMap fun comment =>
    (Directive.parse? comment.2).map fun directive => (comment.1, directive)

def replayFrom (replay : Replay) (comments : List (Nat × Text)) : Replay :=
  (directivesOf comments).foldl
    (fun replay entry => replay.feed entry.1 entry.2) replay

theorem replayFrom_append (replay : Replay) (first second : List (Nat × Text)) :
    replayFrom replay (first ++ second) =
      replayFrom (replayFrom replay first) second := by
  simp [replayFrom, directivesOf]

theorem replay_foldl_addComment (harvest : Harvest)
    (comments : List (Nat × Text)) :
    (comments.foldl Harvest.addComment harvest).replay =
      replayFrom harvest.replay comments := by
  induction comments generalizing harvest with
  | nil => rfl
  | cons comment rest ih =>
      rw [List.foldl_cons, ih]
      cases parsed : Directive.parse? comment.2 with
      | none => simp [Harvest.addComment, replayFrom, directivesOf, parsed]
      | some directive =>
          simp [Harvest.addComment, replayFrom, directivesOf, parsed]

@[simp]
theorem replay_closeIndented (harvest : Harvest)
    (indented : Option (Nat × Nat)) :
    (harvest.closeIndented indented).replay = harvest.replay := by
  cases indented <;> rfl

@[simp]
theorem replay_record (harvest : Harvest) (input : Input) (masked : Text)
    (takesAttributes : Bool) (kind : Kind) :
    (record harvest input masked takesAttributes kind).replay =
      harvest.replay := by
  obtain ⟨headings, htmlAnchors, footnoteRefs, footnoteDefs, links, pending,
    definitions, same⟩ := record_changes harvest input masked takesAttributes kind
  rw [same]

theorem fenced?_keeps {state after : State} {input : Input}
    (fenced : fenced? state input = some after) :
    after.harvest.replay = state.harvest.replay ∧
      after.context.comment = state.context.comment := by
  obtain ⟨fence, indented, codeBlocks, rfl⟩ := fenced?_changes fenced
  exact ⟨rfl, rfl⟩

theorem indented?_keeps {state after : State} {input : Input}
    (indented : indented? state input = some after) :
    after.harvest.replay = state.harvest.replay ∧
      after.context.comment = state.context.comment := by
  obtain ⟨range, rfl⟩ := indented?_changes indented
  exact ⟨rfl, rfl⟩

theorem leaveIndented_keeps (state : State) (input : Input) :
    (leaveIndented state input).harvest.replay = state.harvest.replay ∧
      (leaveIndented state input).context.comment = state.context.comment := by
  obtain ⟨indented, codeBlocks, same⟩ := leaveIndented_changes state input
  rw [same]
  exact ⟨rfl, rfl⟩

theorem plain_feeds (state : State) (input : Input) (lastClose : Option Nat) :
    (plain state input lastClose).harvest.replay =
        replayFrom state.harvest.replay
          (Comment.mask input.place lastClose state.context.comment).closed ∧
      (plain state input lastClose).context.comment =
        (Comment.mask input.place lastClose state.context.comment).pending := by
  unfold plain
  dsimp only
  split
  · exact ⟨replay_foldl_addComment _ _, rfl⟩
  · split
    · exact ⟨replay_foldl_addComment _ _, rfl⟩
    · refine ⟨?_, rfl⟩
      rw [replay_record, replay_foldl_addComment]

/-- A line feeds its comments, and the comment open behind it is the one that
was open before, or one that begins on the line. -/
theorem step_feeds (header : Nat) (lastClose : Option Nat) (state : State)
    (input : Input) :
    (step header lastClose state input).harvest.replay =
        replayFrom state.harvest.replay (fedBy header lastClose state input) ∧
      (fedBy header lastClose state input = [] ∧
          (step header lastClose state input).context.comment =
            state.context.comment ∨
        fedBy header lastClose state input =
            (Comment.mask input.place lastClose state.context.comment).closed ∧
          (step header lastClose state input).context.comment =
            (Comment.mask input.place lastClose
              state.context.comment).pending) := by
  unfold step fedBy
  by_cases front : input.number ≤ header
  · simp [front, Harvest.addLine, replayFrom, directivesOf]
  · cases fenced : fenced? state input with
    | some after =>
        have keeps := fenced?_keeps fenced
        simp [front, Harvest.addLine, replayFrom, directivesOf, keeps]
    | none =>
        cases indented : indented? state input with
        | some after =>
            have keeps := indented?_keeps indented
            simp [front, Harvest.addLine, replayFrom, directivesOf, keeps]
        | none =>
            have left := leaveIndented_keeps state input
            have feeds := plain_feeds (leaveIndented state input) input
              lastClose
            rw [left.1, left.2] at feeds
            simp only [front, if_false, Option.isSome_none, Bool.false_eq_true,
              or_self, true_and]
            exact ⟨feeds.1, Or.inr feeds.2⟩

/-! ## The replay of a scan -/

/-- The harvest when the lines end in a state. -/
def finish (state : State) : Harvest :=
  let harvest := state.harvest.closeIndented state.context.indented
  match state.context.comment with
  | some pending => harvest.addComment (pending.line, pending.body)
  | none => harvest

theorem finish_feeds (state : State) :
    ∃ replay, finish state =
      { state.harvest.closeIndented state.context.indented with
        replay := replay } := by
  unfold finish
  dsimp only
  split
  · exact addComment_changes _ _
  · exact ⟨_, rfl⟩

theorem finish_changes (state : State) :
    ∃ codeBlocks replay, finish state =
      { state.harvest with codeBlocks := codeBlocks, replay := replay } := by
  obtain ⟨replay, same⟩ := finish_feeds state
  obtain ⟨codeBlocks, closed⟩ :=
    closeIndented_changes state.harvest state.context.indented
  rw [same, closed]
  exact ⟨_, _, rfl⟩

theorem replay_finish_foldl (header : Nat) (lastClose : Option Nat)
    (state : State) (rest : List Input) :
    (finish (rest.foldl (step header lastClose) state)).replay =
      replayFrom state.harvest.replay
        (comments header lastClose state rest) := by
  induction rest generalizing state with
  | nil =>
      unfold finish
      cases open_ : state.context.comment with
      | none => simp [comments, open_, replayFrom, directivesOf]
      | some pending =>
          have fed := replay_foldl_addComment
            (state.harvest.closeIndented state.context.indented)
            [(pending.line, pending.body)]
          simpa [comments, open_] using fed
  | cons input rest ih =>
      rw [List.foldl_cons, ih, comments, replayFrom_append,
        (step_feeds header lastClose state input).1]

def directives (header : Nat) (lastClose : Option Nat)
    (lines : List SourceLine) : List (Nat × Directive) :=
  directivesOf (comments header lastClose {} (inputs lines))

theorem replay_run (header : Nat) (lastClose : Option Nat)
    (lines : List SourceLine) :
    (run header lastClose lines).replay =
      Replay.ofDirectives (directives header lastClose lines) :=
  replay_finish_foldl header lastClose {} (inputs lines)

/-! ## The order of the comments -/

/-- A line feeds nothing and leaves the open comment open, or it feeds the open
comment and those of its own, and a comment open behind it began on it. -/
theorem fedBy_cases (header : Nat) (lastClose : Option Nat) (state : State)
    (input : Input) :
    (fedBy header lastClose state input = [] ∧
        ∀ open_ ∈ (step header lastClose state input).context.comment,
          ∃ before ∈ state.context.comment, before.line = open_.line) ∨
      (∃ (inside : Text) (bodies : List Text),
        fedBy header lastClose state input =
          state.context.comment.toList.map (fun open_ => (open_.line, inside))
            ++ bodies.map (fun body => (input.number, body)) ∧
        ∀ open_ ∈ (step header lastClose state input).context.comment,
          open_.line = input.number) := by
  obtain ⟨-, ⟨nothing, same⟩ | ⟨fedEq, openEq⟩⟩ :=
    step_feeds header lastClose state input
  · exact Or.inl ⟨nothing, fun open_ isOpen => ⟨open_, same ▸ isOpen, rfl⟩⟩
  · rw [fedEq, openEq]
    rcases Comment.mask_cases input.place lastClose state.context.comment with
      ⟨open_, parts, before, nothing, after⟩ | feeds
    · refine Or.inl ⟨nothing, fun later isOpen => ⟨open_, before, ?_⟩⟩
      rw [after] at isOpen
      rw [← Option.mem_some_iff.mp isOpen]
    · exact Or.inr feeds

section

variable {header : Nat} {lastClose : Option Nat} {state : State} {input : Input}

theorem le_of_mem_fedBy
    (began : ∀ open_ ∈ state.context.comment, open_.line ≤ input.number)
    {comment : Nat × Text} (fed : comment ∈ fedBy header lastClose state input) :
    comment.1 ≤ input.number := by
  rcases fedBy_cases header lastClose state input with
    ⟨nothing, -⟩ | ⟨inside, bodies, fedEq, -⟩
  · simp [nothing] at fed
  · rw [fedEq] at fed
    rcases List.mem_append.mp fed with inFirst | inSecond
    · obtain ⟨open_, isOpen, rfl⟩ := List.mem_map.mp inFirst
      exact began open_ (Option.mem_toList.mp isOpen)
    · obtain ⟨body, -, rfl⟩ := List.mem_map.mp inSecond
      exact Nat.le_refl _

theorem line_eq_of_mem_fedBy {comment : Nat × Text}
    (fed : comment ∈ fedBy header lastClose state input) :
    ∀ open_ ∈ (step header lastClose state input).context.comment,
      open_.line = input.number := by
  rcases fedBy_cases header lastClose state input with
    ⟨nothing, -⟩ | ⟨inside, bodies, -, begins⟩
  · simp [nothing] at fed
  · exact begins

theorem line_le_of_open_step
    (began : ∀ open_ ∈ state.context.comment, open_.line ≤ input.number) :
    ∀ open_ ∈ (step header lastClose state input).context.comment,
      open_.line ≤ input.number := by
  intro open_ isOpen
  rcases fedBy_cases header lastClose state input with
    ⟨-, stays⟩ | ⟨inside, bodies, -, begins⟩
  · obtain ⟨before, wasOpen, same⟩ := stays open_ isOpen
    exact same ▸ began before wasOpen
  · exact Nat.le_of_eq (begins open_ isOpen)

theorem pairwise_fedBy
    (began : ∀ open_ ∈ state.context.comment, open_.line ≤ input.number) :
    (fedBy header lastClose state input).Pairwise
      fun first second => first.1 ≤ second.1 := by
  rcases fedBy_cases header lastClose state input with
    ⟨nothing, -⟩ | ⟨inside, bodies, fedEq, -⟩
  · simp [nothing]
  · rw [fedEq]
    refine List.pairwise_append.mpr ⟨?_, ?_, ?_⟩
    · cases state.context.comment <;> simp
    · exact List.pairwise_map.mpr 
        (List.pairwise_of_forall fun _ _ => Nat.le_refl _)
    · intro first inFirst second inSecond
      obtain ⟨open_, isOpen, rfl⟩ := List.mem_map.mp inFirst
      obtain ⟨body, -, rfl⟩ := List.mem_map.mp inSecond
      exact began open_ (Option.mem_toList.mp isOpen)

/-- What a line feeds or leaves open did not begin before what was open, or
before the line itself. -/
theorem floor_le_step (header : Nat) (lastClose : Option Nat) {floor : Nat}
    (reached : floor ≤ input.number)
    (began : ∀ open_ ∈ state.context.comment, floor ≤ open_.line) :
    (∀ comment ∈ fedBy header lastClose state input, floor ≤ comment.1) ∧
      ∀ open_ ∈ (step header lastClose state input).context.comment,
        floor ≤ open_.line := by
  rcases fedBy_cases header lastClose state input with
    ⟨nothing, stays⟩ | ⟨inside, bodies, fedEq, begins⟩
  · refine ⟨by simp [nothing], fun open_ isOpen => ?_⟩
    obtain ⟨before, wasOpen, same⟩ := stays open_ isOpen
    exact same ▸ began before wasOpen
  · refine ⟨fun comment fed => ?_, fun open_ isOpen => ?_⟩
    · rw [fedEq] at fed
      rcases List.mem_append.mp fed with inFirst | inSecond
      · obtain ⟨open_, isOpen, rfl⟩ := List.mem_map.mp inFirst
        exact began open_ (Option.mem_toList.mp isOpen)
      · obtain ⟨body, -, rfl⟩ := List.mem_map.mp inSecond
        exact reached
    · rw [begins open_ isOpen]
      exact reached

end

theorem floor_le_comments (header : Nat) (lastClose : Option Nat) {floor : Nat}
    {state : State} {rest : List Input}
    (reached : ∀ input ∈ rest, floor ≤ input.number)
    (began : ∀ open_ ∈ state.context.comment, floor ≤ open_.line) :
    ∀ comment ∈ comments header lastClose state rest, floor ≤ comment.1 := by
  induction rest generalizing state with
  | nil =>
      intro comment member
      obtain ⟨open_, isOpen, rfl⟩ := List.mem_map.mp member
      exact began open_ (Option.mem_toList.mp isOpen)
  | cons input rest ih =>
      obtain ⟨reachedHere, reachedLater⟩ := List.forall_mem_cons.mp reached
      obtain ⟨fed, opens⟩ := floor_le_step header lastClose reachedHere began
      intro comment member
      rcases List.mem_append.mp member with here | later
      · exact fed comment here
      · exact ih reachedLater opens comment later

/-- The comments of lines in order come in the order of their own lines. -/
theorem pairwise_comments (header : Nat) (lastClose : Option Nat)
    {state : State} {rest : List Input}
    (ordered : rest.Pairwise fun first second => first.number ≤ second.number)
    (began : ∀ open_ ∈ state.context.comment, ∀ input ∈ rest,
      open_.line ≤ input.number) :
    (comments header lastClose state rest).Pairwise
      fun first second => first.1 ≤ second.1 := by
  induction rest generalizing state with
  | nil =>
      unfold comments
      cases state.context.comment <;> simp
  | cons input rest ih =>
      obtain ⟨behind, orderedRest⟩ := List.pairwise_cons.mp ordered
      have beganHere : ∀ open_ ∈ state.context.comment,
          open_.line ≤ input.number :=
        fun open_ isOpen => began open_ isOpen input (by simp)
      refine List.pairwise_append.mpr
        ⟨pairwise_fedBy beganHere, ih orderedRest ?_, ?_⟩
      · intro open_ isOpen later member
        exact Nat.le_trans (line_le_of_open_step beganHere open_ isOpen)
          (behind later member)
      · intro first fed second later
        have begins := line_eq_of_mem_fedBy fed
        have floor := floor_le_comments header lastClose behind
          (fun open_ isOpen => Nat.le_of_eq (begins open_ isOpen).symm)
        exact Nat.le_trans (le_of_mem_fedBy beganHere fed) (floor second later)

theorem pairwise_inputs (lines : List SourceLine) :
    (inputs lines).Pairwise fun first second =>
      first.number ≤ second.number := by
  refine List.pairwise_map.mpr (List.pairwise_iff_getElem.mpr ?_)
  intro first second _ _ before
  simp only [List.getElem_zipIdx]
  omega

/-- A scan feeds directives in the order of their lines. -/
theorem pairwise_directives (header : Nat) (lastClose : Option Nat)
    (lines : List SourceLine) :
    (directives header lastClose lines).Pairwise
      fun first second => first.1 ≤ second.1 := by
  refine List.Pairwise.filterMap _ ?_
    (pairwise_comments header lastClose (pairwise_inputs lines) (by simp))
  intro first second le entry fromFirst other fromSecond
  obtain ⟨directive, -, rfl⟩ := Option.map_eq_some_iff.mp fromFirst
  obtain ⟨directive, -, rfl⟩ := Option.map_eq_some_iff.mp fromSecond
  exact le

end Scan

namespace Document

def directives (text : Text) : List (Nat × Directive) :=
  let lines := SourceLine.split text
  let header := ((frontMatterBlock? lines).map fun found => found.2.2).getD 0
  Scan.directives header (Text.findLast? Comment.closer text) lines

/-- The regions of a document are those of the replay of its directives. -/
theorem regions_of_index {dialect : Dialect} {text : Text} {document : Document}
    (indexed : index dialect text = .ok document) :
    document.regions = (Replay.ofDirectives (directives text)).regions := by
  rw [(isFrom_of_index indexed).regions, harvestOf, Scan.replay_run]
  rfl

end Document

namespace Replay

/-- The regions of comments say what following the comments says, for comments
in the order of their lines and without data.  What is off at a point is always
given by a list of the rules that are off or by one of those that are on, no
comment asks for a region that is not open, and the comments of every document
come in the order of their lines. -/
theorem regions_follow_course :
    (∀ fed : List (Nat × Directive),
      fed.Pairwise (fun first second => first.1 ≤ second.1) →
      (∀ entry ∈ fed, entry.2.action ≠ .configureFile) →
      ∀ (rule : Text) (line : Nat),
        Region.isDisabledAt (ofDirectives fed).regions rule line = true ↔
          Course.fileOff fed (Rule.normalize rule) = true ∨
          Course.lineOff fed (Rule.normalize rule) line = true ∨
          (Course.ofDirectives (fed.filter fun entry => entry.1 < line)).off
            (Rule.normalize rule) = true) ∧
    (∀ fed : List (Nat × Directive),
      (∃ coverage : Coverage,
        (Course.ofDirectives fed).off = coverage.isOff) ∧
      ∃ coverage : Coverage, Course.fileOff fed = coverage.isOff) ∧
    (∀ fed : List (Nat × Directive),
      fed.foldlM (fun replay entry => feed? replay entry.1 entry.2) {} =
        some (ofDirectives fed)) ∧
    ∀ text : Text,
      (Document.directives text).Pairwise
        (fun first second => first.1 ≤ second.1) ∧
      ∀ (dialect : Dialect) (document : Document),
        Document.index dialect text = .ok document →
        document.regions =
          (ofDirectives (Document.directives text)).regions := by
  refine ⟨fun fed ordered noData rule line =>
    isDisabledAt_ofDirectives ordered noData rule line, ?_, foldlM_feed?, ?_⟩
  · intro fed
    refine ⟨⟨(ofDirectives fed).coverage, ?_⟩, ⟨(ofDirectives fed).file, ?_⟩⟩
    · rw [← course_ofDirectives]
      rfl
    · exact (isOff_file_ofDirectives fed).symm
  · intro text
    exact ⟨Scan.pairwise_directives _ _ _,
      fun _ _ indexed => Document.regions_of_index indexed⟩

/-- Two rules are switched off, the state is captured, everything is switched
off on the same line, and a comment further down restores: behind it the first
rule is off and a third one is not. -/
theorem regions_follow_course_restore :
    let named (action : Action) (rules : List String) : Directive :=
      ⟨action, rules.map String.toList, []⟩
    let fed := [(1, named .disable ["MD051", "MD052"]), (3, named .capture []),
      (3, named .disable ["*"]), (5, named .restore [])]
    (fed.Pairwise (fun first second => first.1 ≤ second.1) ∧
      ∀ entry ∈ fed, entry.2.action ≠ .configureFile) ∧
    Region.isDisabledAt (ofDirectives fed).regions "md051".toList 6 = true ∧
    Region.isDisabledAt (ofDirectives fed).regions "MD053".toList 4 = true ∧
    ¬ Region.isDisabledAt (ofDirectives fed).regions "MD053".toList 6 =
      true := by
  intro named fed
  have ordered : fed.Pairwise fun first second => first.1 ≤ second.1 := by
    decide
  have noData : ∀ entry ∈ fed, entry.2.action ≠ .configureFile := by decide
  have follow := regions_follow_course.1 fed ordered noData
  refine ⟨⟨ordered, noData⟩, ?_, ?_, ?_⟩
  · exact (follow _ _).mpr (by decide)
  · exact (follow _ _).mpr (by decide)
  · exact fun off => absurd ((follow _ _).mp off) (by decide)

end Replay

end AnchorLint
