import AnchorLint.Proofs.Document.Lines
import AnchorLint.Proofs.Document.Relocate

/-!
# What a scan knows in advance

Before it reads a line, a scan knows the longest closing fences behind the line
and the place of the last mark that closes a comment.  So it foresees whether a
fence or a comment that begins on the line can end on a later one.  Two scans of
the same lines may be followed by different lines and then know different things;
but if both of them have left every fence and every comment behind these lines,
then what either of them has seen coming is among the lines themselves, and the
other one has seen it coming as well.
-/

namespace AnchorLint

namespace Block

namespace Closers

theorem le_longest_withLine (closers : Closers) (body : Text)
    (character : Char) :
    closers.longest character ≤ (closers.withLine body).longest character := by
  unfold withLine longest
  repeat' split
  all_goals first
    | exact Nat.le_refl _
    | exact Nat.le_max_left _ _

theorem size_le_longest_withLine (closers : Closers) {body : Text}
    {fence : Fence} (parsed : Fence.parse? body = some fence)
    (bare : fence.isBare = true) :
    fence.size ≤ (closers.withLine body).longest fence.character := by
  unfold withLine longest
  rw [parsed]
  dsimp only
  rw [if_pos bare]
  split <;> exact Nat.le_max_right _ _

theorem sweep_snd (bodies : List Text) :
    (sweep bodies).2 = bodies.foldr (fun body closers => closers.withLine body)
      {} := by
  induction bodies with
  | nil => rfl
  | cons body bodies ih => simp [sweep, ih]

end Closers

end Block

namespace Scan

/-- The body of a whole line. -/
def bodyOf (whole : Text) : Text :=
  Block.body (SourceLine.contentOf whole)

/-- The closers of whole lines before those behind them. -/
def closersOf (behind : Block.Closers) (wholes : List Text) : Block.Closers :=
  wholes.foldr (fun whole closers => closers.withLine (bodyOf whole)) behind

/-- A whole line as the scan reads it, if `number` lines are before it. -/
def inputAt (number offset : Nat) (closers : Block.Closers) (whole : Text) :
    Input :=
  ⟨number + 1, SourceLine.ofWhole offset whole, bodyOf whole, closers⟩

/-- Whole lines as the scan reads them, if `number` lines are before them and
`behind` are the closers behind them. -/
def inputsFrom (number offset : Nat) (behind : Block.Closers) :
    List Text → List Input
  | [] => []
  | whole :: rest =>
    inputAt number offset (closersOf behind rest) whole
      :: inputsFrom (number + 1) (offset + whole.length) behind rest

theorem inputsFrom_append (number offset : Nat) (behind : Block.Closers)
    (first second : List Text) :
    inputsFrom number offset behind (first ++ second) =
      inputsFrom number offset (closersOf behind second) first
        ++ inputsFrom (number + first.length)
          (offset + first.flatten.length) behind second := by
  induction first generalizing number offset with
  | nil => simp [inputsFrom]
  | cons whole rest ih =>
      have closers : closersOf behind (rest ++ second) =
          closersOf (closersOf behind second) rest := by
        simp [closersOf]
      simp [inputsFrom, ih, closers, Nat.add_assoc, Nat.add_comm 1]

@[simp]
theorem length_inputsFrom (number offset : Nat) (behind : Block.Closers)
    (wholes : List Text) :
    (inputsFrom number offset behind wholes).length = wholes.length := by
  induction wholes generalizing number offset with
  | nil => rfl
  | cons whole rest ih => simp [inputsFrom, ih]

theorem map_zipIdx_placeFrom (number offset : Nat) (wholes : List Text) :
    (((SourceLine.placeFrom offset wholes).zip
        ((wholes.map bodyOf).zip
          (Block.Closers.sweep (wholes.map bodyOf)).1)).zipIdx number).map
      (fun entry => (⟨entry.2 + 1, entry.1.1, entry.1.2.1, entry.1.2.2⟩ :
        Input)) =
      inputsFrom number offset {} wholes := by
  induction wholes generalizing number offset with
  | nil => rfl
  | cons whole rest ih =>
      have closers := Block.Closers.sweep_snd (rest.map bodyOf)
      rw [List.foldr_map] at closers
      simp only [SourceLine.placeFrom, List.map_cons, Block.Closers.sweep,
        List.zip_cons_cons, List.zipIdx_cons, inputsFrom, ih, closers]
      rfl

theorem inputs_split (text : Text) :
    inputs (SourceLine.split text) =
      inputsFrom 0 0 {} (SourceLine.wholeLines text) := by
  have bodies (offset : Nat) (wholes : List Text) :
      (SourceLine.placeFrom offset wholes).map
        (fun line => Block.body line.content) = wholes.map bodyOf := by
    induction wholes generalizing offset with
    | nil => rfl
    | cons whole rest ih => simp [SourceLine.placeFrom, ih, SourceLine.ofWhole,
        bodyOf]
  rw [SourceLine.split_eq_placeFrom]
  unfold inputs
  dsimp only
  rw [bodies]
  exact map_zipIdx_placeFrom 0 0 _

theorem exists_of_inputsFrom_eq_append {number offset : Nat}
    {behind : Block.Closers} {wholes : List Text} {before after : List Input}
    (cut : inputsFrom number offset behind wholes = before ++ after) :
    ∃ first second, wholes = first ++ second ∧
      before = inputsFrom number offset (closersOf behind second) first ∧
      after = inputsFrom (number + first.length)
        (offset + first.flatten.length) behind second := by
  refine ⟨wholes.take before.length, wholes.drop before.length,
    (List.take_append_drop _ _).symm, ?_⟩
  have length := congrArg List.length cut
  rw [length_inputsFrom, List.length_append] at length
  conv at cut => lhs; rw [← List.take_append_drop before.length wholes]
  rw [inputsFrom_append] at cut
  have parts := List.append_inj cut (by simp; omega)
  exact ⟨parts.1.symm, parts.2.symm⟩

theorem exists_of_inputsFrom_eq_cons {number offset : Nat}
    {behind : Block.Closers} {wholes : List Text} {input : Input}
    {after : List Input}
    (cut : inputsFrom number offset behind wholes = input :: after) :
    ∃ whole rest, wholes = whole :: rest ∧
      input = inputAt number offset (closersOf behind rest) whole ∧
      after = inputsFrom (number + 1) (offset + whole.length) behind rest := by
  cases wholes with
  | nil => cases cut
  | cons whole rest =>
      obtain ⟨rfl, rfl⟩ := List.cons.inj cut
      exact ⟨whole, rest, rfl, rfl, rfl⟩

/-- Lines read at two offsets are related if each of them is. -/
theorem forall₂_inputsFrom {relates : Input → Input → Prop}
    {number offset otherOffset : Nat} {behind otherBehind : Block.Closers}
    {wholes : List Text}
    (each : ∀ before whole after, wholes = before ++ whole :: after →
      relates
        (inputAt (number + before.length) (offset + before.flatten.length)
          (closersOf behind after) whole)
        (inputAt (number + before.length)
          (otherOffset + before.flatten.length)
          (closersOf otherBehind after) whole)) :
    List.Forall₂ relates (inputsFrom number offset behind wholes)
      (inputsFrom number otherOffset otherBehind wholes) := by
  induction wholes generalizing number offset otherOffset with
  | nil => exact .nil
  | cons whole rest ih =>
      refine .cons (each [] whole rest rfl) (ih fun before next after cut => ?_)
      have later := each (whole :: before) next after (by rw [cut]; rfl)
      simpa [Nat.add_assoc, Nat.add_comm 1] using later

/-! ## Foreseeing -/

/-- Whether a scan, when it reads a line, foresees what a later line closes. -/
structure Foresees (lastClose : Option Nat) (earlier later : Input) :
    Prop where
  fence : ∀ opener : Block.Fence, later.closes opener = true →
    opener.size ≤ earlier.closers.longest opener.character
  comment : Comment.closer <:+: later.source.content →
    ∀ start < earlier.source.content.length,
      lastClose.any (earlier.source.span.start + start < ·) = true

theorem size_le_longest_closersOf {behind : Block.Closers}
    {wholes : List Text} {whole : Text} (member : whole ∈ wholes)
    {fence : Block.Fence} (parsed : Block.Fence.parse? (bodyOf whole) = some fence)
    (bare : fence.isBare = true) :
    fence.size ≤ (closersOf behind wholes).longest fence.character := by
  induction wholes with
  | nil => cases member
  | cons first rest ih =>
      rcases List.mem_cons.mp member with rfl | later
      · exact Block.Closers.size_le_longest_withLine _ parsed bare
      · exact Nat.le_trans (ih later)
          (Block.Closers.le_longest_withLine _ _ _)

theorem exists_whole_of_mem_inputsFrom {number offset : Nat}
    {behind : Block.Closers} {wholes : List Text} {input : Input}
    (member : input ∈ inputsFrom number offset behind wholes) :
    ∃ whole ∈ wholes, input.body = bodyOf whole ∧
      input.source.content = SourceLine.contentOf whole := by
  induction wholes generalizing number offset with
  | nil => cases member
  | cons whole rest ih =>
      rcases List.mem_cons.mp member with rfl | later
      · exact ⟨whole, List.mem_cons_self, rfl, rfl⟩
      · obtain ⟨other, inRest, same⟩ := ih later
        exact ⟨other, List.mem_cons_of_mem _ inRest, same⟩

theorem lt_number_of_mem_inputsFrom {number offset : Nat}
    {behind : Block.Closers} {wholes : List Text} {input : Input}
    (member : input ∈ inputsFrom number offset behind wholes) :
    number < input.number := by
  induction wholes generalizing number offset with
  | nil => cases member
  | cons whole rest ih =>
      rcases List.mem_cons.mp member with rfl | later
      · exact Nat.lt_succ_self number
      · exact Nat.lt_of_succ_lt (ih later)

theorem length_contentOf_le (whole : Text) :
    (SourceLine.contentOf whole).length ≤ whole.length :=
  (List.takeWhile_sublist _).length_le

theorem exists_of_closes {input : Input} {opener : Block.Fence}
    (closes : input.closes opener = true) :
    ∃ fence, Block.Fence.parse? input.body = some fence ∧
      fence.character = opener.character ∧ opener.size ≤ fence.size ∧
      fence.isBare = true := by
  unfold Input.closes at closes
  cases parsed : Block.Fence.parse? input.body with
  | none => simp [parsed] at closes
  | some fence =>
      simp only [parsed, Option.any_some, Block.Fence.closes, Bool.and_eq_true,
        beq_iff_eq, decide_eq_true_eq, and_assoc] at closes
      exact ⟨fence, rfl, closes⟩

/-- A scan foresees what each later line of its text closes. -/
theorem pairwise_foresees (number : Nat) (behind : Block.Closers)
    (before : Text) (wholes : List Text) (rest : Text) :
    (inputsFrom number before.length behind wholes).Pairwise
      (Foresees (Text.findLast? Comment.closer
        (before ++ (wholes.flatten ++ rest)))) := by
  induction wholes generalizing number before with
  | nil => exact List.Pairwise.nil
  | cons whole wholes ih =>
      refine List.pairwise_cons.mpr ⟨fun later member => ?_, ?_⟩
      · obtain ⟨other, inWholes, bodyEq, contentEq⟩ :=
          exists_whole_of_mem_inputsFrom member
        refine ⟨fun opener closes => ?_, fun inside start short => ?_⟩
        · obtain ⟨fence, parsed, same, longer, bare⟩ := exists_of_closes closes
          rw [bodyEq] at parsed
          rw [← same]
          exact Nat.le_trans longer
            (size_le_longest_closersOf inWholes parsed bare)
        · -- The later line lies in what follows the earlier one.
          rw [Text.any_findLast?_iff (by decide)]
          have within : start + 1 ≤ whole.length :=
            Nat.le_trans short (length_contentOf_le whole)
          have behindEq : (before ++ ((whole :: wholes).flatten ++ rest)).drop
              (before.length + start + 1) =
              whole.drop (start + 1) ++ (wholes.flatten ++ rest) := by
            rw [Nat.add_assoc, List.drop_append, List.flatten_cons,
              List.append_assoc]
            simp [List.drop_append, Nat.sub_eq_zero_of_le within]
          have inWhole : Comment.closer <:+: other :=
            (contentEq ▸ inside).trans (List.takeWhile_prefix _).isInfix
          have inFlatten : other <:+: wholes.flatten :=
            List.infix_of_mem_flatten inWholes
          change Comment.closer <:+: List.drop (before.length + start + 1) _
          rw [behindEq]
          exact (inWhole.trans inFlatten).trans
            ⟨whole.drop (start + 1), rest, by simp⟩
      · have later := ih (number + 1) (before ++ whole)
        simpa using later

end Scan

/-! ## Comments that stay open -/

namespace Comment

/-- The position of an opener that nothing on a line closes, where `pending` is
the comment open at the start of the line. -/
def dangling? (content : Text) (pending : Option Pending) : Option Nat :=
  match pending with
  | none =>
    (findFrom content (codeSpansFrom content 0) (content.length + 1) 0).dangling
  | some _ =>
    match Text.find? closer content with
    | none => none
    | some stop =>
      (findFrom content (codeSpansFrom content (stop + 3)) (content.length + 1)
        (stop + 3)).dangling

theorem lt_length_of_dangling? {content : Text} {pending : Option Pending}
    {start : Nat} (dangles : dangling? content pending = some start) :
    start < content.length := by
  unfold dangling? at dangles
  repeat' split at dangles
  · exact (findFrom_fits _ _ _ _).2 start dangles
  · cases dangles
  · exact (findFrom_fits _ _ _ _).2 start dangles

/-- An opener that nothing on its line closes begins a comment if a closer
comes. -/
theorem isSome_pending_mask {place : Inline.Place} {lastClose : Option Nat}
    {pending : Option Pending} {start : Nat}
    (dangles : dangling? place.content pending = some start)
    (comes : lastClose.any (place.offset + start < ·) = true) :
    (mask place lastClose pending).pending.isSome = true := by
  unfold dangling? at dangles
  unfold mask
  repeat' split at dangles
  · simp [maskFrom, dangles, comes]
  · cases dangles
  · rename_i found
    simp [found, maskFrom, dangles, comes]

/-- What comments hide in a line depends on its content, and for an opener that
nothing on the line closes on whether a closer comes. -/
theorem mask_congr {place other : Inline.Place}
    {lastClose otherClose : Option Nat} {pending : Option Pending}
    (line : other.line = place.line) (content : other.content = place.content)
    (comes : ∀ start, dangling? place.content pending = some start →
      otherClose.any (other.offset + start < ·) =
        lastClose.any (place.offset + start < ·)) :
    mask other otherClose pending = mask place lastClose pending := by
  have filtered {dangling : Option Nat}
      (comes : ∀ start, dangling = some start →
        otherClose.any (other.offset + start < ·) =
          lastClose.any (place.offset + start < ·)) :
      dangling.filter (fun start => otherClose.any (other.offset + start < ·)) =
        dangling.filter
          (fun start => lastClose.any (place.offset + start < ·)) := by
    cases dangling with
    | none => rfl
    | some start => simp [Option.filter, comes start rfl]
  unfold dangling? at comes
  unfold mask
  rw [content]
  repeat' split at comes
  · unfold maskFrom
    dsimp only
    rw [content, line, filtered comes]
  · rename_i missing
    dsimp only
    rw [missing]
  · rename_i found
    unfold maskFrom
    dsimp only
    rw [found]
    dsimp only
    rw [content, line, filtered comes]

end Comment

namespace Scan

section

variable {header : Nat} {lastClose : Option Nat} {state : State} {input : Input}
  {rest : List Input}

theorem comment_unfenced (noCode : indented? state input = none) :
    (unfenced lastClose state input).context.comment =
      (Comment.mask input.place lastClose state.context.comment).pending := by
  unfold unfenced
  rw [noCode]
  change (plain _ _ _).context.comment = _
  rw [(plain_feeds _ _ _).2, (leaveIndented_keeps _ _).2]

theorem exists_closes_of_opened (behind : header < input.number)
    (outside : state.context.fence = none) {opener : Block.Fence}
    (opened : opened? state.context input = some opener)
    (left : (rest.foldl (step header lastClose)
      (step header lastClose state input)).context.fence = none) :
    ∃ later ∈ rest, later.closes opener = true := by
  rw [step_of_opened behind outside opened] at left
  exact exists_closes_of_fence rfl left

theorem exists_closer_of_dangling (behind : header < input.number)
    (outside : state.context.fence = none)
    (opens : opened? state.context input = none)
    (noCode : indented? state input = none) {start : Nat}
    (dangles : Comment.dangling? input.source.content state.context.comment =
      some start)
    (comes : lastClose.any (input.source.span.start + start < ·) = true)
    (left : (rest.foldl (step header lastClose)
      (step header lastClose state input)).context.comment = none) :
    ∃ later ∈ rest, Comment.closer <:+: later.source.content := by
  rw [step_of_unfenced behind outside opens] at left
  refine exists_closer_of_comment ?_ left
  rw [comment_unfenced noCode]
  exact Comment.isSome_pending_mask dangles comes

end

/-- Two lines with the same body open the same fence if what either of them
opens is closed behind the other. -/
theorem opened?_congr {context : Context} {input other : Input}
    (body : other.body = input.body)
    (comes : ∀ opener, opened? context input = some opener →
      opener.size ≤ other.closers.longest opener.character)
    (otherComes : ∀ opener, opened? context other = some opener →
      opener.size ≤ input.closers.longest opener.character) :
    opened? context other = opened? context input := by
  unfold opened? at comes otherComes ⊢
  rw [body] at otherComes ⊢
  cases opening : opening? context input.body with
  | none => rfl
  | some opener =>
      rw [opening] at comes otherComes
      by_cases fits : opener.size ≤ input.closers.longest opener.character
      · have otherFits := comes opener
          (Option.filter_some_pos (decide_eq_true fits))
        simp [Option.filter, fits, otherFits]
      · have otherFits : ¬ opener.size ≤
            other.closers.longest opener.character := by
          intro otherFits
          exact fits (otherComes opener
            (Option.filter_some_pos (decide_eq_true otherFits)))
        simp [Option.filter, fits, otherFits]

theorem exists_mem_iff {α β : Type} {relates : α → β → Prop} {xs : List α}
    {ys : List β} (related : List.Forall₂ relates xs ys) {holds : α → Prop}
    {otherHolds : β → Prop}
    (same : ∀ x y, relates x y → (holds x ↔ otherHolds y)) :
    (∃ x ∈ xs, holds x) ↔ ∃ y ∈ ys, otherHolds y := by
  induction related with
  | nil => simp
  | cons here _ ih => simp [same _ _ here, ih]

/-! ## Scans that have left everything behind -/

/-- Whether neither a fence nor a comment is open behind lines. -/
structure Leaves (header : Nat) (lastClose : Option Nat) (state : State)
    (inputs : List Input) : Prop where
  fence : (inputs.foldl (step header lastClose) state).context.fence = none
  comment : (inputs.foldl (step header lastClose) state).context.comment = none

section

variable {moves : Relocation} {header : Nat} {lastClose otherClose : Option Nat}
  {one other : State} {input otherInput : Input} {inputs others : List Input}

/-- Scans that leave the fences they open agree on the fence that a line
opens. -/
theorem opened?_of_leaves (related : one.Relates moves other)
    (here : input.Carries moves otherInput)
    (later : List.Forall₂ (Input.Carries moves) inputs others)
    (foresees : ∀ next ∈ inputs, Foresees lastClose input next)
    (otherForesees : ∀ next ∈ others, Foresees otherClose otherInput next)
    (leaves : Leaves header lastClose one (input :: inputs))
    (otherLeaves : Leaves header otherClose other (otherInput :: others))
    (behind : header < input.number) (outside : one.context.fence = none) :
    opened? one.context otherInput = opened? one.context input := by
  have otherBehind : header < otherInput.number := here.number ▸ behind
  have otherOutside : other.context.fence = none := related.context ▸ outside
  have closesIff (opener : Block.Fence) :
      (∃ next ∈ inputs, next.closes opener = true) ↔
        ∃ next ∈ others, next.closes opener = true :=
    exists_mem_iff later fun x y carries => by rw [carries.closes]
  refine opened?_congr here.body (fun opener opened => ?_) fun opener opened => ?_
  · obtain ⟨next, member, closes⟩ := (closesIff opener).mp
      (exists_closes_of_opened behind outside opened leaves.fence)
    exact (otherForesees next member).fence opener closes
  · rw [← related.context] at opened
    obtain ⟨next, member, closes⟩ := (closesIff opener).mpr
      (exists_closes_of_opened otherBehind otherOutside opened
        otherLeaves.fence)
    exact (foresees next member).fence opener closes

/-- Scans that leave everything behind agree on a line: whatever one of them
opens on it is closed by a line that both of them have seen coming. -/
theorem agree_of_leaves (related : one.Relates moves other)
    (here : input.Carries moves otherInput)
    (later : List.Forall₂ (Input.Carries moves) inputs others)
    (foresees : ∀ next ∈ inputs, Foresees lastClose input next)
    (otherForesees : ∀ next ∈ others, Foresees otherClose otherInput next)
    (leaves : Leaves header lastClose one (input :: inputs))
    (otherLeaves : Leaves header otherClose other (otherInput :: others))
    (behind : header < input.number) :
    Agree lastClose otherClose one input otherInput := by
  have openedEq := opened?_of_leaves related here later foresees otherForesees
    leaves otherLeaves behind
  refine ⟨openedEq, fun outside opens noCode => ?_⟩
  have otherBehind : header < otherInput.number := here.number ▸ behind
  have otherOutside : other.context.fence = none := related.context ▸ outside
  have otherOpens : opened? other.context otherInput = none := by
    rw [related.context, openedEq outside, opens]
  have otherNoCode := related.indented?_eq_none here noCode
  have closerIff :
      (∃ next ∈ inputs, Comment.closer <:+: next.source.content) ↔
        ∃ next ∈ others, Comment.closer <:+: next.source.content :=
    exists_mem_iff later fun x y carries => by rw [carries.content]
  refine Comment.mask_congr here.place.line here.place.content
    fun start dangles => ?_
  have otherDangles : Comment.dangling? otherInput.source.content
      other.context.comment = some start := by
    rw [here.content, related.context]
    exact dangles
  rw [Bool.eq_iff_iff]
  constructor
  · intro comes
    obtain ⟨next, member, closes⟩ := closerIff.mpr
      (exists_closer_of_dangling otherBehind otherOutside otherOpens otherNoCode
        otherDangles comes otherLeaves.comment)
    exact (foresees next member).comment closes start
      (Comment.lt_length_of_dangling? dangles)
  · intro comes
    obtain ⟨next, member, closes⟩ := closerIff.mp
      (exists_closer_of_dangling behind outside opens noCode dangles comes
        leaves.comment)
    exact (otherForesees next member).comment closes start
      (Comment.lt_length_of_dangling? otherDangles)

/-- Scans of the same lines find the same up to the spans if both of them leave
everything behind, whatever follows the lines. -/
theorem relates_of_leaves
    (carries : List.Forall₂ (Input.Carries moves) inputs others)
    (related : one.Relates moves other)
    (foresees : inputs.Pairwise (Foresees lastClose))
    (otherForesees : others.Pairwise (Foresees otherClose))
    (leaves : Leaves header lastClose one inputs)
    (otherLeaves : Leaves header otherClose other others) :
    (inputs.foldl (step header lastClose) one).Relates moves
      (others.foldl (step header otherClose) other) := by
  induction carries generalizing one other with
  | nil => exact related
  | cons here later ih =>
      obtain ⟨foreseesHere, foreseesLater⟩ := List.pairwise_cons.mp foresees
      obtain ⟨otherHere, otherLater⟩ := List.pairwise_cons.mp otherForesees
      have agree := agree_of_leaves related here later foreseesHere otherHere
        leaves otherLeaves
      exact ih (step_relates related here agree) foreseesLater otherLater
        ⟨leaves.fence, leaves.comment⟩ ⟨otherLeaves.fence, otherLeaves.comment⟩

end

end Scan

end AnchorLint
