import AnchorLint.Proofs.Document.Comments
import AnchorLint.Proofs.Text.Find

/-!
# Fenced blocks in a scan

What a line does while a fence is open depends on its body alone, and whether it
opens a fence depends on the context and on the closers behind it.  This file
says so with one equation per case, and from these equations it follows what a
scan has gone through when it has recorded a fenced block, when it has left a
fence and when it has left a comment.
-/

namespace AnchorLint

namespace Scan

def Input.closes (input : Input) (opener : Block.Fence) : Bool :=
  (Block.Fence.parse? input.body).any fun fence => fence.closes opener

/-- The fence that a line opens if another line closes it. -/
def opening? (context : Context) (body : Text) : Option Block.Fence :=
  (Block.Fence.parse? body).bind fun fence =>
    if context.comment.isSome ∨
        context.indented.isSome ∧ 4 ≤ Block.indentWidth body ∨
        fence.character = Markup.backtick ∧
          (Text.trim fence.info).elem Markup.backtick then none
    else some { fence with info := Text.trim fence.info }

def opened? (context : Context) (input : Input) : Option Block.Fence :=
  (opening? context input.body).filter fun fence =>
    fence.size ≤ input.closers.longest fence.character

def openFence (state : State) (input : Input) (opener : Block.Fence) : State :=
  afterFenced
    { context := { state.context with
        fence := some (input.number, opener), indented := none }
      harvest := state.harvest.closeIndented state.context.indented }

def closeFence (state : State) (input : Input) (first : Nat)
    (opener : Block.Fence) : State :=
  afterFenced
    { context := { state.context with fence := none }
      harvest := state.harvest.addCodeBlock
        ⟨first, input.number, opener.marker, opener.info⟩ }

def State.addLine (state : State) (input : Input)
    (inCode inFrontMatter : Bool) : State :=
  { state with harvest := state.harvest.addLine input inCode inFrontMatter }

/-- The state behind a line outside of front matter and fenced code. -/
def unfenced (lastClose : Option Nat) (state : State) (input : Input) : State :=
  match indented? state input with
  | some after => after.addLine input true false
  | none =>
    (plain (leaveIndented state input) input lastClose).addLine input false false

/-! ## What a line does -/

section

variable {header : Nat} {lastClose : Option Nat} {state : State} {input : Input}
  {first : Nat} {opener : Block.Fence}

theorem comment_of_opened? {context : Context}
    (opened : opened? context input = some opener) : context.comment = none := by
  obtain ⟨opening, -⟩ := Option.filter_eq_some_iff.mp opened
  obtain ⟨fence, -, allowed⟩ := Option.bind_eq_some_iff.mp opening
  split at allowed
  · cases allowed
  · rename_i outside
    exact Option.not_isSome_iff_eq_none.mp fun inComment =>
      outside (Or.inl inComment)

theorem fenced?_of_fence (isOpen : state.context.fence = some (first, opener)) :
    fenced? state input =
      some (if input.closes opener then closeFence state input first opener
        else afterFenced state) := by
  unfold fenced? Input.closes closeFence
  dsimp only
  rw [isOpen]
  dsimp only
  split <;> rfl

theorem fenced?_of_none (outside : state.context.fence = none) :
    fenced? state input =
      (opened? state.context input).map (openFence state input) := by
  unfold fenced? opened? opening? openFence
  dsimp only
  rw [outside]
  cases Block.Fence.parse? input.body with
  | none => rfl
  | some fence =>
      dsimp only [Option.bind_some]
      by_cases inComment : state.context.comment.isSome = true
      · simp [inComment]
      by_cases inCode : state.context.indented.isSome = true ∧
          4 ≤ Block.indentWidth input.body
      · simp [inComment, inCode]
      by_cases marked : fence.character = Markup.backtick ∧
          (Text.trim fence.info).elem Markup.backtick = true
      · simp only [inComment, inCode, marked, if_false]
        simp
      simp only [inComment, inCode, marked, Bool.false_eq_true, if_false,
        or_false]
      -- Trimming the text behind a fence changes neither its size nor its
      -- character, so both sides put the same question to the closers.
      by_cases short : input.closers.longest fence.character < fence.size
      · rw [if_pos short, Option.filter_some_neg]
        · rfl
        · exact decide_eq_false (Nat.not_le_of_lt short)
      · rw [if_neg short, Option.filter_some_pos]
        · rfl
        · exact decide_eq_true (Nat.le_of_not_lt short)

theorem step_of_le (front : input.number ≤ header) :
    step header lastClose state input = state.addLine input false true := by
  unfold step
  rw [if_pos front]
  rfl

theorem step_of_fence (behind : header < input.number)
    (isOpen : state.context.fence = some (first, opener)) :
    step header lastClose state input =
      (if input.closes opener then closeFence state input first opener
        else afterFenced state).addLine input true false := by
  unfold step
  rw [if_neg (Nat.not_le_of_lt behind), fenced?_of_fence isOpen]
  rfl

theorem step_of_opened (behind : header < input.number)
    (outside : state.context.fence = none)
    (opened : opened? state.context input = some opener) :
    step header lastClose state input =
      (openFence state input opener).addLine input true false := by
  unfold step
  rw [if_neg (Nat.not_le_of_lt behind), fenced?_of_none outside, opened]
  rfl

theorem step_of_unfenced (behind : header < input.number)
    (outside : state.context.fence = none)
    (opens : opened? state.context input = none) :
    step header lastClose state input = unfenced lastClose state input := by
  unfold step unfenced
  rw [if_neg (Nat.not_le_of_lt behind), fenced?_of_none outside, opens]
  dsimp only [Option.map_none]
  cases indented? state input <;> rfl

end

/-! ## What a line leaves as it is -/

@[simp]
theorem codeBlocks_plain (state : State) (input : Input)
    (lastClose : Option Nat) :
    (plain state input lastClose).harvest.codeBlocks =
      state.harvest.codeBlocks := by
  obtain ⟨_, _, _, _, _, _, _, _, _, _, _, _, _, same⟩ :=
    plain_changes state input lastClose
  rw [same]

@[simp]
theorem fence_plain (state : State) (input : Input) (lastClose : Option Nat) :
    (plain state input lastClose).context.fence = state.context.fence := by
  obtain ⟨_, _, _, _, _, _, _, _, _, _, _, _, _, same⟩ :=
    plain_changes state input lastClose
  rw [same]

theorem indented?_keeps_fence {state after : State} {input : Input}
    (indented : indented? state input = some after) :
    after.context.fence = state.context.fence ∧
      after.harvest.codeBlocks = state.harvest.codeBlocks := by
  obtain ⟨range, rfl⟩ := indented?_changes indented
  exact ⟨rfl, rfl⟩

theorem fence_unfenced (lastClose : Option Nat) (state : State)
    (input : Input) :
    (unfenced lastClose state input).context.fence = state.context.fence := by
  unfold unfenced
  split
  · rename_i after indented
    exact (indented?_keeps_fence indented).1
  · change (plain _ _ _).context.fence = _
    obtain ⟨indented, codeBlocks, same⟩ := leaveIndented_changes state input
    rw [fence_plain, same]

theorem mem_codeBlocks_closeIndented {harvest : Harvest}
    {indented : Option (Nat × Nat)} {block : CodeBlock} (fenced : block.fence ≠ [])
    (member : block ∈ (harvest.closeIndented indented).codeBlocks) :
    block ∈ harvest.codeBlocks := by
  cases indented with
  | none => exact member
  | some range =>
      rcases List.mem_cons.mp member with rfl | old
      · exact absurd rfl fenced
      · exact old

theorem mem_codeBlocks_unfenced {lastClose : Option Nat} {state : State}
    {input : Input} {block : CodeBlock} (fenced : block.fence ≠ [])
    (member : block ∈ (unfenced lastClose state input).harvest.codeBlocks) :
    block ∈ state.harvest.codeBlocks := by
  unfold unfenced at member
  split at member
  · rename_i after indented
    exact (indented?_keeps_fence indented).2 ▸ member
  · change block ∈ (plain _ _ _).harvest.codeBlocks at member
    rw [codeBlocks_plain] at member
    unfold leaveIndented at member
    split at member
    · exact member
    · exact mem_codeBlocks_closeIndented fenced member

/-! ## What a scan has gone through -/

section

variable {header : Nat} {lastClose : Option Nat}

/-- A fenced block that a line records was open before, and the line closes it. -/
theorem mem_codeBlocks_step {state : State} {input : Input} {block : CodeBlock}
    (fenced : block.fence ≠ [])
    (member : block ∈
      (step header lastClose state input).harvest.codeBlocks) :
    block ∈ state.harvest.codeBlocks ∨
      header < input.number ∧ block.lastLine = input.number ∧
        ∃ opener, state.context.fence = some (block.firstLine, opener) ∧
          input.closes opener = true ∧ block.fence = opener.marker ∧
          block.info = opener.info := by
  rcases Nat.lt_or_ge header input.number with behind | front
  · cases isOpen : state.context.fence with
    | some entry =>
        rw [step_of_fence behind isOpen] at member
        cases closes : input.closes entry.2 with
        | false =>
            rw [closes] at member
            exact Or.inl member
        | true =>
            rw [closes, if_pos rfl] at member
            rcases List.mem_cons.mp member with rfl | old
            · exact Or.inr ⟨behind, rfl, entry.2, rfl, closes, rfl, rfl⟩
            · exact Or.inl old
    | none =>
        cases opened : opened? state.context input with
        | some opener =>
            rw [step_of_opened behind isOpen opened] at member
            exact Or.inl (mem_codeBlocks_closeIndented fenced member)
        | none =>
            rw [step_of_unfenced behind isOpen opened] at member
            exact Or.inl (mem_codeBlocks_unfenced fenced member)
  · rw [step_of_le front] at member
    exact Or.inl member

theorem exists_closer_of_mem_codeBlocks {inputs : List Input} {state : State}
    {block : CodeBlock} (fenced : block.fence ≠ [])
    (member : block ∈
      (inputs.foldl (step header lastClose) state).harvest.codeBlocks) :
    block ∈ state.harvest.codeBlocks ∨
      ∃ before closer after, inputs = before ++ closer :: after ∧
        block.lastLine = closer.number ∧
        ∃ opener, (before.foldl (step header lastClose) state).context.fence =
            some (block.firstLine, opener) ∧
          closer.closes opener = true ∧ block.fence = opener.marker ∧
          block.info = opener.info := by
  induction inputs generalizing state with
  | nil => exact Or.inl member
  | cons input inputs ih =>
      rcases ih member with here | ⟨before, closer, after, rfl, later⟩
      · rcases mem_codeBlocks_step fenced here with old | ⟨-, last, closes⟩
        · exact Or.inl old
        · exact Or.inr ⟨[], input, inputs, rfl, last, closes⟩
      · exact Or.inr ⟨input :: before, closer, after, rfl, later⟩

/-- Whether the line `start` opens a fence behind the lines `before`, and none of
the lines `inside` closes it. -/
structure Opens (header : Nat) (lastClose : Option Nat) (state : State)
    (before : List Input) (start : Input) (inside : List Input)
    (opener : Block.Fence) : Prop where
  behind : header < start.number
  outside : (before.foldl (step header lastClose) state).context.fence = none
  opened : opened? (before.foldl (step header lastClose) state).context start =
    some opener
  stays : ∀ input ∈ inside, header < input.number →
    input.closes opener = false

theorem Opens.snoc {state : State} {before inside : List Input} {start : Input}
    {opener : Block.Fence}
    (opens : Opens header lastClose state before start inside opener)
    {input : Input}
    (stays : header < input.number → input.closes opener = false) :
    Opens header lastClose state before start (inside ++ [input]) opener := by
  refine ⟨opens.behind, opens.outside, opens.opened, ?_⟩
  intro other member
  rcases List.mem_append.mp member with old | last
  · exact opens.stays other old
  · exact List.mem_singleton.mp last ▸ stays

/-- A fence that is open was opened by a line, and no line since then closes
it. -/
theorem exists_opens_of_fence {inputs : List Input} {state : State}
    (outside : state.context.fence = none) {first : Nat}
    {opener : Block.Fence}
    (isOpen : (inputs.foldl (step header lastClose) state).context.fence =
      some (first, opener)) :
    ∃ before start inside, inputs = before ++ start :: inside ∧
      start.number = first ∧
      Opens header lastClose state before start inside opener := by
  induction inputs using List.reverseRecOn with
  | nil => simp [outside] at isOpen
  | append_singleton inputs input ih =>
      rw [List.foldl_append, List.foldl_cons, List.foldl_nil] at isOpen
      rcases Nat.lt_or_ge header input.number with behind | front
      · cases wasOpen :
            (inputs.foldl (step header lastClose) state).context.fence with
        | some entry =>
            rw [step_of_fence behind wasOpen] at isOpen
            cases closes : input.closes entry.2 with
            | true =>
                rw [closes] at isOpen
                simp [State.addLine, closeFence, afterFenced] at isOpen
            | false =>
                rw [closes] at isOpen
                have same : some entry = some (first, opener) :=
                  wasOpen.symm.trans isOpen
                cases same
                obtain ⟨before, start, inside, rfl, number, opens⟩ := ih wasOpen
                exact ⟨before, start, inside ++ [input], by simp, number,
                  opens.snoc fun _ => closes⟩
        | none =>
            cases opened : opened?
                (inputs.foldl (step header lastClose) state).context input with
            | some fence =>
                rw [step_of_opened behind wasOpen opened] at isOpen
                have same : some (input.number, fence) = some (first, opener) :=
                  isOpen
                cases same
                exact ⟨inputs, input, [], rfl, rfl,
                  ⟨behind, wasOpen, opened, by simp⟩⟩
            | none =>
                rw [step_of_unfenced behind wasOpen opened, fence_unfenced,
                  wasOpen] at isOpen
                cases isOpen
      · rw [step_of_le front] at isOpen
        obtain ⟨before, start, inside, rfl, number, opens⟩ := ih isOpen
        exact ⟨before, start, inside ++ [input], by simp, number,
          opens.snoc fun behind => absurd front (Nat.not_le_of_lt behind)⟩

/-- The scan of a fenced block: a line opens it, and the first line that can
closes it. -/
theorem exists_opens_of_mem_codeBlocks {inputs : List Input} {block : CodeBlock}
    (fenced : block.fence ≠ [])
    (member : block ∈
      (inputs.foldl (step header lastClose) {}).harvest.codeBlocks) :
    ∃ before start inside stop after opener,
      inputs = before ++ start :: inside ++ stop :: after ∧
      start.number = block.firstLine ∧ stop.number = block.lastLine ∧
      Opens header lastClose {} before start inside opener ∧
      stop.closes opener = true ∧ block.fence = opener.marker ∧
      block.info = opener.info := by
  rcases exists_closer_of_mem_codeBlocks fenced member with
    none_ | ⟨scanned, stop, after, rfl, last, opener, isOpen, closes⟩
  · cases none_
  · obtain ⟨before, start, inside, rfl, first, opens⟩ :=
      exists_opens_of_fence rfl isOpen
    exact ⟨before, start, inside, stop, after, opener, rfl, first, last.symm,
      opens, closes⟩

theorem exists_closes_of_fence {inputs : List Input} {state : State}
    {first : Nat} {opener : Block.Fence}
    (isOpen : state.context.fence = some (first, opener))
    (left : (inputs.foldl (step header lastClose) state).context.fence = none) :
    ∃ input ∈ inputs, input.closes opener = true := by
  induction inputs generalizing state with
  | nil => simp [isOpen] at left
  | cons input inputs ih =>
      have later (stays : (step header lastClose state input).context.fence =
          some (first, opener)) :
          ∃ other ∈ input :: inputs, other.closes opener = true := by
        obtain ⟨other, member, closes⟩ := ih stays left
        exact ⟨other, List.mem_cons_of_mem input member, closes⟩
      rcases Nat.lt_or_ge header input.number with behind | front
      · cases closes : input.closes opener with
        | true => exact ⟨input, List.mem_cons_self, closes⟩
        | false =>
            apply later
            rw [step_of_fence behind isOpen, closes]
            exact isOpen
      · apply later
        rw [step_of_le front]
        exact isOpen

theorem exists_closer_of_comment {inputs : List Input} {state : State}
    (inComment : state.context.comment.isSome = true)
    (left : (inputs.foldl (step header lastClose) state).context.comment =
      none) :
    ∃ input ∈ inputs, Comment.closer <:+: input.source.content := by
  induction inputs generalizing state with
  | nil => simp_all
  | cons input inputs ih =>
      by_cases closes : Comment.closer <:+: input.source.content
      · exact ⟨input, List.mem_cons_self, closes⟩
      · have stays : (step header lastClose state
            input).context.comment.isSome = true := by
          obtain ⟨pending, isOpen⟩ := Option.isSome_iff_exists.mp inComment
          have missing : Text.find? Comment.closer input.place.content = none := by
            rw [← Option.not_isSome_iff_eq_none, Text.isSome_find?_iff]
            exact closes
          rcases (step_feeds header lastClose state input).2 with
            ⟨-, same⟩ | ⟨-, masked⟩
          · rw [same]
            exact inComment
          · rw [masked, isOpen]
            simp [Comment.mask, missing]
        obtain ⟨other, member, later⟩ := ih stays left
        exact ⟨other, List.mem_cons_of_mem input member, later⟩

end

end Scan

end AnchorLint
