import AnchorLint.Proofs.Document.Unclosed

/-!
# Blocks of code and the lines in them

A scan records blocks of code, and it marks lines as code.  This file shows that
the two agree.  Behind every line, the blocks recorded so far, together with the
block that is still open, are disjoint intervals in increasing order, and a line
is code if and only if one of them holds it, except for the blank lines of
indented code.  At the end of a document no fence is open, because a line opens a
fence only if a later one closes it, and open indented code is recorded.
-/

namespace AnchorLint

/-- Whether a block makes code of a line with a number and a content: blank lines
in indented code are no code. -/
def CodeBlock.Covers (block : CodeBlock) (number : Nat) (content : Text) : Prop :=
  block.firstLine ≤ number ∧ number ≤ block.lastLine ∧
    (block.fence ≠ [] ∨ Text.isBlank content = false)

/-! ## Every fence is closed -/

namespace Block

theorem Fence.character_of_parse? {body : Text} {fence : Fence}
    (parsed : parse? body = some fence) :
    (fence.character = Markup.backtick ∨ fence.character = '~') ∧
      fence.marker ≠ [] ∧ 0 < fence.size := by
  unfold parse? at parsed
  dsimp only at parsed
  split at parsed
  · rename_i first rest equal
    split at parsed
    · rename_i known
      split at parsed
      · cases parsed
      · obtain rfl := Option.some.inj parsed
        rw [equal]
        simpa [character, size] using known
    · cases parsed
  · cases parsed

theorem Closers.longest_withLine (closers : Closers) (body : Text)
    {character : Char}
    (known : character = Markup.backtick ∨ character = '~') :
    (closers.withLine body).longest character = closers.longest character ∨
      ∃ fence, Fence.parse? body = some fence ∧ fence.isBare = true ∧
        fence.character = character ∧
        (closers.withLine body).longest character =
          max (closers.longest character) fence.size := by
  unfold withLine
  cases parsed : Fence.parse? body with
  | none => exact Or.inl rfl
  | some fence =>
      dsimp only
      obtain ⟨knownFence, -, -⟩ := Fence.character_of_parse? parsed
      have different : Markup.backtick ≠ '~' := by decide
      cases bare : fence.isBare with
      | false => exact Or.inl rfl
      | true =>
          by_cases same : fence.character = character
          · refine Or.inr ⟨fence, rfl, bare, same, ?_⟩
            rcases known with rfl | rfl <;> simp [same, longest, different]
          · left
            rcases known with rfl | rfl <;> rcases knownFence with one | one <;>
              simp_all [longest]

end Block

namespace Scan

theorem exists_of_le_longest {wholes : List Text} {character : Char}
    (known : character = Markup.backtick ∨ character = '~') {size : Nat}
    (positive : 0 < size)
    (fits : size ≤ (closersOf {} wholes).longest character) :
    ∃ whole ∈ wholes, ∃ fence, Block.Fence.parse? (bodyOf whole) = some fence ∧
      fence.isBare = true ∧ fence.character = character ∧
      size ≤ fence.size := by
  induction wholes with
  | nil =>
      have nothing : (closersOf {} []).longest character = 0 := by
        rcases known with rfl | rfl <;> rfl
      omega
  | cons whole wholes ih =>
      have later : size ≤ (closersOf {} wholes).longest character →
          ∃ other ∈ whole :: wholes, ∃ fence,
            Block.Fence.parse? (bodyOf other) = some fence ∧
              fence.isBare = true ∧ fence.character = character ∧
              size ≤ fence.size := by
        intro fitsLater
        obtain ⟨other, member, found⟩ := ih fitsLater
        exact ⟨other, List.mem_cons_of_mem _ member, found⟩
      rcases Block.Closers.longest_withLine (closersOf {} wholes) (bodyOf whole)
          known with same | ⟨fence, parsed, bare, sameCharacter, longest⟩
      · exact later (same ▸ fits)
      · by_cases long : size ≤ fence.size
        · exact ⟨whole, by simp, fence, parsed, bare, sameCharacter, long⟩
        · refine later ?_
          change size ≤ ((closersOf {} wholes).withLine (bodyOf whole)).longest
            character at fits
          omega

/-- A line opens a fence only if a later line closes it. -/
theorem exists_closes_of_opened? {number offset : Nat} {whole : Text}
    {rest : List Text} {context : Context} {opener : Block.Fence}
    (opened : opened? context
      (inputAt number offset (closersOf {} rest) whole) = some opener)
    (nextNumber nextOffset : Nat) :
    ∃ later ∈ inputsFrom nextNumber nextOffset {} rest,
      later.closes opener = true := by
  obtain ⟨opening, fits⟩ := Option.filter_eq_some_iff.mp opened
  obtain ⟨parsedFence, parsed, allowed⟩ := Option.bind_eq_some_iff.mp opening
  obtain ⟨known, -, positive⟩ := Block.Fence.character_of_parse? parsed
  split at allowed
  · cases allowed
  · obtain rfl := Option.some.inj allowed
    obtain ⟨closing, member, fence, parsedClosing, bare, same, long⟩ :=
      exists_of_le_longest known positive (of_decide_eq_true fits)
    obtain ⟨input, inInputs, body⟩ :=
      (@exists_mem_iff _ _ _ _ _ (forall₂_bodyOf nextNumber nextOffset {} rest)
        (fun whole => bodyOf whole = bodyOf closing)
        (fun input => input.body = bodyOf closing)
        fun whole input same => by rw [same]).mp ⟨closing, member, rfl⟩
    refine ⟨input, inInputs, ?_⟩
    rw [Input.closes, body, parsedClosing]
    simp only [Option.any_some, Block.Fence.closes, Bool.and_eq_true, beq_iff_eq,
      decide_eq_true_eq]
    exact ⟨⟨same, long⟩, bare⟩

end Scan

namespace Document

/-- No fence is open at the end of a text. -/
theorem fence_stateBehind (text : Text) :
    (stateBehind text (scanned text)).context.fence = none := by
  cases isOpen : (stateBehind text (scanned text)).context.fence with
  | none => rfl
  | some entry =>
      obtain ⟨before, start, inside, cut, -, opens⟩ :=
        Scan.exists_opens_of_fence rfl isOpen
      obtain ⟨first, whole, rest, -, -, rfl, rfl⟩ := exists_cut_of_scanned cut
      obtain ⟨later, member, closes⟩ := Scan.exists_closes_of_opened? opens.opened
        (first.length + 1) (first.flatten.length + whole.length)
      have behind := opens.behind
      have number := Scan.lt_number_of_mem_inputsFrom member
      have stays := opens.stays later member (by
        simp only [Scan.inputAt] at behind
        omega)
      rw [closes] at stays
      cases stays

end Document

/-! ## Blocks and flags -/

namespace CodeBlock

/-- Whether blocks of code agree with lines: `contents` are those of the lines,
`flags` says which of them are code, and the first `header` lines are front
matter. -/
structure Agree (header : Nat) (contents : List Text) (flags : List Bool)
    (blocks : List CodeBlock) : Prop where
  length : flags.length = contents.length
  ordered : blocks.Pairwise fun first second =>
    first.lastLine < second.firstLine
  within : ∀ block ∈ blocks, header < block.firstLine ∧
    block.firstLine ≤ block.lastLine ∧ block.lastLine ≤ contents.length
  flagged : ∀ index content, contents[index]? = some content →
    (flags[index]? = some true ↔
      ∃ block ∈ blocks, block.Covers (index + 1) content)

theorem getElem?_snoc {α : Type} {items : List α} {item found : α} {index : Nat}
    (here : (items ++ [item])[index]? = some found) :
    index < items.length ∧ items[index]? = some found ∨
      index = items.length ∧ found = item := by
  rcases Nat.lt_or_ge index items.length with early | late
  · rw [List.getElem?_append_left early] at here
    exact Or.inl ⟨early, here⟩
  · rw [List.getElem?_append_right late, List.getElem?_singleton] at here
    split at here
    · exact Or.inr ⟨by omega, (Option.some.inj here).symm⟩
    · cases here

namespace Agree

variable {header : Nat} {contents : List Text} {flags : List Bool}

theorem empty (header : Nat) : Agree header [] [] [] :=
  ⟨rfl, .nil, by simp, by simp⟩

theorem addPlain {blocks : List CodeBlock}
    (agree : Agree header contents flags blocks) (content : Text) :
    Agree header (contents ++ [content]) (flags ++ [false]) blocks := by
  refine ⟨by simp [agree.length], agree.ordered, ?_, ?_⟩
  · intro block member
    obtain ⟨behind, proper, ends⟩ := agree.within block member
    exact ⟨behind, proper, by simp; omega⟩
  · intro index found here
    rcases getElem?_snoc here with ⟨early, old⟩ | ⟨rfl, rfl⟩
    · rw [List.getElem?_append_left (agree.length ▸ early)]
      exact agree.flagged index found old
    · rw [← agree.length, List.getElem?_concat_length]
      simp only [Option.some.injEq, Bool.false_eq_true, false_iff, not_exists,
        not_and]
      intro block member covers
      obtain ⟨-, -, ends⟩ := agree.within block member
      have := covers.2.1
      have := agree.length
      omega

/-- One more line of code extends the block that is open before it, or it starts
a block. -/
theorem addCode {recorded : List CodeBlock} {before : Option CodeBlock}
    (agree : Agree header contents flags (recorded ++ before.toList))
    {content : Text} {block : CodeBlock}
    (behind : header < block.firstLine)
    (proper : block.firstLine ≤ contents.length + 1)
    (ends : block.lastLine = contents.length + 1)
    (code : block.fence ≠ [] ∨ Text.isBlank content = false)
    (follows : ∀ other ∈ recorded, other.lastLine < block.firstLine)
    (extends_ : ∀ index other, contents[index]? = some other →
      (block.Covers (index + 1) other ↔
        ∃ old ∈ before, old.Covers (index + 1) other)) :
    Agree header (contents ++ [content]) (flags ++ [true])
      (recorded ++ [block]) := by
  refine ⟨by simp [agree.length], ?_, ?_, ?_⟩
  · refine List.pairwise_append.mpr
      ⟨(List.pairwise_append.mp agree.ordered).1, List.pairwise_singleton _ _, ?_⟩
    intro other member last isLast
    exact List.mem_singleton.mp isLast ▸ follows other member
  · intro other member
    rw [List.length_append, List.length_singleton]
    rcases List.mem_append.mp member with old | last
    · obtain ⟨behind, proper, ends⟩ :=
        agree.within other (List.mem_append_left _ old)
      exact ⟨behind, proper, by omega⟩
    · rw [List.mem_singleton.mp last, ends]
      exact ⟨behind, proper, Nat.le_refl _⟩
  · intro index found here
    rcases getElem?_snoc here with ⟨early, old⟩ | ⟨rfl, rfl⟩
    · rw [List.getElem?_append_left (agree.length ▸ early),
        agree.flagged index found old]
      simp only [List.mem_append, or_and_right, exists_or, Option.mem_toList,
        Option.mem_def, List.mem_singleton, exists_eq_left,
        extends_ index found old]
    · rw [← agree.length, List.getElem?_concat_length]
      refine iff_of_true rfl ⟨block, by simp, ?_, ?_, code⟩
      · rw [agree.length]
        exact proper
      · exact Nat.le_of_eq (by rw [agree.length, ends])

/-- The last block reaches one line further.  Where it has no fence, lines behind
its last line of code are blank. -/
theorem extend {recorded : List CodeBlock} {block : CodeBlock}
    (agree : Agree header contents flags (recorded ++ [block])) {content : Text}
    (trailing : ∀ index other, contents[index]? = some other →
      block.lastLine ≤ index →
        ¬ (block.fence ≠ [] ∨ Text.isBlank other = false))
    (code : block.fence ≠ [] ∨ Text.isBlank content = false) :
    Agree header (contents ++ [content]) (flags ++ [true])
      (recorded ++ [{ block with lastLine := contents.length + 1 }]) := by
  obtain ⟨behind, proper, ends⟩ := agree.within block (by simp)
  have agreeOpen : Agree header contents flags
      (recorded ++ (some block).toList) := agree
  refine agreeOpen.addCode behind (by dsimp only; omega) rfl code ?_ ?_
  · intro other member
    exact (List.pairwise_append.mp agree.ordered).2.2 other member block (by simp)
  · intro index other found
    have early := (List.getElem?_eq_some_iff.mp found).1
    simp only [Option.mem_some_iff, exists_eq_left', CodeBlock.Covers]
    constructor
    · rintro ⟨starts, -, visible⟩
      refine ⟨starts, Nat.lt_of_not_le fun late => ?_, visible⟩
      exact trailing index other found late visible
    · rintro ⟨starts, -, visible⟩
      exact ⟨starts, by omega, visible⟩

theorem addFirst {blocks : List CodeBlock}
    (agree : Agree header contents flags blocks) {content : Text}
    {block : CodeBlock} (behind : header < block.firstLine)
    (starts : block.firstLine = contents.length + 1)
    (ends : block.lastLine = contents.length + 1)
    (code : block.fence ≠ [] ∨ Text.isBlank content = false) :
    Agree header (contents ++ [content]) (flags ++ [true])
      (blocks ++ [block]) := by
  have agreeOpen : Agree header contents flags
      (blocks ++ (none : Option CodeBlock).toList) := by
    rwa [Option.toList_none, List.append_nil]
  refine agreeOpen.addCode behind (Nat.le_of_eq starts) ends code ?_ ?_
  · intro other member
    obtain ⟨-, -, endsBefore⟩ := agree.within other member
    omega
  · intro index other found
    have early := (List.getElem?_eq_some_iff.mp found).1
    simp only [Option.not_mem_none, false_and, exists_false, iff_false]
    intro covers
    have begins := covers.1
    omega

end Agree

end CodeBlock

namespace Scan

/-- The block of code that is open behind `count` lines. -/
def openBlock? (context : Context) (count : Nat) : Option CodeBlock :=
  match context.fence, context.indented with
  | some (first, opener), _ => some ⟨first, count, opener.marker, opener.info⟩
  | none, some (first, last) => some ⟨first, last, [], []⟩
  | none, none => none

/-- All blocks of code behind `count` lines, the open one included. -/
def State.blocks (state : State) (count : Nat) : List CodeBlock :=
  state.harvest.codeBlocks.reverse ++ (openBlock? state.context count).toList

theorem openBlock?_congr {context : Context} (outside : context.fence = none)
    (count other : Nat) : openBlock? context count = openBlock? context other := by
  unfold openBlock?
  rw [outside]
  cases context.indented <;> rfl

theorem reverse_codeBlocks_closeIndented {state : State}
    (outside : state.context.fence = none) (count : Nat) :
    (state.harvest.closeIndented
      state.context.indented).codeBlocks.reverse = state.blocks count := by
  unfold State.blocks openBlock?
  rw [outside]
  cases state.context.indented with
  | none => exact (List.append_nil _).symm
  | some range => exact List.reverse_cons

theorem blocks_leaveIndented {state : State} (input : Input)
    (outside : state.context.fence = none) (count : Nat) :
    (leaveIndented state input).blocks count = state.blocks count := by
  unfold leaveIndented
  split
  · rfl
  · rw [← reverse_codeBlocks_closeIndented outside count, State.blocks, openBlock?,
      outside]
    exact List.append_nil _

theorem indented_plain (state : State) (input : Input)
    (lastClose : Option Nat) :
    (plain state input lastClose).context.indented =
      state.context.indented := by
  obtain ⟨_, _, _, _, _, _, _, _, _, _, _, _, _, same⟩ :=
    plain_changes state input lastClose
  rw [same]

theorem blocks_plain (state : State) (input : Input) (lastClose : Option Nat)
    (count : Nat) :
    (plain state input lastClose).blocks count = state.blocks count := by
  unfold State.blocks openBlock?
  rw [codeBlocks_plain, fence_plain, indented_plain]

/-- What a line of indented code does. -/
theorem indented?_cases {state after : State} {input : Input}
    (indented : indented? state input = some after) :
    state.context.comment = none ∧
      Text.isBlank input.source.content = false ∧
      ∃ first, after.context.indented = some (first, input.number) ∧
        ((∃ last, state.context.indented = some (first, last)) ∨
          state.context.indented = none ∧ first = input.number) := by
  unfold indented? at indented
  dsimp only at indented
  split at indented
  · cases indented
  · rename_i code
    obtain ⟨outside, visible, -⟩ := not_or.mp code |>.imp_right not_or.mp
    refine ⟨Option.not_isSome_iff_eq_none.mp outside,
      Bool.eq_false_iff.mpr visible, ?_⟩
    split at indented
    · rename_i first last wasOpen
      obtain rfl := Option.some.inj indented
      exact ⟨first, rfl, Or.inl ⟨last, wasOpen⟩⟩
    · rename_i wasClosed
      split at indented
      · obtain rfl := Option.some.inj indented
        exact ⟨input.number, rfl, Or.inr ⟨wasClosed, rfl⟩⟩
      · cases indented

theorem pending_of_isBlank {place : Inline.Place} (lastClose : Option Nat)
    (blank : Text.isBlank place.content = true) :
    (Comment.mask place lastClose none).pending = none := by
  rcases Comment.pending_mask_cases place lastClose none with ⟨wrong, -, -⟩ | enters
  · cases wrong
  · rw [enters, Option.map_eq_none_iff]
    cases entered : Comment.entered? place lastClose none with
    | none => rfl
    | some start =>
        obtain ⟨found, -⟩ := Option.filter_eq_some_iff.mp entered
        have opens := (Comment.dangles_of_dangling? found).opens
        have member : '<' ∈ place.content :=
          (List.drop_sublist start _).subset (opens.subset (by decide))
        have wrong : Unicode.isBlank '<' = true := List.all_eq_true.mp blank _ member
        exact absurd wrong (by decide)

/-! ## One line -/

/-- What is known about blocks behind lines. -/
structure Tracks (header : Nat) (contents : List Text) (flags : List Bool)
    (state : State) : Prop where
  agree : CodeBlock.Agree header contents flags (state.blocks contents.length)
  fenced : ∀ first opener, state.context.fence = some (first, opener) →
    opener.marker ≠ [] ∧ state.context.indented = none
  exposed : state.context.comment.isSome = true →
    state.context.indented = none
  trailing : ∀ first last, state.context.indented = some (first, last) →
    ∀ index content, contents[index]? = some content → last ≤ index →
      Text.isBlank content = true

namespace Tracks

variable {header : Nat} {lastClose : Option Nat} {contents : List Text}
  {flags : List Bool} {state after : State} {input : Input}

theorem addLine (tracks : Tracks header contents flags state) (input : Input)
    (inCode inFrontMatter : Bool) :
    Tracks header contents flags (state.addLine input inCode inFrontMatter) :=
  ⟨tracks.agree, tracks.fenced, tracks.exposed, tracks.trailing⟩

theorem addPlain (tracks : Tracks header contents flags state) {content : Text}
    (outside : after.context.fence = none)
    (blocks : after.blocks contents.length = state.blocks contents.length)
    (exposed : after.context.comment.isSome = true →
      after.context.indented = none)
    (indented : after.context.indented = none ∨
      after.context.indented = state.context.indented ∧
        Text.isBlank content = true) :
    Tracks header (contents ++ [content]) (flags ++ [false]) after := by
  refine ⟨?_, ?_, exposed, ?_⟩
  · have same : after.blocks (contents ++ [content]).length =
        state.blocks contents.length := by
      rw [← blocks, State.blocks, openBlock?_congr outside _ contents.length]
      rfl
    rw [same]
    exact tracks.agree.addPlain content
  · intro first opener isOpen
    rw [outside] at isOpen
    cases isOpen
  · intro first last isOpen index found here late
    rcases indented with none_ | ⟨same, blank⟩
    · rw [none_] at isOpen
      cases isOpen
    · rcases CodeBlock.getElem?_snoc here with ⟨-, old⟩ | ⟨-, rfl⟩
      · exact tracks.trailing first last (same ▸ isOpen) index found old late
      · exact blank

/-- While a fence is open every line is code. -/
theorem addFenced (tracks : Tracks header contents flags state) {first : Nat}
    {opener : Block.Fence}
    (isOpen : state.context.fence = some (first, opener)) (content : Text)
    (blocks : after.blocks (contents.length + 1) =
      state.harvest.codeBlocks.reverse
        ++ [⟨first, contents.length + 1, opener.marker, opener.info⟩])
    (fence : after.context.fence = none ∨
      after.context.fence = state.context.fence)
    (indented : after.context.indented = state.context.indented) :
    Tracks header (contents ++ [content]) (flags ++ [true]) after := by
  obtain ⟨marked, unindented⟩ := tracks.fenced first opener isOpen
  have openBlock : openBlock? state.context contents.length =
      some ⟨first, contents.length, opener.marker, opener.info⟩ := by
    rw [openBlock?, isOpen]
  have agree := tracks.agree
  rw [State.blocks, openBlock] at agree
  rw [unindented] at indented
  refine ⟨?_, ?_, fun _ => indented, ?_⟩
  · rw [List.length_append, List.length_singleton, blocks]
    refine agree.extend ?_ (Or.inl marked)
    intro index other found late
    have early := (List.getElem?_eq_some_iff.mp found).1
    exact absurd early (Nat.not_lt_of_le late)
  · intro otherFirst otherOpener otherOpen
    rcases fence with none_ | same
    · rw [none_] at otherOpen
      cases otherOpen
    · exact ⟨(tracks.fenced _ _ (same ▸ otherOpen)).1, indented⟩
  · intro otherFirst last wrong
    rw [indented] at wrong
    cases wrong

theorem addOpener (tracks : Tracks header contents flags state)
    (outside : state.context.fence = none) {opener : Block.Fence}
    (opened : opened? state.context input = some opener)
    (behind : header < input.number)
    (number : input.number = contents.length + 1) (content : Text) :
    Tracks header (contents ++ [content]) (flags ++ [true])
      (openFence state input opener) := by
  have marked : opener.marker ≠ [] := by
    obtain ⟨opening, -⟩ := Option.filter_eq_some_iff.mp opened
    obtain ⟨fence, parsed, allowed⟩ := Option.bind_eq_some_iff.mp opening
    split at allowed
    · cases allowed
    · obtain rfl := Option.some.inj allowed
      exact (Block.Fence.character_of_parse? parsed).2.1
  refine ⟨?_, ?_, fun _ => rfl, ?_⟩
  · have blocks : (openFence state input opener).blocks
        (contents ++ [content]).length =
          state.blocks contents.length ++
            [⟨input.number, contents.length + 1, opener.marker, opener.info⟩] := by
      rw [← reverse_codeBlocks_closeIndented outside contents.length,
        List.length_append, List.length_singleton]
      rfl
    rw [blocks]
    exact tracks.agree.addFirst behind number rfl (Or.inl marked)
  · intro first other isOpen
    obtain ⟨-, rfl⟩ := Prod.mk.inj (Option.some.inj isOpen)
    exact ⟨marked, rfl⟩
  · intro first last wrong
    cases wrong

theorem addIndented (tracks : Tracks header contents flags state)
    (outside : state.context.fence = none)
    (indented : indented? state input = some after)
    (behind : header < input.number)
    (number : input.number = contents.length + 1) :
    Tracks header (contents ++ [input.source.content]) (flags ++ [true])
      after := by
  obtain ⟨uncommented, visible, first, isOpen, before⟩ := indented?_cases indented
  obtain ⟨sameFence, sameBlocks⟩ := indented?_keeps_fence indented
  obtain ⟨-, sameComment⟩ := indented?_keeps indented
  have length : (contents ++ [input.source.content]).length =
      contents.length + 1 := by
    simp
  have blocks : after.blocks (contents.length + 1) =
      state.harvest.codeBlocks.reverse
        ++ [⟨first, contents.length + 1, [], []⟩] := by
    rw [State.blocks, openBlock?, sameFence, sameBlocks, outside, isOpen, number]
    rfl
  refine ⟨?_, ?_, ?_, ?_⟩
  · rw [length, blocks]
    have agree := tracks.agree
    rcases before with ⟨last, wasOpen⟩ | ⟨wasClosed, rfl⟩
    · have openBlock : openBlock? state.context contents.length =
          some ⟨first, last, [], []⟩ := by
        rw [openBlock?, outside, wasOpen]
      rw [State.blocks, openBlock] at agree
      refine agree.extend ?_ (Or.inr visible)
      intro index other found late
      have blank := tracks.trailing first last wasOpen index other found late
      simp [blank]
    · have openBlock : openBlock? state.context contents.length = none := by
        rw [openBlock?, outside, wasClosed]
      rw [State.blocks, openBlock, Option.toList_none, List.append_nil] at agree
      exact agree.addFirst behind number rfl (Or.inr visible)
  · intro otherFirst opener wrong
    rw [sameFence, outside] at wrong
    cases wrong
  · intro inComment
    rw [sameComment, uncommented] at inComment
    cases inComment
  · intro otherFirst last otherOpen index content here late
    rw [isOpen] at otherOpen
    obtain ⟨-, rfl⟩ := Prod.mk.inj (Option.some.inj otherOpen)
    have short := (List.getElem?_eq_some_iff.mp here).1
    omega

theorem addPlainLine (tracks : Tracks header contents flags state)
    (outside : state.context.fence = none) :
    Tracks header (contents ++ [input.source.content]) (flags ++ [false])
      (plain (leaveIndented state input) input lastClose) := by
  have outsideNow : (leaveIndented state input).context.fence = none := by
    obtain ⟨indented, codeBlocks, same⟩ := leaveIndented_changes state input
    rw [same]
    exact outside
  have indented : (leaveIndented state input).context.indented = none ∨
      (leaveIndented state input).context.indented = state.context.indented ∧
        state.context.comment = none ∧
        Text.isBlank input.source.content = true := by
    unfold leaveIndented
    split
    · rename_i stays
      cases inComment : state.context.comment with
      | some pending => exact Or.inl (tracks.exposed (by rw [inComment]; rfl))
      | none => exact Or.inr ⟨rfl, rfl, by simpa [inComment] using stays⟩
    · exact Or.inl rfl
  refine tracks.addPlain ?_ ?_ ?_ ?_
  · rw [fence_plain, outsideNow]
  · rw [blocks_plain, blocks_leaveIndented _ outside]
  · rw [indented_plain, (plain_feeds _ _ _).2, (leaveIndented_keeps _ _).2]
    intro inComment
    rcases indented with none_ | ⟨-, uncommented, blank⟩
    · exact none_
    · rw [uncommented, pending_of_isBlank lastClose blank] at inComment
      cases inComment
  · rw [indented_plain]
    exact indented.imp_right fun ⟨same, _, blank⟩ => ⟨same, blank⟩

theorem closed_of_lt (tracks : Tracks header contents flags state)
    (front : contents.length < header) :
    state.context.fence = none ∧ state.context.indented = none := by
  have notOpen (block : CodeBlock) :
      openBlock? state.context contents.length ≠ some block := by
    intro isOpen
    have member : block ∈ state.blocks contents.length := by
      simp [State.blocks, isOpen]
    obtain ⟨behind, proper, ends⟩ := tracks.agree.within block member
    omega
  cases isOpen : state.context.fence with
  | some entry => exact absurd (by rw [openBlock?, isOpen]) (notOpen _)
  | none =>
      cases indented : state.context.indented with
      | some range =>
          exact absurd (by rw [openBlock?, isOpen, indented]) (notOpen _)
      | none => exact ⟨rfl, rfl⟩

theorem step (tracks : Tracks header contents flags state)
    (number : input.number = contents.length + 1) :
    Tracks header (contents ++ [input.source.content])
      (flags ++ [isCode header state input])
      (step header lastClose state input) := by
  rcases Nat.lt_or_ge header input.number with behind | front
  · cases isOpen : state.context.fence with
    | some entry =>
        have code : isCode header state input = true := by
          simp [isCode, behind, fenced?_of_fence isOpen]
        rw [code, step_of_fence behind isOpen]
        have unindented := (tracks.fenced _ _ isOpen).2
        cases input.closes entry.2 with
        | true =>
            refine tracks.addFenced isOpen _ ?_ (Or.inl rfl) rfl
            change (closeFence state input _ _).blocks _ = _
            simp [closeFence, afterFenced, State.blocks, openBlock?, unindented,
              Harvest.addCodeBlock, number]
        | false =>
            refine tracks.addFenced isOpen _ ?_ (Or.inr rfl) rfl
            change (afterFenced state).blocks _ = _
            simp [afterFenced, State.blocks, openBlock?, isOpen]
    | none =>
        cases opened : opened? state.context input with
        | some opener =>
            have code : isCode header state input = true := by
              simp [isCode, behind, fenced?_of_none isOpen, opened]
            rw [code, step_of_opened behind isOpen opened]
            exact (tracks.addOpener isOpen opened behind number _).addLine _ _ _
        | none =>
            rw [step_of_unfenced behind isOpen opened, unfenced]
            cases indented : indented? state input with
            | some after =>
                have code : isCode header state input = true := by
                  simp [isCode, behind, indented]
                rw [code]
                exact (tracks.addIndented isOpen indented behind number).addLine
                  _ _ _
            | none =>
                have noCode : isCode header state input = false := by
                  simp [isCode, fenced?_of_none isOpen, opened, indented]
                rw [noCode]
                exact (tracks.addPlainLine isOpen).addLine _ _ _
  · have noCode : isCode header state input = false := by
      simp [isCode, Nat.not_lt_of_le front]
    obtain ⟨outside, unindented⟩ :=
      tracks.closed_of_lt (by omega : contents.length < header)
    rw [noCode, step_of_le front]
    exact tracks.addPlain outside rfl (fun _ => unindented) (Or.inl unindented)

end Tracks

/-! ## A whole document -/

theorem tracks_foldl {header : Nat} {lastClose : Option Nat}
    {inputs : List Input}
    (numbered : ∀ index input, inputs[index]? = some input →
      input.number = index + 1) :
    Tracks header (inputs.map fun input => input.source.content)
      ((linesFrom header lastClose {} inputs).map Line.inCode)
      (inputs.foldl (step header lastClose) {}) := by
  induction inputs using List.reverseRecOn with
  | nil => exact ⟨.empty header, by simp, by simp, by simp⟩
  | append_singleton inputs input ih =>
      have before := ih fun index other found => by
        have short := (List.getElem?_eq_some_iff.mp found).1
        exact numbered index other
          ((List.getElem?_append_left short).trans found)
      have number : input.number = inputs.length + 1 :=
        numbered inputs.length input List.getElem?_concat_length
      rw [List.map_append, linesFrom_append, List.map_append, List.foldl_append]
      exact before.step (by rw [number, List.length_map])

theorem codeBlocks_finish {state : State}
    (outside : state.context.fence = none) (count : Nat) :
    (finish state).codeBlocks.reverse = state.blocks count := by
  obtain ⟨replay, same⟩ := finish_feeds state
  rw [← reverse_codeBlocks_closeIndented outside count, same]

end Scan

namespace Document

variable {dialect : Dialect} {text : Text} {document : Document}

theorem agree_of_index (indexed : index dialect text = .ok document) :
    CodeBlock.Agree (headerOf (SourceLine.split text))
      ((scanned text).map fun input => input.source.content)
      (document.lines.map Line.inCode) document.codeBlocks := by
  have agree := (@Scan.tracks_foldl (headerOf (SourceLine.split text))
    (Text.findLast? Comment.closer text) (scanned text) fun _ _ =>
      number_of_scanned).agree
  change CodeBlock.Agree _ _ _
    ((stateBehind text (scanned text)).blocks _) at agree
  rw [← lines_of_index indexed,
    ← Scan.codeBlocks_finish (fence_stateBehind text)] at agree
  obtain ⟨frontMatter, -, -, rfl⟩ := exists_of_index indexed
  change CodeBlock.Agree _ _ _
    ((harvestOf text).codeBlocks.reverse.mergeSort _)
  have recorded : (harvestOf text).codeBlocks =
      (Scan.finish (stateBehind text (scanned text))).codeBlocks := by
    rw [harvestOf_eq]
    rfl
  rw [recorded, List.mergeSort_of_pairwise]
  · exact agree
  · refine agree.ordered.imp_of_mem fun member _ before => decide_eq_true ?_
    exact Nat.le_of_lt (Nat.lt_of_le_of_lt (agree.within _ member).2.1 before)

theorem isBlank_whole {text : Text} {whole : Text}
    (member : whole ∈ SourceLine.wholeLines text) :
    Text.isBlank whole = Text.isBlank (SourceLine.contentOf whole) := by
  have ends := (SourceLine.endings_wholeLines text).1 whole member
  have blank : Text.isBlank (SourceLine.endingOf whole) = true := by
    refine List.all_eq_true.mpr fun character inEnding => ?_
    have isEnd := List.all_eq_true.mp ends character inEnding
    simp only [SourceLine.isTerminator, Bool.or_eq_true, beq_iff_eq] at isEnd
    rcases isEnd with rfl | rfl <;> decide
  conv_lhs => rw [← SourceLine.contentOf_append_endingOf whole]
  rw [Text.isBlank, List.all_append]
  exact (congrArg _ blank).trans (Bool.and_true _)

/-- The blocks of code in an index are disjoint intervals of lines in increasing
order, they are not empty, and no line in them is front matter.  A line is code
exactly if a block holds it and the block is fenced or the line is not blank, and
no line is both code and front matter. -/
theorem codeBlocks_of_index (indexed : index dialect text = .ok document) :
    document.codeBlocks.Pairwise (fun first second =>
      first.lastLine < second.firstLine) ∧
    (∀ block ∈ document.codeBlocks, 1 ≤ block.firstLine ∧
      block.firstLine ≤ block.lastLine ∧
      block.lastLine ≤ document.lines.length ∧
      ∀ number line, document.lines[number]? = some line →
        block.firstLine ≤ number + 1 → number + 1 ≤ block.lastLine →
        line.inFrontMatter = false) ∧
    ∀ number line, document.lines[number]? = some line →
      (line.inCode = true ↔ ∃ block ∈ document.codeBlocks, block.Covers (number + 1)
        (document.text.slice line.span.start line.span.stop)) ∧
      ¬ (line.inCode = true ∧ line.inFrontMatter = true) := by
  have agree := agree_of_index indexed
  refine ⟨agree.ordered, ?_, ?_⟩
  · intro block member
    obtain ⟨behind, proper, ends⟩ := agree.within block member
    rw [← agree.length, List.length_map] at ends
    refine ⟨Nat.one_le_of_lt behind, proper, ends, ?_⟩
    intro number line found starts _
    obtain ⟨before, input, after, cut, rfl, rfl⟩ := exists_cut_of_line indexed found
    obtain ⟨first, whole, rest, -, same, rfl, -⟩ := exists_cut_of_scanned cut
    rw [same] at starts
    exact decide_eq_false (Nat.not_le_of_lt (Nat.lt_of_lt_of_le behind starts))
  · intro number line found
    refine ⟨?_, ?_⟩
    · obtain ⟨before, input, after, cut, rfl, equal⟩ :=
        exists_cut_of_line indexed found
      obtain ⟨first, whole, rest, wholes, same, rfl, -⟩ := exists_cut_of_scanned cut
      have content : ((scanned text).map fun input =>
          input.source.content)[before.length]? =
            some (SourceLine.contentOf whole) := by
        rw [cut]
        simp [Scan.inputAt, SourceLine.ofWhole]
      have flagged := agree.flagged _ _ content
      rw [List.getElem?_map, found, Option.map_some, Option.some.injEq] at flagged
      have sameText : document.text = text := by
        obtain ⟨frontMatter, -, -, rfl⟩ := exists_of_index indexed
        rfl
      have spans : line.span = ⟨first.flatten.length,
          first.flatten.length + whole.length⟩ := by
        rw [equal]
        rfl
      have blank := @isBlank_whole text whole (by simp [wholes])
      rw [flagged, sameText, spans, slice_of_wholeLines wholes]
      simp only [CodeBlock.Covers, blank]
    · have member := List.mem_of_getElem? found
      rw [lines_of_index indexed] at member
      exact Scan.not_code_and_front member

/-- Front matter, indented code around a blank line, and fenced code around
another one. -/
def mixedText : Text :=
  "---\n---\n\n    a\n\n    b\n```\n\n```\n".toList

/-- The fence ends the indented code, whose blank line is no code; the one in the
fenced block is. -/
theorem codeBlocks_of_index_mixed :
    ∃ document, index .github mixedText = .ok document ∧
      document.codeBlocks = [⟨4, 6, [], []⟩, ⟨7, 9, "```".toList, []⟩] ∧
      document.lines.map Line.inCode =
        [false, false, false, true, false, true, true, true, true] ∧
      document.codeBlocks.Pairwise (fun first second =>
        first.lastLine < second.firstLine) ∧
      ∀ number line, document.lines[number]? = some line →
        (line.inCode = true ↔ ∃ block ∈ document.codeBlocks,
          block.Covers (number + 1)
            (document.text.slice line.span.start line.span.stop)) := by
  have found : (index .github mixedText).toOption.any (fun document =>
      document.lines.map Line.inCode ==
        [false, false, false, true, false, true, true, true, true]) = true := by
    decide +kernel
  obtain ⟨document, indexed, flags⟩ := (Option.any_eq_true _ _).mp found
  have indexed := Outcome.toOption_eq_some.mp indexed
  have blocks : document.codeBlocks =
      [⟨4, 6, [], []⟩, ⟨7, 9, "```".toList, []⟩] := by
    obtain ⟨frontMatter, -, -, rfl⟩ := exists_of_index indexed
    have recorded : (harvestOf mixedText).codeBlocks.reverse =
        [⟨4, 6, [], []⟩, ⟨7, 9, "```".toList, []⟩] := by
      decide +kernel
    change (harvestOf mixedText).codeBlocks.reverse.mergeSort _ = _
    rw [recorded]
    exact List.mergeSort_of_pairwise (by decide)
  obtain ⟨ordered, -, flagged⟩ := codeBlocks_of_index indexed
  exact ⟨document, indexed, blocks, beq_iff_eq.mp flags, ordered,
    fun number line here => (flagged number line here).1⟩

end Document

end AnchorLint
