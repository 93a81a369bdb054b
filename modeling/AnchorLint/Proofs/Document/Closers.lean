import AnchorLint.Proofs.Document.Blocks
import AnchorLint.Proofs.Text.Trim
import Mathlib.Data.List.TakeWhile
import Mathlib.Order.Bounds.Basic

/-!
# What closes a fence

Before a scan opens a fence it asks for the longest closing fence still to come,
one number for each of the two characters.  This file shows that the question is
exact.  A line that has the shape of an opening fence, where a fence may open,
starts a fenced block if and only if some later line closes it; the block ends on
the first line that does, and no fence is open at the end of a text.
-/

namespace AnchorLint

theorem Text.drop_length_takeWhile (keep : Char → Bool) (text : Text) :
    text.drop (text.takeWhile keep).length = text.dropWhile keep := by
  apply List.append_cancel_left
  rw [List.takeWhile_append_dropWhile]
  exact List.prefix_iff_eq_append.mp (List.takeWhile_prefix keep)

namespace Block

/-- Whether a body is made of spaces and tabs, a run of at least three backticks
or tildes, and a text in which the run does not go on. -/
structure HasFence (body : Text) (character : Char) (count : Nat)
    (info : Text) : Prop where
  known : character = Markup.backtick ∨ character = '~'
  long : 3 ≤ count
  ends : info.head? ≠ some character
  parts : ∃ indent : Text, (∀ blank ∈ indent, isIndent blank = true) ∧
    body = indent ++ (List.replicate count character ++ info)

/-- Whether a body closes fences of a character up to a size: it is made of spaces
and tabs, a run of the character, at least three of it and at least as many as the
size, and blanks. -/
def IsCloser (character : Char) (size : Nat) (body : Text) : Prop :=
  ∃ indent count rest, (∀ blank ∈ indent, isIndent blank = true) ∧
    max size 3 ≤ count ∧ Text.isBlank rest = true ∧
    body = indent ++ (List.replicate count character ++ rest)

theorem Fence.size_replicate (count : Nat) (character : Char) (info : Text) :
    Fence.size ⟨List.replicate count character, info⟩ = count :=
  List.length_replicate

theorem Fence.character_replicate {count : Nat} (long : 3 ≤ count)
    (character : Char) (info : Text) :
    Fence.character ⟨List.replicate count character, info⟩ = character := by
  cases count with
  | zero => omega
  | succ count => rfl

namespace HasFence

variable {body info : Text} {character : Char} {count : Nat}

theorem parse? (fence : HasFence body character count info) :
    Fence.parse? body = some ⟨List.replicate count character, info⟩ := by
  obtain ⟨known, long, ends, indent, blanks, rfl⟩ := fence
  obtain ⟨more, rfl⟩ : ∃ more, count = more + 1 := ⟨count - 1, by omega⟩
  have solid : isIndent character = false := by
    rcases known with rfl | rfl <;> decide
  have marker : (List.replicate (more + 1) character ++ info).takeWhile
      (· == character) = List.replicate (more + 1) character := by
    rw [List.takeWhile_append_of_pos (by simp)]
    cases info with
    | nil => simp
    | cons next info => simp_all
  have text : (indent ++ (List.replicate (more + 1) character
      ++ info)).dropWhile isIndent =
        List.replicate (more + 1) character ++ info := by
    rw [List.dropWhile_append_of_pos blanks, List.replicate_succ,
      List.cons_append, List.dropWhile_cons_of_neg (by simp [solid])]
  unfold Fence.parse?
  rw [text, List.replicate_succ, List.cons_append]
  dsimp only
  rw [if_pos known, ← List.cons_append, ← List.replicate_succ, marker,
    if_neg (by simpa using long)]
  simp

theorem of_parse? {fence : Fence} (parsed : Fence.parse? body = some fence) :
    fence.marker = List.replicate fence.size fence.character ∧
      HasFence body fence.character fence.size fence.info := by
  unfold Fence.parse? at parsed
  dsimp only at parsed
  split at parsed
  · rename_i first rest solid
    split at parsed
    · rename_i known
      split at parsed
      · cases parsed
      · rename_i long
        obtain rfl := Option.some.inj parsed
        rw [solid] at long
        rw [solid, Text.drop_length_takeWhile]
        have isFirst (info : Text) : Fence.character
            ⟨(first :: rest).takeWhile (· == first), info⟩ = first := by
          simp [Fence.character]
        have marker : (first :: rest).takeWhile (· == first) =
            List.replicate ((first :: rest).takeWhile (· == first)).length
              first := by
          apply List.eq_replicate_of_mem
          intro other member
          simpa using List.mem_takeWhile_imp member
        rw [isFirst]
        refine ⟨marker, known, Nat.le_of_not_lt long, ?_,
          body.takeWhile isIndent, fun blank => List.mem_takeWhile_imp, ?_⟩
        · intro head
          have stops := List.head?_dropWhile_not (· == first) (first :: rest)
          rw [head] at stops
          simp at stops
        · dsimp only [Fence.size]
          rw [← marker, List.takeWhile_append_dropWhile, ← solid,
            List.takeWhile_append_dropWhile]
    · cases parsed
  · cases parsed

end HasFence

theorem closes_iff {opener : Fence} {body : Text}
    (known : opener.character = Markup.backtick ∨ opener.character = '~') :
    (Fence.parse? body).any (fun fence => fence.closes opener) = true ↔
      IsCloser opener.character opener.size body := by
  constructor
  · intro closes
    obtain ⟨fence, parsed, closes⟩ := (Option.any_eq_true _ _).mp closes
    simp only [Fence.closes, Bool.and_eq_true, beq_iff_eq, decide_eq_true_eq]
      at closes
    obtain ⟨⟨same, long⟩, bare⟩ := closes
    obtain ⟨-, -, three, -, indent, blanks, parts⟩ := HasFence.of_parse? parsed
    exact ⟨indent, fence.size, fence.info, blanks, by omega, bare, same ▸ parts⟩
  · rintro ⟨indent, count, rest, blanks, long, bare, parts⟩
    have ends : rest.head? ≠ some opener.character := by
      intro head
      have blank := List.all_eq_true.mp bare _ (List.mem_of_head? head)
      rcases known with same | same <;> rw [same] at blank <;>
        exact absurd blank (by decide)
    have fence : HasFence body opener.character count rest :=
      ⟨known, by omega, ends, indent, blanks, parts⟩
    rw [fence.parse?]
    simp only [Option.any_some, Fence.closes, Bool.and_eq_true, beq_iff_eq,
      decide_eq_true_eq]
    rw [Fence.character_replicate fence.long, Fence.size_replicate]
    exact ⟨⟨rfl, by omega⟩, bare⟩

end Block

/-! ## Blocks that have been opened -/

namespace Scan

variable {header : Nat} {lastClose : Option Nat}

theorem mem_closeIndented {harvest : Harvest} {block : CodeBlock}
    (member : block ∈ harvest.codeBlocks) (indented : Option (Nat × Nat)) :
    block ∈ (harvest.closeIndented indented).codeBlocks := by
  cases indented with
  | none => exact member
  | some range => exact List.mem_cons_of_mem _ member

theorem codeBlocks_subset_step {state : State} (input : Input)
    {block : CodeBlock} (member : block ∈ state.harvest.codeBlocks) :
    block ∈ (step header lastClose state input).harvest.codeBlocks := by
  rcases Nat.lt_or_ge header input.number with behind | front
  · cases isOpen : state.context.fence with
    | some entry =>
        rw [step_of_fence behind isOpen]
        split
        · exact List.mem_cons_of_mem _ member
        · exact member
    | none =>
        cases opened : opened? state.context input with
        | some opener =>
            rw [step_of_opened behind isOpen opened]
            exact mem_closeIndented member _
        | none =>
            rw [step_of_unfenced behind isOpen opened]
            unfold unfenced
            split
            · rename_i after indented
              change block ∈ after.harvest.codeBlocks
              rw [(indented?_keeps_fence indented).2]
              exact member
            · change block ∈ (plain _ _ _).harvest.codeBlocks
              rw [codeBlocks_plain]
              unfold leaveIndented
              split
              · exact member
              · exact mem_closeIndented member _
  · rw [step_of_le front]
    exact member

theorem codeBlocks_subset_foldl {state : State} (inputs : List Input)
    {block : CodeBlock} (member : block ∈ state.harvest.codeBlocks) :
    block ∈ (inputs.foldl (step header lastClose)
      state).harvest.codeBlocks := by
  induction inputs generalizing state with
  | nil => exact member
  | cons input inputs ih => exact ih (codeBlocks_subset_step input member)

theorem exists_mem_codeBlocks_of_fence {inputs : List Input} {state : State}
    {first : Nat} {opener : Block.Fence}
    (isOpen : state.context.fence = some (first, opener))
    (left : (inputs.foldl (step header lastClose) state).context.fence = none) :
    ∃ last, ⟨first, last, opener.marker, opener.info⟩ ∈
      (inputs.foldl (step header lastClose) state).harvest.codeBlocks := by
  induction inputs generalizing state with
  | nil => simp [isOpen] at left
  | cons input inputs ih =>
      rcases Nat.lt_or_ge header input.number with behind | front
      · cases closes : input.closes opener with
        | true =>
            refine ⟨input.number, codeBlocks_subset_foldl inputs ?_⟩
            rw [step_of_fence behind isOpen, if_pos closes]
            exact List.mem_cons_self
        | false =>
            apply ih _ left
            rw [step_of_fence behind isOpen, closes]
            exact isOpen
      · apply ih _ left
        rw [step_of_le front]
        exact isOpen

theorem pairwise_number_lt (number offset : Nat) (behind : Block.Closers)
    (wholes : List Text) :
    (inputsFrom number offset behind wholes).Pairwise fun first second =>
      first.number < second.number := by
  induction wholes generalizing number offset with
  | nil => exact .nil
  | cons whole wholes ih =>
      refine List.pairwise_cons.mpr ⟨?_, ih _ _⟩
      intro later member
      exact lt_number_of_mem_inputsFrom member

end Scan

/-! ## The fences of a text -/

namespace Document

/-- Whether the line with a number closes fences of a character up to a size. -/
def ClosesAt (text : Text) (character : Char) (size number : Nat) : Prop :=
  ∃ input ∈ scanned text, input.number = number ∧
    Block.IsCloser character size input.body

/-- Whether a line behind some others has the shape of an opening fence and stands
where a fence may open: outside of front matter, comments and fences, not in code
that is indented, and, for backticks, without one in its info. -/
structure MayOpen (text : Text) (before : List Scan.Input) (input : Scan.Input)
    (character : Char) (count : Nat) (info : Text) : Prop where
  shape : Block.HasFence input.body character count info
  behind : headerOf (SourceLine.split text) < input.number
  uncommented : (stateBehind text before).context.comment = none
  outside : (stateBehind text before).context.fence = none
  plain : character = Markup.backtick → Markup.backtick ∉ info
  visible : ¬ ((stateBehind text before).context.indented.isSome = true ∧
    4 ≤ Block.indentWidth input.body)

variable {dialect : Dialect} {text : Text} {document : Document}

theorem mem_codeBlocks_iff (indexed : index dialect text = .ok document)
    {block : CodeBlock} (fenced : block.fence ≠ []) :
    block ∈ document.codeBlocks ↔
      block ∈ (stateBehind text (scanned text)).harvest.codeBlocks := by
  obtain ⟨frontMatter, -, -, rfl⟩ := exists_of_index indexed
  change block ∈ (harvestOf text).codeBlocks.reverse.mergeSort _ ↔ _
  rw [List.mem_mergeSort, harvestOf_eq]
  change block ∈ (Scan.finish (stateBehind text
    (scanned text))).codeBlocks.reverse ↔ _
  have outside := fence_stateBehind text
  rw [Scan.codeBlocks_finish outside 0, Scan.State.blocks, List.mem_append,
    List.mem_reverse, Scan.openBlock?, outside]
  refine or_iff_left ?_
  -- What is still open is indented code, which has no fence.
  cases (stateBehind text (scanned text)).context.indented with
  | none => simp
  | some range =>
      rw [Option.toList_some, List.mem_singleton]
      rintro rfl
      exact fenced rfl

theorem number_of_cut {before after : List Scan.Input} {input : Scan.Input}
    (cut : scanned text = before ++ input :: after) :
    input.number = before.length + 1 := by
  obtain ⟨first, whole, rest, -, length, rfl, -⟩ := exists_cut_of_scanned cut
  rw [length]
  rfl

theorem number_lt_of_cut {before after : List Scan.Input} {input : Scan.Input}
    (cut : scanned text = before ++ input :: after) :
    (∀ earlier ∈ before, earlier.number < input.number) ∧
      ∀ later ∈ after, input.number < later.number := by
  have ordered : (scanned text).Pairwise fun first second =>
      first.number < second.number := Scan.pairwise_number_lt 0 0 {} _
  rw [cut] at ordered
  obtain ⟨-, fromInput, across⟩ := List.pairwise_append.mp ordered
  refine ⟨?_, (List.pairwise_cons.mp fromInput).1⟩
  intro earlier member
  exact across earlier member input List.mem_cons_self

theorem mem_behind_iff {before after : List Scan.Input} {input : Scan.Input}
    (cut : scanned text = before ++ input :: after) (other : Scan.Input) :
    other ∈ after ↔ other ∈ scanned text ∧ input.number < other.number := by
  obtain ⟨early, late⟩ := number_lt_of_cut cut
  rw [cut, List.mem_append, List.mem_cons]
  constructor
  · intro member
    exact ⟨Or.inr (Or.inr member), late other member⟩
  · rintro ⟨inBefore | rfl | member, behind⟩
    · exact absurd behind (Nat.lt_asymm (early other inBefore))
    · exact absurd behind (Nat.lt_irrefl _)
    · exact member

theorem exists_closesAt_iff {before after : List Scan.Input}
    {input : Scan.Input} (cut : scanned text = before ++ input :: after)
    (opener : Block.Fence)
    (known : opener.character = Markup.backtick ∨ opener.character = '~') :
    (∃ number, input.number < number ∧
      ClosesAt text opener.character opener.size number) ↔
      ∃ later ∈ after, later.closes opener = true := by
  constructor
  · rintro ⟨number, behind, later, member, rfl, closer⟩
    exact ⟨later, (mem_behind_iff cut later).mpr ⟨member, behind⟩,
      (Block.closes_iff known).mpr closer⟩
  · rintro ⟨later, member, closes⟩
    obtain ⟨inText, behind⟩ := (mem_behind_iff cut later).mp member
    exact ⟨later.number, behind, later, inText, rfl,
      (Block.closes_iff known).mp closes⟩

theorem hasFence_of_opened? {context : Scan.Context} {input : Scan.Input}
    {opener : Block.Fence}
    (opened : Scan.opened? context input = some opener) :
    ∃ info, opener.info = Text.trim info ∧
      opener.marker = List.replicate opener.size opener.character ∧
      Block.HasFence input.body opener.character opener.size info := by
  obtain ⟨opening, -⟩ := Option.filter_eq_some_iff.mp opened
  obtain ⟨fence, parsed, allowed⟩ := Option.bind_eq_some_iff.mp opening
  obtain ⟨marker, shape⟩ := Block.HasFence.of_parse? parsed
  split at allowed
  · cases allowed
  · obtain rfl := Option.some.inj allowed
    exact ⟨fence.info, rfl, marker, shape⟩

/-- A fenced block ends on the first line that closes it. -/
theorem isLeast_lastLine (indexed : index dialect text = .ok document)
    {block : CodeBlock} (member : block ∈ document.codeBlocks)
    (fenced : block.fence ≠ []) :
    ∃ character count, (character = Markup.backtick ∨ character = '~') ∧
      3 ≤ count ∧ block.fence = List.replicate count character ∧
      IsLeast {number | block.firstLine < number ∧
        ClosesAt text character count number} block.lastLine := by
  obtain ⟨before, start, inside, stop, after, opener, cut, first, last, opens,
    closes, fence, -⟩ := Scan.exists_opens_of_mem_codeBlocks fenced
      ((mem_codeBlocks_iff indexed fenced).mp member)
  change scanned text = _ at cut
  obtain ⟨info, -, marker, shape⟩ := hasFence_of_opened? opens.opened
  refine ⟨opener.character, opener.size, shape.known, shape.long,
    fence.trans marker, ?_⟩
  rw [← first, ← last]
  have cutStart : scanned text = before ++ start :: (inside ++ stop :: after) := by
    rw [cut, List.append_assoc, List.cons_append]
  have startLt := (number_lt_of_cut cutStart).2
  have stopLt := (number_lt_of_cut cut).2
  refine ⟨⟨startLt stop (by simp), stop, by simp [cut], rfl,
    (Block.closes_iff shape.known).mp closes⟩, ?_⟩
  rintro number ⟨behind, other, inText, rfl, closer⟩
  have closesOther : other.closes opener = true :=
    (Block.closes_iff shape.known).mpr closer
  have inRest := (mem_behind_iff cutStart other).mpr ⟨inText, behind⟩
  rcases List.mem_append.mp inRest with inInside | atStop
  · have stays := opens.stays other inInside (Nat.lt_trans opens.behind behind)
    rw [closesOther] at stays
    cases stays
  · rcases List.mem_cons.mp atStop with rfl | inAfter
    · exact Nat.le_refl _
    · exact Nat.le_of_lt (stopLt other inAfter)

/-! ## Lines that may open a fence -/

section

variable {before after : List Scan.Input} {input : Scan.Input}
  {character : Char} {count : Nat} {info : Text}

theorem MayOpen.opening? (mayOpen : MayOpen text before input character count info) :
    Scan.opening? (stateBehind text before).context input.body =
      some ⟨List.replicate count character, Text.trim info⟩ := by
  have shape := mayOpen.shape
  unfold Scan.opening?
  rw [shape.parse?, Option.bind_some, if_neg]
  rw [Block.Fence.character_replicate shape.long]
  rintro (inComment | indented | ⟨backtick, marked⟩)
  · simp [mayOpen.uncommented] at inComment
  · exact mayOpen.visible indented
  · apply mayOpen.plain backtick
    exact Text.mem_of_mem_trim (List.elem_iff.mp marked)

/-- The closers behind a line tell whether one of the later lines closes a
fence. -/
theorem MayOpen.opened?_iff (cut : scanned text = before ++ input :: after)
    (mayOpen : MayOpen text before input character count info) :
    Scan.opened? (stateBehind text before).context input =
        some ⟨List.replicate count character, Text.trim info⟩ ↔
      ∃ number, input.number < number ∧
        ClosesAt text character count number := by
  have shape := mayOpen.shape
  have same := Block.Fence.character_replicate shape.long character
    (Text.trim info)
  have closers := exists_closesAt_iff cut
    ⟨List.replicate count character, Text.trim info⟩ (same.symm ▸ shape.known)
  rw [same, Block.Fence.size_replicate] at closers
  rw [closers]
  obtain ⟨first, whole, rest, -, -, rfl, rfl⟩ := exists_cut_of_scanned cut
  constructor
  · intro opened
    exact Scan.exists_closes_of_opened? opened _ _
  · rintro ⟨later, member, closes⟩
    obtain ⟨fence, parsed, same, long, bare⟩ := Scan.exists_of_closes closes
    obtain ⟨other, inRest, body, -⟩ := Scan.exists_whole_of_mem_inputsFrom member
    refine Option.filter_eq_some_iff.mpr ⟨mayOpen.opening?, ?_⟩
    refine decide_eq_true (Nat.le_trans long ?_)
    rw [← same]
    exact Scan.size_le_longest_closersOf inRest (body ▸ parsed) bare

theorem opened?_of_firstLine (indexed : index dialect text = .ok document)
    (cut : scanned text = before ++ input :: after) {block : CodeBlock}
    (member : block ∈ document.codeBlocks) (fenced : block.fence ≠ [])
    (starts : block.firstLine = input.number) :
    ∃ opener, Scan.opened? (stateBehind text before).context input = some opener ∧
      block.fence = opener.marker ∧ block.info = opener.info := by
  obtain ⟨early, start, inside, stop, late, opener, otherCut, first, -, opens, -,
    recorded⟩ := Scan.exists_opens_of_mem_codeBlocks fenced
      ((mem_codeBlocks_iff indexed fenced).mp member)
  change scanned text = _ at otherCut
  rw [List.append_assoc, List.cons_append] at otherCut
  -- Both cuts are in front of the line with the number, so they are the same.
  have length : before.length = early.length := by
    have number := number_of_cut cut
    have otherNumber := number_of_cut otherCut
    omega
  obtain ⟨rfl, same⟩ := List.append_inj (cut.symm.trans otherCut) length
  obtain ⟨rfl, -⟩ := List.cons.inj same
  exact ⟨opener, opens.opened, recorded⟩

theorem exists_mem_codeBlocks_of_opened?
    (indexed : index dialect text = .ok document)
    (cut : scanned text = before ++ input :: after)
    (behind : headerOf (SourceLine.split text) < input.number)
    (outside : (stateBehind text before).context.fence = none)
    {opener : Block.Fence} (proper : opener.marker ≠ [])
    (opened : Scan.opened? (stateBehind text before).context input =
      some opener) :
    ∃ last, ⟨input.number, last, opener.marker, opener.info⟩ ∈
      document.codeBlocks := by
  have ends := fence_stateBehind text
  have through : stateBehind text (scanned text) =
      after.foldl (Scan.step (headerOf (SourceLine.split text))
        (Text.findLast? Comment.closer text))
          ((Scan.openFence (stateBehind text before) input opener).addLine input
            true false) := by
    rw [cut, ← Scan.step_of_opened behind outside opened, stateBehind,
      List.foldl_append]
    rfl
  rw [through] at ends
  obtain ⟨last, member⟩ := Scan.exists_mem_codeBlocks_of_fence rfl ends
  refine ⟨last, (mem_codeBlocks_iff indexed proper).mpr ?_⟩
  rw [through]
  exact member

theorem MayOpen.eq_of_firstLine (indexed : index dialect text = .ok document)
    (cut : scanned text = before ++ input :: after)
    (mayOpen : MayOpen text before input character count info)
    {block : CodeBlock} (member : block ∈ document.codeBlocks)
    (fenced : block.fence ≠ []) (starts : block.firstLine = input.number) :
    Scan.opened? (stateBehind text before).context input =
        some ⟨List.replicate count character, Text.trim info⟩ ∧
      block.fence = List.replicate count character ∧
      block.info = Text.trim info := by
  obtain ⟨opener, opened, marker, about⟩ := opened?_of_firstLine indexed cut
    member fenced starts
  have opening := (Option.filter_eq_some_iff.mp opened).1
  rw [mayOpen.opening?] at opening
  obtain rfl := Option.some.inj opening
  exact ⟨opened, marker, about⟩

theorem MayOpen.starts_iff (indexed : index dialect text = .ok document)
    (cut : scanned text = before ++ input :: after)
    (mayOpen : MayOpen text before input character count info) :
    (∃ block ∈ document.codeBlocks,
        block.fence ≠ [] ∧ block.firstLine = input.number) ↔
      ∃ number, input.number < number ∧
        ClosesAt text character count number := by
  rw [← mayOpen.opened?_iff cut]
  constructor
  · rintro ⟨block, member, fenced, starts⟩
    exact (mayOpen.eq_of_firstLine indexed cut member fenced starts).1
  · intro opened
    have proper : List.replicate count character ≠ [] := by
      have long := mayOpen.shape.long
      rw [Ne, List.replicate_eq_nil_iff]
      omega
    obtain ⟨last, member⟩ := exists_mem_codeBlocks_of_opened? indexed cut
      mayOpen.behind mayOpen.outside proper opened
    exact ⟨_, member, proper, rfl⟩

end

/-- No fence is open at the end of a text, a fenced block ends on the first line
that closes it, and a line that may open a fence starts a block with it if and only
if a later line closes it. -/
theorem fences_follow_closers (text : Text) :
    (stateBehind text (scanned text)).context.fence = none ∧
      ∀ {dialect document}, index dialect text = .ok document →
        (∀ block ∈ document.codeBlocks, block.fence ≠ [] →
          ∃ character count, (character = Markup.backtick ∨ character = '~') ∧
            3 ≤ count ∧ block.fence = List.replicate count character ∧
            IsLeast {number | block.firstLine < number ∧
              ClosesAt text character count number} block.lastLine) ∧
        ∀ {before input after character count info},
          scanned text = before ++ input :: after →
          MayOpen text before input character count info →
          ((∃ block ∈ document.codeBlocks,
              block.fence ≠ [] ∧ block.firstLine = input.number) ↔
            ∃ number, input.number < number ∧
              ClosesAt text character count number) ∧
          ∀ block ∈ document.codeBlocks, block.fence ≠ [] →
            block.firstLine = input.number →
            block.fence = List.replicate count character ∧
              block.info = Text.trim info := by
  refine ⟨fence_stateBehind text, ?_⟩
  intro dialect document indexed
  refine ⟨?_, ?_⟩
  · intro block member fenced
    exact isLeast_lastLine indexed member fenced
  · intro before input after character count info cut mayOpen
    refine ⟨mayOpen.starts_iff indexed cut, ?_⟩
    intro block member fenced starts
    exact (mayOpen.eq_of_firstLine indexed cut member fenced starts).2

/-- Tildes around two fences of backticks, and a last fence without an end. -/
def shadowedText : Text :=
  "~~~ a\n```\n````\n ~~~~ \n```x\n".toList

/-- The tildes are open until the line with more of them, and the last line, which
may open a fence, opens none. -/
theorem fences_follow_closers_shadowed :
    ∃ document, index .github shadowedText = .ok document ∧
      document.codeBlocks = [⟨1, 4, "~~~".toList, "a".toList⟩] ∧
      IsLeast {number | 1 < number ∧ ClosesAt shadowedText '~' 3 number} 4 ∧
      ∃ before input, scanned shadowedText = before ++ [input] ∧
        MayOpen shadowedText before input Markup.backtick 3 "x".toList ∧
        ¬ ∃ number, input.number < number ∧
          ClosesAt shadowedText Markup.backtick 3 number := by
  have found : (index .github shadowedText).toOption.isSome = true := by
    decide +kernel
  obtain ⟨document, indexed⟩ := Option.isSome_iff_exists.mp found
  have indexed := Outcome.toOption_eq_some.mp indexed
  have blocks : document.codeBlocks =
      [⟨1, 4, "~~~".toList, "a".toList⟩] := by
    obtain ⟨frontMatter, -, -, rfl⟩ := exists_of_index indexed
    have recorded : (harvestOf shadowedText).codeBlocks.reverse =
        [⟨1, 4, "~~~".toList, "a".toList⟩] := by
      decide +kernel
    change (harvestOf shadowedText).codeBlocks.reverse.mergeSort _ = _
    rw [recorded]
    exact List.mergeSort_singleton _
  obtain ⟨-, later⟩ := fences_follow_closers shadowedText
  obtain ⟨ends, starts⟩ := later indexed
  refine ⟨document, indexed, blocks, ?_, ?_⟩
  · obtain ⟨character, count, -, -, marker, least⟩ :=
      ends ⟨1, 4, "~~~".toList, "a".toList⟩ (by simp [blocks]) (by decide)
    obtain ⟨length, same⟩ := List.eq_replicate_iff.mp marker
    obtain rfl : 3 = count := length
    obtain rfl : '~' = character := same '~' (by decide)
    exact least
  · have last : (scanned shadowedText).getLast?.any (fun input =>
        input.number == 5 && input.body == "```x".toList) = true := by
      decide +kernel
    obtain ⟨input, isLast, reads⟩ := (Option.any_eq_true _ _).mp last
    obtain ⟨number, body⟩ := Bool.and_eq_true_iff.mp reads
    have number : input.number = 5 := beq_iff_eq.mp number
    have body : input.body = "```x".toList := beq_iff_eq.mp body
    have cut := (List.dropLast_append_getLast? input isLast).symm
    have mayOpen : MayOpen shadowedText (scanned shadowedText).dropLast input
        Markup.backtick 3 "x".toList := by
      refine ⟨⟨Or.inl rfl, Nat.le_refl 3, by decide, [], by simp, body⟩, ?_,
        Option.isNone_iff_eq_none.mp ?_, Option.isNone_iff_eq_none.mp ?_, ?_, ?_⟩
      · rw [number]
        decide +kernel
      · decide +kernel
      · decide +kernel
      · decide
      · rw [body]
        decide +kernel
    refine ⟨_, input, cut, mayOpen, ?_⟩
    rw [← (starts cut mayOpen).1, blocks, number]
    decide

end Document

end AnchorLint
