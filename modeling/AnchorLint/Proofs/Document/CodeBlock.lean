import AnchorLint.Proofs.Document.Assembly
import AnchorLint.Proofs.Document.Lookahead

/-!
# Code does not leak

What stands inside a fenced block is code and nothing else.  Two texts with the
same lines around such a block have the same index, whatever lines the block
holds, except that what lies behind the block moves along with it.

A scan looks ahead in three ways: for the end of the front matter, for closing
fences and for the end of a comment.  In each of them it might stop inside the
block.  It does not: at the line that opens the block no comment is open, and
neither is a fence, and the front matter has ended.
-/

namespace AnchorLint

/-! ## Front matter -/

namespace Document

theorem takeWhile_append_congr {α : Type} {keep : α → Bool} {shared rest : List α}
    (short : ((shared ++ rest).takeWhile keep).length < shared.length)
    (other : List α) :
    (shared ++ other).takeWhile keep = (shared ++ rest).takeWhile keep := by
  rw [List.takeWhile_append] at short ⊢
  rw [List.takeWhile_append]
  split at short
  · rw [List.length_append] at short
    omega
  · rename_i stops
    rw [if_neg stops, if_neg stops]

theorem frontMatterBlock?_append {shared rest : List SourceLine}
    {block : Text × List Text × Nat}
    (found : frontMatterBlock? (shared ++ rest) = some block)
    (within : block.2.2 ≤ shared.length) (other : List SourceLine) :
    frontMatterBlock? (shared ++ other) = some block := by
  cases shared with
  | nil =>
      unfold frontMatterBlock? at found
      dsimp only at found
      repeat' split at found
      all_goals cases found
      simp at within
  | cons first shared =>
      simp only [List.cons_append, frontMatterBlock?, List.map_append,
        List.length_append] at found ⊢
      split at found
      · rename_i delimited
        rw [if_pos delimited]
        split at found
        · cases found
          -- The closing line comes before the end of the shared lines.
          have short := Nat.lt_of_succ_le (Nat.le_of_succ_le_succ within)
          rw [takeWhile_append_congr
            (Nat.lt_of_lt_of_eq short (List.length_map _).symm), if_pos]
          exact Nat.lt_of_lt_of_le short (Nat.le_add_right _ _)
        · cases found
      · cases found

/-- The front matter does not depend on what follows the lines among which it
ends. -/
theorem frontMatterBlock?_congr {shared rest other : List SourceLine}
    (within : headerOf (shared ++ rest) ≤ shared.length)
    (otherWithin : headerOf (shared ++ other) ≤ shared.length) :
    frontMatterBlock? (shared ++ other) = frontMatterBlock? (shared ++ rest) := by
  unfold headerOf at within otherWithin
  cases found : frontMatterBlock? (shared ++ rest) with
  | some block =>
      rw [found] at within
      exact frontMatterBlock?_append found within other
  | none =>
      cases otherFound : frontMatterBlock? (shared ++ other) with
      | none => rfl
      | some block =>
          rw [otherFound] at otherWithin
          have := frontMatterBlock?_append otherFound otherWithin rest
          rw [found] at this
          cases this

end Document

namespace Scan

/-! ## Through a block -/

section

variable {moves : Relocation} {header : Nat} {lastClose otherClose : Option Nat}
  {one other : State} {inputs others : List Input}

/-- Lines inside a fenced block change nothing but the list of lines. -/
theorem relates_of_code (length : others.length = inputs.length)
    (related : one.Relates moves other) {first : Nat} {opener : Block.Fence}
    (isOpen : one.context.fence = some (first, opener))
    (inside : ∀ input ∈ inputs, header < input.number ∧
      input.closes opener = false)
    (otherInside : ∀ input ∈ others, header < input.number ∧
      input.closes opener = false) :
    (inputs.foldl (step header lastClose) one).Relates moves
        (others.foldl (step header otherClose) other) ∧
      (inputs.foldl (step header lastClose) one).context.fence =
        some (first, opener) := by
  induction inputs generalizing one other others with
  | nil =>
      rw [List.eq_nil_of_length_eq_zero length]
      exact ⟨related, isOpen⟩
  | cons input inputs ih =>
      obtain ⟨otherInput, others, rfl⟩ := List.exists_cons_of_length_eq_add_one
        length
      obtain ⟨⟨behind, stays⟩, insideLater⟩ := List.forall_mem_cons.mp inside
      obtain ⟨⟨otherBehind, otherStays⟩, otherLater⟩ :=
        List.forall_mem_cons.mp otherInside
      have otherOpen : other.context.fence = some (first, opener) :=
        related.context ▸ isOpen
      rw [List.foldl_cons, List.foldl_cons, step_of_fence behind isOpen,
        step_of_fence otherBehind otherOpen, stays, otherStays]
      exact ih (Nat.succ.inj length) (related.afterFenced.addLine true false)
        isOpen insideLater otherLater

/-- Whether two scans know the same about a line in advance. -/
structure ForeseeAlike (lastClose otherClose : Option Nat)
    (input otherInput : Input) : Prop where
  closers : otherInput.closers = input.closers
  comes : ∀ start < input.source.content.length,
    otherClose.any (otherInput.source.span.start + start < ·) =
      lastClose.any (input.source.span.start + start < ·)

theorem agree_of_foreseeAlike {input otherInput : Input}
    (carries : input.Carries moves otherInput)
    (alike : ForeseeAlike lastClose otherClose input otherInput)
    (state : State) : Agree lastClose otherClose state input otherInput := by
  refine ⟨fun _ => ?_, fun _ _ _ => ?_⟩
  · unfold opened?
    rw [carries.body, alike.closers]
  · exact Comment.mask_congr carries.place.line carries.place.content
      fun start dangles =>
        alike.comes start (Comment.lt_length_of_dangling? dangles)

theorem relates_of_foreseeAlike (header : Nat)
    (alike : List.Forall₂ (fun input otherInput =>
      input.Carries moves otherInput ∧
        ForeseeAlike lastClose otherClose input otherInput) inputs others)
    (related : one.Relates moves other) :
    (inputs.foldl (step header lastClose) one).Relates moves
      (others.foldl (step header otherClose) other) := by
  refine List.rel_foldl ?_ related alike
  intro state otherState related input otherInput here
  exact step_relates related here.1 fun _ =>
    agree_of_foreseeAlike here.1 here.2 state

end

end Scan

/-! ## The lines around a block -/

/-- The whole lines of a text around the inside of a fenced block. -/
structure Frame where
  before : List Text
  opening : Text
  closing : Text
  behind : List Text

/-- The span behind an exchange of text: what starts at `bound` or later moves by
the difference of the lengths. -/
def Span.exchange (bound removed added : Nat) (span : Span) : Span :=
  if bound ≤ span.start then
    ⟨span.start - removed + added, span.stop - removed + added⟩
  else span

theorem Span.start_exchange (bound removed added : Nat) (span : Span) :
    (span.exchange bound removed added).start =
      if bound ≤ span.start then span.start - removed + added
      else span.start := by
  unfold exchange
  split <;> rfl

namespace Frame

open Scan

variable (frame : Frame) (inside : List Text)

/-- The whole lines of the text with lines inside the block. -/
def fill : List Text :=
  frame.before ++ frame.opening :: (inside ++ frame.closing :: frame.behind)

def low : Nat :=
  frame.before.flatten.length + frame.opening.length

def bound : Nat :=
  frame.low + inside.flatten.length + frame.closing.length

def beforeInputs : List Input :=
  inputsFrom 0 0
    (closersOf {} (frame.opening :: (inside ++ frame.closing :: frame.behind)))
    frame.before

def openingInput : Input :=
  inputAt frame.before.length frame.before.flatten.length
    (closersOf {} (inside ++ frame.closing :: frame.behind)) frame.opening

def insideInputs : List Input :=
  inputsFrom (frame.before.length + 1) frame.low
    (closersOf {} (frame.closing :: frame.behind)) inside

def closingInput : Input :=
  inputAt (frame.before.length + 1 + inside.length)
    (frame.low + inside.flatten.length) (closersOf {} frame.behind)
    frame.closing

def behindInputs : List Input :=
  inputsFrom (frame.before.length + 1 + inside.length + 1)
    (frame.bound inside) {} frame.behind

theorem inputsFrom_fill :
    inputsFrom 0 0 {} (frame.fill inside) =
      frame.beforeInputs inside ++ frame.openingInput inside ::
        (frame.insideInputs inside ++ frame.closingInput inside ::
          frame.behindInputs inside) := by
  unfold fill
  rw [inputsFrom_append, inputsFrom, inputsFrom_append, inputsFrom]
  simp only [Nat.zero_add]
  rfl

/-- Whether a scan goes through the block. -/
def HasBlock (header : Nat) (lastClose : Option Nat) : Prop :=
  ∃ opener, Opens header lastClose {} (frame.beforeInputs inside)
      (frame.openingInput inside) (frame.insideInputs inside) opener ∧
    (frame.closingInput inside).closes opener = true

variable {frame inside} in
theorem HasBlock.header_lt {header : Nat} {lastClose : Option Nat}
    (hasBlock : frame.HasBlock inside header lastClose) :
    header < frame.before.length + 1 := by
  obtain ⟨opener, opens, -⟩ := hasBlock
  exact opens.behind

/-- The scan of a fenced block gives the lines around it. -/
theorem exists_frame {wholes : List Text} {header : Nat}
    {lastClose : Option Nat} {block : CodeBlock} (fenced : block.fence ≠ [])
    (member : block ∈ ((inputsFrom 0 0 {} wholes).foldl (step header lastClose)
      {}).harvest.codeBlocks) :
    ∃ (frame : Frame) (inside : List Text), wholes = frame.fill inside ∧
      frame.before.length + 1 = block.firstLine ∧
      frame.before.length + inside.length + 2 = block.lastLine ∧
      frame.HasBlock inside header lastClose := by
  obtain ⟨before, start, inside, stop, after, opener, cut, first, last, opens,
    closes, -⟩ := exists_opens_of_mem_codeBlocks fenced member
  rw [List.append_assoc, List.cons_append] at cut
  obtain ⟨linesBefore, fromOpening, rfl, rfl, atOpening⟩ :=
    exists_of_inputsFrom_eq_append cut
  obtain ⟨opening, fromInside, rfl, rfl, atInside⟩ :=
    exists_of_inputsFrom_eq_cons atOpening.symm
  obtain ⟨linesInside, fromClosing, rfl, rfl, atClosing⟩ :=
    exists_of_inputsFrom_eq_append atInside.symm
  obtain ⟨closing, linesBehind, rfl, rfl, -⟩ :=
    exists_of_inputsFrom_eq_cons atClosing.symm
  refine ⟨⟨linesBefore, opening, closing, linesBehind⟩, linesInside, rfl, ?_, ?_,
    opener, ?_, ?_⟩
  · simpa [inputAt] using first
  · rw [← last]
    simp only [inputAt]
    omega
  · simpa [beforeInputs, openingInput, insideInputs, low] using opens
  · simpa [closingInput, low, Nat.add_assoc] using closes

/-- How spans are found again once the inside of the block has been exchanged.
No span starts in the block. -/
def moves (otherInside : List Text) : Relocation := fun _ one other =>
  (one.start < frame.low ∨ frame.bound inside ≤ one.start) ∧
    one.exchange (frame.bound inside) inside.flatten.length
      otherInside.flatten.length = other

variable {frame inside} {otherInside : List Text}

theorem flatten_fill (frame : Frame) (inside : List Text) :
    (frame.fill inside).flatten =
      frame.before.flatten ++ (frame.opening ++ (inside.flatten
        ++ (frame.closing ++ frame.behind.flatten))) := by
  simp [fill]

theorem carries_before :
    List.Forall₂ (Input.Carries (frame.moves inside otherInside))
      (frame.beforeInputs inside) (frame.beforeInputs otherInside) := by
  refine forall₂_inputsFrom fun before whole after cut => ⟨rfl, rfl, rfl, ?_⟩
  intro start short stop
  have within : before.flatten.length + whole.length ≤
      frame.before.flatten.length := by
    rw [cut]
    simp
  have content := length_contentOf_le whole
  have early : 0 + before.flatten.length + start < frame.low := by
    have shortContent : start < (SourceLine.contentOf whole).length := short
    unfold low
    omega
  refine ⟨Or.inl early, if_neg ?_⟩
  change ¬ frame.bound inside ≤ 0 + before.flatten.length + start
  unfold bound
  omega

theorem drop_fill (frame : Frame) (inside : List Text) (count : Nat) :
    (frame.fill inside).flatten.drop (frame.bound inside + count) =
      frame.behind.flatten.drop count := by
  have cut : (frame.fill inside).flatten =
      (frame.before.flatten ++ frame.opening ++ inside.flatten
        ++ frame.closing) ++ frame.behind.flatten := by
    simp [fill]
  have length : (frame.before.flatten ++ frame.opening ++ inside.flatten
      ++ frame.closing).length = frame.bound inside := by
    simp [bound, low, Nat.add_assoc]
  rw [cut, ← length, List.drop_length_add_append]

theorem carries_behind (length : otherInside.length = inside.length) :
    List.Forall₂ (fun input other =>
        input.Carries (frame.moves inside otherInside) other ∧
          ForeseeAlike
            (Text.findLast? Comment.closer (frame.fill inside).flatten)
            (Text.findLast? Comment.closer (frame.fill otherInside).flatten)
            input other)
      (frame.behindInputs inside) (frame.behindInputs otherInside) := by
  unfold behindInputs
  rw [length]
  refine forall₂_inputsFrom fun before whole after _ =>
    ⟨⟨rfl, rfl, rfl, fun start _ stop => ?_⟩, rfl, fun start _ => ?_⟩
  · have late : frame.bound inside ≤
        frame.bound inside + before.flatten.length + start := by
      omega
    refine ⟨Or.inr late, (if_pos late).trans ?_⟩
    simp only [inputAt, Input.place, SourceLine.ofWhole, bound, Span.mk.injEq]
    omega
  · rw [Bool.eq_iff_iff, Text.any_findLast?_iff (by decide),
      Text.any_findLast?_iff (by decide)]
    simp only [inputAt, SourceLine.ofWhole, Nat.add_assoc, drop_fill]

/-- Scans of a text go through a block in the same way, whatever lines it
holds. -/
theorem relates_of_hasBlock (length : otherInside.length = inside.length)
    {header : Nat}
    (hasBlock : frame.HasBlock inside header
      (Text.findLast? Comment.closer (frame.fill inside).flatten))
    (otherHasBlock : frame.HasBlock otherInside header
      (Text.findLast? Comment.closer (frame.fill otherInside).flatten)) :
    ((inputsFrom 0 0 {} (frame.fill inside)).foldl
        (step header
          (Text.findLast? Comment.closer (frame.fill inside).flatten))
        {}).Relates (frame.moves inside otherInside)
      ((inputsFrom 0 0 {} (frame.fill otherInside)).foldl
        (step header
          (Text.findLast? Comment.closer (frame.fill otherInside).flatten))
        {}) := by
  obtain ⟨opener, opens, closes⟩ := hasBlock
  obtain ⟨otherOpener, otherOpens, otherCloses⟩ := otherHasBlock
  have foresees (lines : List Text) : (frame.beforeInputs lines).Pairwise
      (Foresees (Text.findLast? Comment.closer (frame.fill lines).flatten)) := by
    rw [flatten_fill]
    exact pairwise_foresees 0 _ [] frame.before _
  have started : State.Relates (frame.moves inside otherInside) {} {} :=
    ⟨rfl, rfl, rfl, rfl, rfl, rfl, .nil, .nil, .nil, .nil, .nil⟩
  have atOpening := relates_of_leaves carries_before started (foresees inside)
    (foresees otherInside) ⟨opens.outside, comment_of_opened? opens.opened⟩
    ⟨otherOpens.outside, comment_of_opened? otherOpens.opened⟩
  have sameOpener : otherOpener = opener := by
    have opening := (Option.filter_eq_some_iff.mp opens.opened).1
    have otherOpening := (Option.filter_eq_some_iff.mp otherOpens.opened).1
    rw [atOpening.context] at otherOpening
    exact Option.some.inj (otherOpening.symm.trans opening)
  subst sameOpener
  have inBlock {lines : List Text} {lastClose : Option Nat}
      (opens : Opens header lastClose {} (frame.beforeInputs lines)
        (frame.openingInput lines) (frame.insideInputs lines) otherOpener) :
      ∀ input ∈ frame.insideInputs lines, header < input.number ∧
        input.closes otherOpener = false := by
    intro input member
    have behind := Nat.lt_trans opens.behind (lt_number_of_mem_inputsFrom member)
    exact ⟨behind, opens.stays input member behind⟩
  obtain ⟨atClosing, isOpen⟩ := relates_of_code (by simp [insideInputs, length])
    ((atOpening.openFence rfl otherOpener).addLine true false) rfl
    (inBlock opens) (inBlock otherOpens)
  have number : (frame.closingInput otherInside).number =
      (frame.closingInput inside).number := by
    simp [closingInput, inputAt, length]
  have behind : header < (frame.closingInput inside).number := by
    have := opens.behind
    simp only [openingInput, closingInput, inputAt] at this ⊢
    omega
  simp only [inputsFrom_fill, List.foldl_append, List.foldl_cons]
  rw [step_of_opened opens.behind opens.outside opens.opened,
    step_of_opened otherOpens.behind otherOpens.outside otherOpens.opened,
    step_of_fence behind isOpen,
    step_of_fence (number ▸ behind) (atClosing.context ▸ isOpen),
    closes, otherCloses]
  exact relates_of_foreseeAlike header (carries_behind length)
    ((atClosing.closeFence number _ _).addLine true false)

end Frame

end AnchorLint
