import AnchorLint.Proofs.Document.Assembly
import AnchorLint.Proofs.Document.Lookahead

/-!
# The lines that a scan records

A scan records every line once, in order, with its span and with two flags: one
for code and one for front matter.  Both are known before the line is read any
further, so the lines of a document follow from the states between them, and
none of them is front matter and code at once.
-/

namespace AnchorLint

namespace Scan

def isCode (header : Nat) (state : State) (input : Input) : Bool :=
  header < input.number
    && ((fenced? state input).isSome || (indented? state input).isSome)

/-- Whether a line is neither code nor front matter, given the state before
it. -/
def isPlain (header : Nat) (state : State) (input : Input) : Bool :=
  header < input.number && !isCode header state input

def linesFrom (header : Nat) (lastClose : Option Nat) :
    State → List Input → List Line
  | _, [] => []
  | state, input :: rest =>
    ⟨input.source.span, isCode header state input, input.number ≤ header⟩
      :: linesFrom header lastClose (step header lastClose state input) rest

/-! ## One line -/

section

variable {state after : State} {input : Input}

theorem lines_plain (lastClose : Option Nat) :
    (plain state input lastClose).harvest.lines = state.harvest.lines := by
  obtain ⟨_, _, _, _, _, _, _, _, _, _, _, _, _, same⟩ :=
    plain_changes state input lastClose
  rw [same]

theorem lines_fenced? (fenced : fenced? state input = some after) :
    after.harvest.lines = state.harvest.lines := by
  obtain ⟨fence, indented, codeBlocks, rfl⟩ := fenced?_changes fenced
  rfl

theorem lines_indented? (indented : indented? state input = some after) :
    after.harvest.lines = state.harvest.lines := by
  obtain ⟨range, rfl⟩ := indented?_changes indented
  rfl

theorem lines_leaveIndented :
    (leaveIndented state input).harvest.lines = state.harvest.lines := by
  obtain ⟨indented, codeBlocks, same⟩ := leaveIndented_changes state input
  rw [same]

theorem lines_step (header : Nat) (lastClose : Option Nat) (state : State)
    (input : Input) :
    (step header lastClose state input).harvest.lines =
      ⟨input.source.span, isCode header state input, input.number ≤ header⟩
        :: state.harvest.lines := by
  unfold step isCode
  dsimp only
  by_cases front : input.number ≤ header
  · have notBehind : ¬ header < input.number := Nat.not_lt_of_le front
    simp [front, notBehind, Harvest.addLine]
  · have behind : header < input.number := Nat.lt_of_not_le front
    rw [if_neg front]
    cases fenced : fenced? state input with
    | some after =>
        have same := lines_fenced? fenced
        simp [front, behind, Harvest.addLine, same]
    | none =>
        cases indented : indented? state input with
        | some after =>
            have same := lines_indented? indented
            simp [front, behind, Harvest.addLine, same]
        | none =>
            simp [front, Harvest.addLine, lines_plain, lines_leaveIndented]

/-- What is known about a plain line: no fence is open, and it opens none. -/
theorem cases_of_isPlain {header : Nat}
    (isPlainLine : isPlain header state input = true) :
    header < input.number ∧ state.context.fence = none ∧
      opened? state.context input = none ∧ indented? state input = none := by
  unfold isPlain isCode at isPlainLine
  simp only [Bool.and_eq_true, decide_eq_true_eq] at isPlainLine
  obtain ⟨behind, notCode⟩ := isPlainLine
  simp only [behind, decide_true, Bool.true_and, Bool.not_eq_true',
    Bool.or_eq_false_iff, Option.isSome_eq_false_iff, Option.isNone_iff_eq_none]
    at notCode
  obtain ⟨unfenced, unindented⟩ := notCode
  cases isOpen : state.context.fence with
  | some entry =>
      rw [fenced?_of_fence isOpen] at unfenced
      cases unfenced
  | none =>
      rw [fenced?_of_none isOpen] at unfenced
      exact ⟨behind, rfl, Option.map_eq_none_iff.mp unfenced, unindented⟩

theorem step_of_isPlain {header : Nat}
    (isPlainLine : isPlain header state input = true) (lastClose : Option Nat) :
    step header lastClose state input =
      (plain (leaveIndented state input) input lastClose).addLine input false
        false := by
  obtain ⟨behind, outside, opens, unindented⟩ := cases_of_isPlain isPlainLine
  rw [step_of_unfenced behind outside opens, unfenced, unindented]

theorem comment_step (header : Nat) (lastClose : Option Nat) (state : State)
    (input : Input) :
    (step header lastClose state input).context.comment =
      if isPlain header state input then
        (Comment.mask input.place lastClose state.context.comment).pending
      else state.context.comment := by
  by_cases isPlainLine : isPlain header state input = true
  · rw [if_pos isPlainLine, step_of_isPlain isPlainLine]
    change (plain _ _ _).context.comment = _
    rw [(plain_feeds _ _ _).2, (leaveIndented_keeps _ _).2]
  · rw [if_neg isPlainLine]
    unfold step
    dsimp only
    split
    · rfl
    · rename_i behind
      split
      · rename_i fenced
        exact (fenced?_keeps fenced).2
      · rename_i unfenced
        split
        · rename_i indented
          exact (indented?_keeps indented).2
        · rename_i unindented
          refine absurd ?_ isPlainLine
          simp [isPlain, isCode, unfenced, unindented, Nat.lt_of_not_le behind]

end

/-! ## A whole scan -/

section

variable {header : Nat} {lastClose : Option Nat}

theorem lines_foldl (inputs : List Input) (state : State) :
    (inputs.foldl (step header lastClose) state).harvest.lines.reverse =
      state.harvest.lines.reverse
        ++ linesFrom header lastClose state inputs := by
  induction inputs generalizing state with
  | nil => simp [linesFrom]
  | cons input inputs ih =>
      rw [List.foldl_cons, ih, lines_step, List.reverse_cons,
        List.append_assoc, List.singleton_append, linesFrom]

@[simp]
theorem length_linesFrom (inputs : List Input) (state : State) :
    (linesFrom header lastClose state inputs).length = inputs.length := by
  induction inputs generalizing state with
  | nil => rfl
  | cons input inputs ih => rw [linesFrom, List.length_cons, ih, List.length_cons]

theorem map_span_linesFrom (inputs : List Input) (state : State) :
    (linesFrom header lastClose state inputs).map Line.span =
      inputs.map fun input => input.source.span := by
  induction inputs generalizing state with
  | nil => rfl
  | cons input inputs ih => rw [linesFrom, List.map_cons, ih, List.map_cons]

theorem linesFrom_append (first second : List Input) (state : State) :
    linesFrom header lastClose state (first ++ second) =
      linesFrom header lastClose state first
        ++ linesFrom header lastClose
          (first.foldl (step header lastClose) state) second := by
  induction first generalizing state with
  | nil => rfl
  | cons input first ih => simp [linesFrom, ih]

/-- The flags of a line are those that the state before it gives. -/
theorem getElem?_linesFrom {inputs before after : List Input} {input : Input}
    (cut : inputs = before ++ input :: after) (state : State) :
    (linesFrom header lastClose state inputs)[before.length]? =
      some ⟨input.source.span,
        isCode header (before.foldl (step header lastClose) state) input,
        input.number ≤ header⟩ := by
  have length := @length_linesFrom header lastClose before state
  rw [cut, linesFrom_append, List.getElem?_append_right (by omega), length,
    Nat.sub_self, linesFrom, List.getElem?_cons_zero]

theorem not_code_and_front {inputs : List Input} {state : State} {line : Line}
    (member : line ∈ linesFrom header lastClose state inputs) :
    ¬ (line.inCode = true ∧ line.inFrontMatter = true) := by
  induction inputs generalizing state with
  | nil => cases member
  | cons input inputs ih =>
      rcases List.mem_cons.mp member with rfl | later
      · rintro ⟨code, front⟩
        have behind := (Bool.and_eq_true_iff.mp code).1
        simp only [decide_eq_true_eq] at behind front
        omega
      · exact ih later

end

theorem lines_finish (state : State) :
    (finish state).lines = state.harvest.lines := by
  obtain ⟨codeBlocks, replay, same⟩ := finish_changes state
  rw [same]

/-! ## The lines of a text -/

theorem exists_cut {α : Type} {items : List α} {index : Nat} {item : α}
    (found : items[index]? = some item) :
    ∃ before after, items = before ++ item :: after ∧
      before.length = index := by
  obtain ⟨short, rfl⟩ := List.getElem?_eq_some_iff.mp found
  refine ⟨items.take index, items.drop (index + 1), ?_, ?_⟩
  · rw [List.getElem_cons_drop, List.take_append_drop]
  · exact List.length_take_of_le (Nat.le_of_lt short)

theorem forall₂_contentOf (number offset : Nat) (behind : Block.Closers)
    (wholes : List Text) :
    List.Forall₂ (fun whole input =>
        input.source.content = SourceLine.contentOf whole)
      wholes (inputsFrom number offset behind wholes) := by
  induction wholes generalizing number offset with
  | nil => exact .nil
  | cons whole wholes ih => exact .cons rfl (ih _ _)

theorem forall₂_bodyOf (number offset : Nat) (behind : Block.Closers)
    (wholes : List Text) :
    List.Forall₂ (fun whole input => input.body = bodyOf whole)
      wholes (inputsFrom number offset behind wholes) := by
  induction wholes generalizing number offset with
  | nil => exact .nil
  | cons whole wholes ih => exact .cons rfl (ih _ _)

end Scan

namespace Document

theorem harvestOf_eq (text : Text) :
    harvestOf text = Scan.finish
      ((Scan.inputsFrom 0 0 {} (SourceLine.wholeLines text)).foldl
        (Scan.step (headerOf (SourceLine.split text))
          (Text.findLast? Comment.closer text)) {}) := by
  rw [← Scan.inputs_split]
  rfl

/-- The lines of a text as its scan reads them. -/
def scanned (text : Text) : List Scan.Input :=
  Scan.inputsFrom 0 0 {} (SourceLine.wholeLines text)

theorem split_eq_scanned (text : Text) :
    SourceLine.split text = (scanned text).map Scan.Input.source := by
  have sources (number offset : Nat) (wholes : List Text) :
      SourceLine.placeFrom offset wholes =
        (Scan.inputsFrom number offset {} wholes).map Scan.Input.source := by
    induction wholes generalizing number offset with
    | nil => rfl
    | cons whole wholes ih => exact congrArg (_ :: ·) (ih _ _)
  rw [SourceLine.split_eq_placeFrom]
  exact sources 0 0 _

/-- The state of the scan of a text behind some of its lines. -/
def stateBehind (text : Text) (inputs : List Scan.Input) : Scan.State :=
  inputs.foldl (Scan.step (headerOf (SourceLine.split text))
    (Text.findLast? Comment.closer text)) {}

theorem lines_of_index {dialect : Dialect} {text : Text} {document : Document}
    (indexed : index dialect text = .ok document) :
    document.lines = Scan.linesFrom (headerOf (SourceLine.split text))
      (Text.findLast? Comment.closer text) {} (scanned text) := by
  obtain ⟨frontMatter, -, -, rfl⟩ := exists_of_index indexed
  change (harvestOf text).lines.reverse = _
  rw [harvestOf_eq, Scan.lines_finish, Scan.lines_foldl]
  rfl

theorem spans_of_index {dialect : Dialect} {text : Text} {document : Document}
    (indexed : index dialect text = .ok document) :
    document.lines.map Line.span =
      (SourceLine.split text).map SourceLine.span := by
  rw [lines_of_index indexed, Scan.map_span_linesFrom, split_eq_scanned,
    List.map_map]
  rfl

theorem pairwise_scanned (text : Text) :
    (scanned text).Pairwise fun first second =>
      first.number ≤ second.number := by
  rw [scanned, ← Scan.inputs_split]
  exact Scan.pairwise_inputs _

theorem exists_cut_of_scanned {text : Text} {before after : List Scan.Input}
    {input : Scan.Input} (cut : scanned text = before ++ input :: after) :
    ∃ first whole rest, SourceLine.wholeLines text = first ++ whole :: rest ∧
      before.length = first.length ∧
      input = Scan.inputAt first.length first.flatten.length
        (Scan.closersOf {} rest) whole ∧
      after = Scan.inputsFrom (first.length + 1)
        (first.flatten.length + whole.length) {} rest := by
  obtain ⟨first, second, wholes, rfl, atInput⟩ :=
    Scan.exists_of_inputsFrom_eq_append cut
  obtain ⟨whole, rest, rfl, inputEq, afterEq⟩ :=
    Scan.exists_of_inputsFrom_eq_cons atInput.symm
  rw [Nat.zero_add, Nat.zero_add] at inputEq afterEq
  exact ⟨first, whole, rest, wholes, Scan.length_inputsFrom _ _ _ _, inputEq,
    afterEq⟩

theorem number_of_scanned {text : Text} {index : Nat} {input : Scan.Input}
    (found : (scanned text)[index]? = some input) : input.number = index + 1 := by
  obtain ⟨before, after, cut, rfl⟩ := Scan.exists_cut found
  obtain ⟨first, whole, rest, -, same, rfl, -⟩ := exists_cut_of_scanned cut
  rw [same]
  rfl

/-- A text from a place on a line on. -/
theorem drop_of_wholeLines {text : Text} {first rest : List Text} {whole : Text}
    (wholes : SourceLine.wholeLines text = first ++ whole :: rest) {start : Nat}
    (inside : start ≤ (SourceLine.contentOf whole).length) :
    text.drop (first.flatten.length + start) =
      (SourceLine.contentOf whole).drop start
        ++ (SourceLine.endingOf whole ++ rest.flatten) := by
  have parts : text = first.flatten ++ (SourceLine.contentOf whole
      ++ (SourceLine.endingOf whole ++ rest.flatten)) := by
    rw [← SourceLine.flatten_wholeLines text, wholes, List.flatten_append,
      List.flatten_cons, ← List.append_assoc (SourceLine.contentOf whole),
      SourceLine.contentOf_append_endingOf]
  conv_lhs => rw [parts]
  rw [List.drop_length_add_append, List.drop_append_of_le_length inside]

theorem slice_of_content {text : Text} {first rest : List Text} {whole : Text}
    (wholes : SourceLine.wholeLines text = first ++ whole :: rest)
    {start stop : Nat} (proper : start ≤ stop)
    (inside : stop ≤ (SourceLine.contentOf whole).length) :
    text.slice (first.flatten.length + start) (first.flatten.length + stop) =
      (SourceLine.contentOf whole).slice start stop := by
  rw [Text.slice, drop_of_wholeLines wholes (Nat.le_trans proper inside),
    Nat.add_sub_add_left, List.take_append_of_le_length]
  · rfl
  · rw [List.length_drop]
    omega

theorem slice_of_wholeLines {text : Text} {first rest : List Text} {whole : Text}
    (wholes : SourceLine.wholeLines text = first ++ whole :: rest) :
    text.slice first.flatten.length (first.flatten.length + whole.length) =
      whole := by
  conv_lhs => rw [← SourceLine.flatten_wholeLines text, wholes]
  simp [Text.slice]

theorem exists_cut_of_line {dialect : Dialect} {text : Text}
    {document : Document} (indexed : index dialect text = .ok document)
    {number : Nat} {line : Line} (found : document.lines[number]? = some line) :
    ∃ before input after, scanned text = before ++ input :: after ∧
      before.length = number ∧
      line = ⟨input.source.span,
        Scan.isCode (headerOf (SourceLine.split text)) (stateBehind text before)
          input, input.number ≤ headerOf (SourceLine.split text)⟩ := by
  rw [lines_of_index indexed] at found
  have short := (List.getElem?_eq_some_iff.mp found).1
  rw [Scan.length_linesFrom] at short
  obtain ⟨before, after, cut, rfl⟩ :=
    Scan.exists_cut (List.getElem?_eq_getElem short)
  refine ⟨before, _, after, cut, rfl, ?_⟩
  rw [Scan.getElem?_linesFrom cut] at found
  exact (Option.some.inj found).symm

theorem exists_whole_of_line {dialect : Dialect} {text : Text}
    {document : Document} (indexed : index dialect text = .ok document)
    {number : Nat} {line : Line} (found : document.lines[number]? = some line) :
    ∃ first whole rest, SourceLine.wholeLines text = first ++ whole :: rest ∧
      first.length = number ∧
      line.span =
        ⟨first.flatten.length, first.flatten.length + whole.length⟩ := by
  obtain ⟨before, input, after, cut, rfl, rfl⟩ := exists_cut_of_line indexed found
  obtain ⟨first, whole, rest, wholes, same, rfl, -⟩ := exists_cut_of_scanned cut
  exact ⟨first, whole, rest, wholes, same.symm, rfl⟩

end Document

end AnchorLint
