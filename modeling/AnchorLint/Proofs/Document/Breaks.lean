import AnchorLint.Proofs.Document.Exchange
import AnchorLint.Proofs.Document.Location

/-!
# Other line breaks

A line may end with a line feed, with a carriage return or with both.  A text in
which every line feed is replaced by one of the other two has the same lines, so
its scan goes the same way and finds the same; only the offsets are those of the
new text.  A scan compares offsets in one case: it asks whether a comment that is
left open on a line is closed later.  The marks that close comments hold no line
breaks, so the answer stays the same.
-/

namespace AnchorLint

namespace Text

/-- The text with other line breaks in place of its line feeds. -/
def withBreaks (ending text : Text) : Text :=
  text.flatMap fun character => if character = '\n' then ending else [character]

/-- Where the character at an offset stands once the line breaks are others. -/
def placeIn (ending text : Text) (offset : Nat) : Nat :=
  (withBreaks ending (text.take offset)).length

/-- Whether a text is a line break other than a line feed. -/
def IsOtherBreak (ending : Text) : Prop :=
  ending = ['\r', '\n'] ∨ ending = ['\r']

variable {ending text : Text}

theorem withBreaks_append (ending first second : Text) :
    withBreaks ending (first ++ second) =
      withBreaks ending first ++ withBreaks ending second :=
  List.flatMap_append

theorem withBreaks_flatten (ending : Text) (pieces : List Text) :
    withBreaks ending pieces.flatten =
      (pieces.map (withBreaks ending)).flatten := by
  induction pieces with
  | nil => rfl
  | cons piece pieces ih =>
      rw [List.flatten_cons, withBreaks_append, ih, List.map_cons,
        List.flatten_cons]

theorem withBreaks_cons_of_ne {character : Char} (solid : character ≠ '\n') :
    withBreaks ending (character :: text) =
      character :: withBreaks ending text := by
  rw [withBreaks, List.flatMap_cons, if_neg solid]
  rfl

theorem withBreaks_newline :
    withBreaks ending ('\n' :: text) = ending ++ withBreaks ending text := by
  rw [withBreaks, List.flatMap_cons, if_pos rfl]
  rfl

theorem withBreaks_of_not_mem (unbroken : '\n' ∉ text) :
    withBreaks ending text = text := by
  induction text with
  | nil => rfl
  | cons character text ih =>
      obtain ⟨here, later⟩ := not_or.mp (mt List.mem_cons.mpr unbroken)
      rw [withBreaks_cons_of_ne (Ne.symm here), ih later]

theorem drop_placeIn (ending text : Text) (offset : Nat) :
    (withBreaks ending text).drop (placeIn ending text offset) =
      withBreaks ending (text.drop offset) := by
  conv_lhs => rw [← List.take_append_drop offset text, withBreaks_append]
  exact List.drop_left' (by rw [placeIn, List.take_append_drop])

/-- Offsets whose characters are on the same line move by the same distance. -/
theorem placeIn_add {offset count : Nat}
    (unbroken : '\n' ∉ (text.drop offset).take count)
    (inside : offset + count ≤ text.length) :
    placeIn ending text (offset + count) = placeIn ending text offset + count := by
  rw [placeIn, List.take_add, withBreaks_append, List.length_append,
    withBreaks_of_not_mem unbroken, List.length_take, List.length_drop, placeIn]
  omega

theorem placeIn_le_placeIn {first second : Nat} (before : first ≤ second) :
    placeIn ending text first ≤ placeIn ending text second := by
  obtain ⟨count, rfl⟩ := Nat.exists_eq_add_of_le before
  rw [placeIn, placeIn, List.take_add, withBreaks_append, List.length_append]
  exact Nat.le_add_right _ _

theorem IsOtherBreak.ne_nil (isBreak : IsOtherBreak ending) : ending ≠ [] := by
  rcases isBreak with rfl | rfl <;> simp

theorem IsOtherBreak.all_isTerminator (isBreak : IsOtherBreak ending) :
    ending.all SourceLine.isTerminator = true := by
  rcases isBreak with rfl | rfl <;> rfl

theorem IsOtherBreak.exists_cons (isBreak : IsOtherBreak ending) :
    ∃ rest, ending = '\r' :: rest := by
  rcases isBreak with rfl | rfl
  · exact ⟨['\n'], rfl⟩
  · exact ⟨[], rfl⟩

theorem head?_withBreaks_ne (isBreak : IsOtherBreak ending) (text : Text) :
    (withBreaks ending text).head? ≠ some '\n' := by
  cases text with
  | nil => simp [withBreaks]
  | cons character text =>
      by_cases broken : character = '\n'
      · obtain ⟨rest, rfl⟩ := isBreak.exists_cons
        rw [broken, withBreaks_newline]
        simp
      · rw [withBreaks_cons_of_ne broken]
        simpa using broken

theorem placeIn_lt_placeIn (isBreak : IsOtherBreak ending) {first second : Nat}
    (before : first < second) (inside : first < text.length) :
    placeIn ending text first < placeIn ending text second := by
  have next : placeIn ending text first < placeIn ending text (first + 1) := by
    rw [placeIn, placeIn, List.take_add_one, withBreaks_append, List.length_append,
      List.getElem?_eq_getElem inside]
    refine Nat.lt_add_of_pos_right (List.length_pos_iff.mpr ?_)
    by_cases broken : text[first] = '\n'
    · rw [Option.toList_some, broken, withBreaks_newline]
      exact List.append_ne_nil_of_left_ne_nil isBreak.ne_nil _
    · rw [Option.toList_some, withBreaks_cons_of_ne broken]
      exact List.cons_ne_nil _ _
  exact Nat.lt_of_lt_of_le next (placeIn_le_placeIn before)

theorem le_placeIn (isBreak : IsOtherBreak ending) {offset : Nat}
    (inside : offset ≤ text.length) : offset ≤ placeIn ending text offset := by
  induction offset with
  | zero => exact Nat.zero_le _
  | succ offset ih =>
      have before := ih (Nat.le_of_lt inside)
      exact Nat.lt_of_le_of_lt before
        (placeIn_lt_placeIn isBreak (Nat.lt_succ_self offset) inside)

/-- A word without line breaks occurs in a text whatever the line breaks are. -/
theorem infix_withBreaks_iff (isBreak : IsOtherBreak ending) {word : Text}
    (proper : word ≠ [])
    (unbroken : ∀ character ∈ word, SourceLine.isTerminator character = false) :
    word <:+: withBreaks ending text ↔ word <:+: text := by
  have starts (text : Text) : word <+: withBreaks ending text ↔ word <+: text := by
    clear proper
    induction word generalizing text with
    | nil => simp
    | cons first word ih =>
        obtain ⟨solid, solidLater⟩ := List.forall_mem_cons.mp unbroken
        cases text with
        | nil => rfl
        | cons character text =>
            by_cases broken : character = '\n'
            · subst broken
              obtain ⟨rest, rfl⟩ := isBreak.exists_cons
              rw [withBreaks_newline, List.cons_append, List.cons_prefix_cons,
                List.cons_prefix_cons]
              refine iff_of_false ?_ ?_
              · rintro ⟨rfl, -⟩
                cases solid
              · rintro ⟨rfl, -⟩
                cases solid
            · rw [withBreaks_cons_of_ne broken, List.cons_prefix_cons,
                List.cons_prefix_cons, ih solidLater]
  induction text with
  | nil => rfl
  | cons character text ih =>
      by_cases broken : character = '\n'
      · subst broken
        rw [withBreaks_newline]
        constructor
        · intro found
          have later := SourceLine.infix_of_infix_endings proper unbroken
            isBreak.all_isTerminator found
          exact (ih.mp later).trans (List.suffix_cons _ _).isInfix
        · intro found
          have later := @SourceLine.infix_of_infix_endings _ proper unbroken
            ['\n'] text rfl found
          exact (ih.mpr later).trans (List.suffix_append _ _).isInfix
      · have here := starts (character :: text)
        rw [withBreaks_cons_of_ne broken] at here ⊢
        rw [List.infix_cons_iff, List.infix_cons_iff]
        exact or_congr here ih

end Text

namespace SourceLine

variable {ending text : Text}

theorem contentOf_withBreaks (isBreak : Text.IsOtherBreak ending) {whole : Text}
    (unbroken : '\r' ∉ whole) :
    contentOf (Text.withBreaks ending whole) = contentOf whole := by
  induction whole with
  | nil => rfl
  | cons character whole ih =>
      obtain ⟨here, later⟩ := not_or.mp (mt List.mem_cons.mpr unbroken)
      by_cases broken : character = '\n'
      · obtain ⟨rest, rfl⟩ := isBreak.exists_cons
        rw [broken, Text.withBreaks_newline]
        rfl
      · have goesOn : isTerminator character = false := by
          simp [isTerminator, broken, Ne.symm here]
        have same := ih later
        unfold contentOf at same ⊢
        rw [Text.withBreaks_cons_of_ne broken, List.takeWhile_cons,
          List.takeWhile_cons, same]

theorem wholeFrom_solid {taken rest : Text} {character : Char}
    (goesOn : ¬ (character = '\r' ∨ character = '\n')) :
    wholeFrom taken (character :: rest) = wholeFrom (character :: taken) rest := by
  rw [wholeFrom, if_neg goesOn]
  exact fun _ isReturn => absurd (Or.inl isReturn) goesOn

theorem wholeFrom_newline (taken rest : Text) :
    wholeFrom taken ('\n' :: rest) =
      (taken.reverse ++ ['\n']) :: wholeFrom [] rest := by
  rw [wholeFrom, if_pos (Or.inr rfl)]
  exact fun _ isReturn => absurd isReturn (by decide)

theorem wholeFrom_otherBreak (isBreak : Text.IsOtherBreak ending)
    (taken : Text) {rest : Text} (ends : rest.head? ≠ some '\n') :
    wholeFrom taken (ending ++ rest) =
      (taken.reverse ++ ending) :: wholeFrom [] rest := by
  rcases isBreak with rfl | rfl
  · rfl
  · rw [List.singleton_append, wholeFrom, if_pos (Or.inl rfl)]
    rintro later - rfl
    exact ends rfl

theorem wholeFrom_withBreaks (isBreak : Text.IsOtherBreak ending)
    (unbroken : '\r' ∉ text) {taken : Text} (unended : '\n' ∉ taken) :
    wholeFrom taken (Text.withBreaks ending text) =
      (wholeFrom taken text).map (Text.withBreaks ending) := by
  have same : Text.withBreaks ending taken.reverse = taken.reverse :=
    Text.withBreaks_of_not_mem (mt List.mem_reverse.mp unended)
  induction text generalizing taken with
  | nil =>
      change wholeFrom taken [] = _
      unfold wholeFrom
      split
      · rfl
      · rw [List.map_singleton, same]
  | cons character text ih =>
      obtain ⟨here, later⟩ := not_or.mp (mt List.mem_cons.mpr unbroken)
      by_cases broken : character = '\n'
      · have ended := Text.head?_withBreaks_ne isBreak text
        rw [broken, Text.withBreaks_newline, wholeFrom_otherBreak isBreak _ ended,
          wholeFrom_newline, List.map_cons, Text.withBreaks_append, same,
          Text.withBreaks_newline, ih later List.not_mem_nil rfl]
        exact congrArg (fun last => (taken.reverse ++ last) :: _)
          (List.append_nil ending).symm
      · have goesOn : ¬ (character = '\r' ∨ character = '\n') :=
          not_or.mpr ⟨Ne.symm here, broken⟩
        have unendedHere : '\n' ∉ character :: taken :=
          mt List.mem_cons.mp (not_or.mpr ⟨Ne.symm broken, unended⟩)
        rw [Text.withBreaks_cons_of_ne broken, wholeFrom_solid goesOn,
          wholeFrom_solid goesOn, ih later unendedHere]
        exact Text.withBreaks_of_not_mem (mt List.mem_reverse.mp unendedHere)

theorem wholeLines_withBreaks (isBreak : Text.IsOtherBreak ending)
    (unbroken : '\r' ∉ text) :
    wholeLines (Text.withBreaks ending text) =
      (wholeLines text).map (Text.withBreaks ending) := by
  rw [wholeLines_eq, wholeLines_eq]
  exact wholeFrom_withBreaks isBreak unbroken List.not_mem_nil

end SourceLine

/-- Where a span of a text is once the line breaks are others. -/
def Span.placeIn (ending text : Text) (span : Span) : Span :=
  ⟨Text.placeIn ending text span.start, Text.placeIn ending text span.stop⟩

namespace Scan

variable {ending : Text}

/-- A line of a text once the line breaks are others. -/
def Input.placeIn (ending text : Text) (input : Input) : Input :=
  { input with source :=
    { input.source with span := input.source.span.placeIn ending text } }

theorem closersOf_withBreaks (isBreak : Text.IsOtherBreak ending)
    {wholes : List Text} (unbroken : ∀ whole ∈ wholes, '\r' ∉ whole) :
    closersOf {} (wholes.map (Text.withBreaks ending)) = closersOf {} wholes := by
  induction wholes with
  | nil => rfl
  | cons whole wholes ih =>
      obtain ⟨here, later⟩ := List.forall_mem_cons.mp unbroken
      have same := ih later
      unfold closersOf bodyOf at same ⊢
      rw [List.map_cons, List.foldr_cons, List.foldr_cons, same,
        SourceLine.contentOf_withBreaks isBreak here]

theorem placeIn_flatten (first rest : List Text) :
    Text.placeIn ending (first ++ rest).flatten first.flatten.length =
      (first.map (Text.withBreaks ending)).flatten.length := by
  rw [Text.placeIn, List.flatten_append, List.take_left, Text.withBreaks_flatten]

theorem inputsFrom_withBreaks (isBreak : Text.IsOtherBreak ending) (number : Nat)
    {first rest : List Text} (unbroken : ∀ whole ∈ rest, '\r' ∉ whole) :
    inputsFrom number (first.map (Text.withBreaks ending)).flatten.length {}
        (rest.map (Text.withBreaks ending)) =
      (inputsFrom number first.flatten.length {} rest).map
        (Input.placeIn ending (first ++ rest).flatten) := by
  induction rest generalizing number first with
  | nil => rfl
  | cons whole rest ih =>
      obtain ⟨here, later⟩ := List.forall_mem_cons.mp unbroken
      have starts := @placeIn_flatten ending first (whole :: rest)
      have stops := @placeIn_flatten ending (first ++ [whole]) rest
      have next := @ih (number + 1) (first ++ [whole]) later
      rw [List.map_append, List.map_singleton, List.flatten_concat,
        List.flatten_concat, List.length_append, List.length_append,
        List.append_assoc, List.singleton_append] at stops next
      rw [List.map_cons, inputsFrom, inputsFrom, List.map_cons, next]
      congr 1
      unfold inputAt Input.placeIn Span.placeIn SourceLine.ofWhole bodyOf
      dsimp only
      rw [starts, stops, SourceLine.contentOf_withBreaks isBreak here,
        closersOf_withBreaks isBreak later]

end Scan

namespace Document

variable {ending text : Text}

theorem not_mem_of_mem_wholeLines {character : Char} (outside : character ∉ text) :
    ∀ whole ∈ SourceLine.wholeLines text, character ∉ whole := by
  intro whole member inside
  refine outside ?_
  rw [← SourceLine.flatten_wholeLines text]
  exact List.mem_flatten_of_mem member inside

theorem scanned_withBreaks (isBreak : Text.IsOtherBreak ending)
    (unbroken : '\r' ∉ text) :
    scanned (Text.withBreaks ending text) =
      (scanned text).map (Scan.Input.placeIn ending text) := by
  have moved := @Scan.inputsFrom_withBreaks ending isBreak 0 []
    (SourceLine.wholeLines text) (not_mem_of_mem_wholeLines unbroken)
  rw [List.nil_append, SourceLine.flatten_wholeLines] at moved
  rw [scanned, SourceLine.wholeLines_withBreaks isBreak unbroken]
  exact moved

theorem split_withBreaks (isBreak : Text.IsOtherBreak ending)
    (unbroken : '\r' ∉ text) :
    SourceLine.split (Text.withBreaks ending text) =
      (SourceLine.split text).map fun line =>
        { line with span := line.span.placeIn ending text } := by
  rw [split_eq_scanned, split_eq_scanned, scanned_withBreaks isBreak unbroken,
    List.map_map, List.map_map]
  rfl

/-! ## Front matter -/

theorem frontMatterBlock?_of_contents {lines others : List SourceLine}
    (same : others.map SourceLine.content = lines.map SourceLine.content) :
    frontMatterBlock? others = frontMatterBlock? lines := by
  cases lines with
  | nil =>
      obtain rfl := List.map_eq_nil_iff.mp same
      rfl
  | cons line lines =>
      obtain ⟨other, others, rfl, here, later⟩ := List.map_eq_cons_iff.mp same
      have length : others.length = lines.length := by
        simpa using congrArg List.length later
      simp only [frontMatterBlock?, here, later, length]

section

variable (isBreak : Text.IsOtherBreak ending) (unbroken : '\r' ∉ text)

include isBreak unbroken

theorem frontMatterBlock?_withBreaks :
    frontMatterBlock? (SourceLine.split (Text.withBreaks ending text)) =
      frontMatterBlock? (SourceLine.split text) := by
  refine frontMatterBlock?_of_contents ?_
  rw [split_withBreaks isBreak unbroken, List.map_map]
  rfl

theorem headerOf_withBreaks :
    headerOf (SourceLine.split (Text.withBreaks ending text)) =
      headerOf (SourceLine.split text) := by
  rw [headerOf, frontMatterBlock?_withBreaks isBreak unbroken, ← headerOf]

theorem headerSpan?_withBreaks :
    headerSpan? (SourceLine.split (Text.withBreaks ending text)) =
      (headerSpan? (SourceLine.split text)).map (Span.placeIn ending text) := by
  rw [headerSpan?, headerOf_withBreaks isBreak unbroken,
    split_withBreaks isBreak unbroken, List.getElem?_map, headerSpan?]
  cases (SourceLine.split text)[headerOf (SourceLine.split text) - 1]? with
  | none => rfl
  | some line =>
      rw [Option.map_some, Option.filter_some, Option.filter_some]
      split <;> rfl

end

/-! ## What a scan finds -/

/-- A span that moves as far as its start does. -/
def breakMove (ending text : Text) (span : Span) : Span :=
  ⟨Text.placeIn ending text span.start,
    span.stop + (Text.placeIn ending text span.start - span.start)⟩

/-- How spans are found again with other line breaks. -/
def breakMoves (ending text : Text) : Relocation := fun _ one other =>
  one.start < text.length ∧ breakMove ending text one = other

/-- The offsets in the content of a line move with the line. -/
theorem placeIn_of_wholeLines {first rest : List Text} {whole : Text}
    (wholes : SourceLine.wholeLines text = first ++ whole :: rest) {count : Nat}
    (inside : count ≤ (SourceLine.contentOf whole).length) :
    first.flatten.length + count ≤ text.length ∧
      Text.placeIn ending text (first.flatten.length + count) =
        Text.placeIn ending text first.flatten.length + count := by
  have behind := @drop_of_wholeLines text first rest whole wholes 0 (Nat.zero_le _)
  rw [Nat.add_zero, List.drop_zero] at behind
  have fits : first.flatten.length + count ≤ text.length := by
    have length := congrArg List.length behind
    have start : first.flatten.length ≤ text.length := by
      rw [← SourceLine.flatten_wholeLines text, wholes, List.flatten_append,
        List.length_append]
      exact Nat.le_add_right _ _
    rw [List.length_drop, List.length_append] at length
    omega
  refine ⟨fits, Text.placeIn_add ?_ fits⟩
  rw [behind, List.take_append_of_le_length inside]
  intro broken
  have solid := List.mem_takeWhile_imp (List.mem_of_mem_take broken)
  simp [SourceLine.isTerminator] at solid

section

variable (isBreak : Text.IsOtherBreak ending)

include isBreak

theorem carries_placeIn {input : Scan.Input} (member : input ∈ scanned text) :
    input.Carries (breakMoves ending text) (input.placeIn ending text) ∧
      Scan.ForeseeAlike (Text.findLast? Comment.closer text)
        (Text.findLast? Comment.closer (Text.withBreaks ending text)) input
        (input.placeIn ending text) := by
  obtain ⟨before, after, cut⟩ := List.append_of_mem member
  obtain ⟨first, whole, rest, wholes, -, rfl, -⟩ := exists_cut_of_scanned cut
  have places {count : Nat} := @placeIn_of_wholeLines ending _ _ _ _ wholes count
  refine ⟨⟨rfl, rfl, rfl, fun start short stop => ?_⟩, rfl, fun start short => ?_⟩
  · obtain ⟨-, placed⟩ := places (Nat.le_of_lt short)
    have inside := (places short).1
    have grows := @Text.le_placeIn ending text isBreak first.flatten.length
      (Nat.le_trans (Nat.le_add_right _ _) inside)
    refine ⟨inside, ?_⟩
    dsimp only [breakMove, Scan.inputAt, Scan.Input.place, Scan.Input.placeIn,
      Span.placeIn, SourceLine.ofWhole]
    rw [placed, Span.mk.injEq]
    omega
  · obtain ⟨-, placed⟩ := places short
    have solid : ∀ character ∈ Comment.closer,
        SourceLine.isTerminator character = false := by
      simp [Comment.closer, SourceLine.isTerminator]
    rw [Bool.eq_iff_iff, Text.any_findLast?_iff (by decide),
      Text.any_findLast?_iff (by decide)]
    dsimp only [Scan.inputAt, Scan.Input.placeIn, Span.placeIn,
      SourceLine.ofWhole]
    rw [Nat.add_assoc, Nat.add_assoc, ← placed, Text.drop_placeIn]
    exact Text.infix_withBreaks_iff isBreak (by decide) solid

theorem relates_withBreaks (unbroken : '\r' ∉ text) :
    (harvestOf text).Relates (breakMoves ending text)
      (harvestOf (Text.withBreaks ending text)) := by
  have started : Scan.State.Relates (breakMoves ending text) {} {} :=
    ⟨rfl, rfl, rfl, rfl, rfl, rfl, .nil, .nil, .nil, .nil, .nil⟩
  rw [harvestOf_eq, harvestOf_eq, headerOf_withBreaks isBreak unbroken,
    ← scanned, ← scanned, scanned_withBreaks isBreak unbroken]
  refine Scan.finish_relates (Scan.relates_of_foreseeAlike _ ?_ started)
  rw [List.forall₂_map_right_iff]
  exact List.forall₂_same.mpr fun input member => carries_placeIn isBreak member

theorem isMonotone_breakMoves :
    (breakMoves ending text).IsMonotone (breakMove ending text) := by
  refine ⟨fun moved => moved.2, fun moved movedNext => ?_⟩
  obtain ⟨-, rfl⟩ := moved
  obtain ⟨inside, rfl⟩ := movedNext
  refine ⟨Text.placeIn_le_placeIn, fun before => ?_⟩
  by_contra late
  have after := Text.placeIn_lt_placeIn isBreak (Nat.lt_of_not_le late) inside
  exact Nat.not_lt_of_le before after

end

/-! ## Indexes -/

/-- The index of a document once its line breaks are others: every offset is that
of the same character in the new text. -/
def withBreaks (ending : Text) (document : Document) : Document :=
  let move := Span.placeIn ending document.text
  let text := Text.withBreaks ending document.text
  { document with
    text := text
    lines := document.lines.map fun line => { line with span := move line.span }
    htmlAnchors := document.htmlAnchors.map fun anchor =>
      { anchor with span := move anchor.span }
    footnoteRefs := document.footnoteRefs.map fun note =>
      { note with span := move note.span }
    footnoteDefs := document.footnoteDefs.map fun note =>
      { note with span := move note.span }
    links := document.links.map fun link => { link with span := move link.span }
    frontMatterSpan := document.frontMatterSpan.map move
    digest := Digest.ofText text }

section

variable {dialect : Dialect} {document : Document}
  (indexed : index dialect text = .ok document)

include indexed

/-- The offsets of a span on a line move with the start of the line. -/
theorem placeIn_of_places {number : Nat} {line : Line} {span : Span}
    (places : document.Places number line span) :
    Text.placeIn ending text span.start =
        Text.placeIn ending text line.span.start
          + (span.start - line.span.start) ∧
      Text.placeIn ending text span.stop =
        Text.placeIn ending text line.span.start
          + (span.stop - line.span.start) := by
  obtain ⟨first, whole, rest, wholes, -, spanEq⟩ :=
    exists_whole_of_line indexed places.found
  have starts := places.starts
  have proper := places.proper
  have ends := places.ends
  rw [text_of_index indexed, spanEq] at ends
  rw [spanEq] at starts ⊢
  dsimp only at starts ends ⊢
  rw [slice_of_wholeLines wholes] at ends
  obtain ⟨start, startEq⟩ := Nat.exists_eq_add_of_le starts
  obtain ⟨stop, stopEq⟩ := Nat.exists_eq_add_of_le
    (Nat.le_trans starts (Nat.le_of_lt proper))
  rw [startEq, stopEq, Nat.add_sub_cancel_left, Nat.add_sub_cancel_left]
  exact ⟨(placeIn_of_wholeLines wholes (by omega)).2,
    (placeIn_of_wholeLines wholes (by omega)).2⟩

theorem breakMove_of_places (isBreak : Text.IsOtherBreak ending) {number : Nat}
    {line : Line} {span : Span} (places : document.Places number line span) :
    breakMove ending text span = span.placeIn ending text := by
  obtain ⟨startEq, stopEq⟩ := @placeIn_of_places ending _ _ _ indexed _ _ _ places
  obtain ⟨first, whole, rest, wholes, -, spanEq⟩ :=
    exists_whole_of_line indexed places.found
  have inside := (@placeIn_of_wholeLines ending _ _ _ _ wholes 0
    (Nat.zero_le _)).1
  have grows := @Text.le_placeIn ending text isBreak line.span.start (by
    rw [spanEq]
    exact inside)
  have starts := places.starts
  have proper := places.proper
  rw [breakMove, Span.placeIn, Span.mk.injEq]
  omega

end

theorem map_span_harvestOf (text : Text) :
    (harvestOf text).lines.reverse.map Line.span =
      (scanned text).map fun input => input.source.span := by
  rw [harvestOf_eq, Scan.lines_finish, Scan.lines_foldl, ← scanned]
  exact Scan.map_span_linesFrom _ _

theorem eq_map_of_flags {lines others : List Line} {move : Span → Span}
    (spans : others.map Line.span = lines.map fun line => move line.span)
    (flags : others.map Scan.flags = lines.map Scan.flags) :
    others = lines.map fun line => { line with span := move line.span } := by
  induction lines generalizing others with
  | nil => exact List.map_eq_nil_iff.mp flags
  | cons line lines ih =>
      obtain ⟨other, others, rfl, here, later⟩ := List.map_eq_cons_iff.mp flags
      obtain ⟨code, front⟩ := Prod.mk.inj here
      have spanHere : other.span = move line.span := (List.cons.inj spans).1
      rw [List.map_cons, ← ih (List.cons.inj spans).2 later, ← spanHere, ← code,
        ← front]

section

variable (isBreak : Text.IsOtherBreak ending) (unbroken : '\r' ∉ text)

include isBreak unbroken

theorem lines_withBreaks :
    (harvestOf (Text.withBreaks ending text)).lines.reverse =
      (harvestOf text).lines.reverse.map fun line =>
        { line with span := line.span.placeIn ending text } := by
  refine eq_map_of_flags ?_ ?_
  · have spans := congrArg (List.map (Span.placeIn ending text))
      (map_span_harvestOf text)
    rw [List.map_map, List.map_map] at spans
    rw [map_span_harvestOf, scanned_withBreaks isBreak unbroken, List.map_map]
    exact spans.symm
  · rw [List.map_reverse, List.map_reverse,
      (relates_withBreaks isBreak unbroken).flags]

omit unbroken in
/-- Elements that are found again are where the same characters are. -/
theorem eq_map_of_places {dialect : Dialect} {document : Document}
    (indexed : index dialect text = .ok document) {α : Type} [Located α]
    {elements others : List α}
    (related : List.Forall₂ (breakMoves ending text).Relates elements others)
    (placed : ∀ element ∈ elements, ∃ line,
      document.Places (Located.line element) line (Located.span element)) :
    others = elements.map (Located.moved (Span.placeIn ending text)) := by
  rw [(isMonotone_breakMoves isBreak).eq_map related]
  refine List.map_congr_left fun element member => ?_
  obtain ⟨line, places⟩ := placed element member
  rw [Located.moved, breakMove_of_places indexed isBreak places, Located.moved]

theorem assemble_withBreaks {dialect : Dialect} {frontMatter : FrontMatter}
    (indexed : index dialect text =
      .ok (assemble dialect text frontMatter (harvestOf text))) :
    assemble dialect (Text.withBreaks ending text) frontMatter
        (harvestOf (Text.withBreaks ending text)) =
      (assemble dialect text frontMatter (harvestOf text)).withBreaks ending := by
  have related := relates_withBreaks isBreak unbroken
  have headings : nameHeadings dialect {}
        (harvestOf (Text.withBreaks ending text)).headings.reverse =
      nameHeadings dialect {} (harvestOf text).headings.reverse := by
    rw [related.headings]
  have htmlAnchors := eq_map_of_places isBreak indexed
    (List.rel_reverse related.htmlAnchors)
    fun _ => exists_places_of_anchor indexed
  have footnoteRefs := eq_map_of_places isBreak indexed
    (List.rel_reverse related.footnoteRefs) fun note member =>
      (exists_places_of_reference indexed member).imp fun _ => And.left
  have footnoteDefs := eq_map_of_places isBreak indexed
    (List.rel_reverse related.footnoteDefs) fun note member =>
      (exists_places_of_definition indexed member).imp fun _ => And.left
  have links : allLinks (harvestOf (Text.withBreaks ending text)).links.reverse
        (harvestOf (Text.withBreaks ending text)).pending.reverse
        (harvestOf (Text.withBreaks ending text)).definitions =
      (allLinks (harvestOf text).links.reverse (harvestOf text).pending.reverse
        (harvestOf text).definitions).map
          (Located.moved (Span.placeIn ending text)) := by
    rw [allLinks_relates (isMonotone_breakMoves isBreak) related]
    refine List.map_congr_left fun link member => ?_
    obtain ⟨line, places, -⟩ := exists_places_of_link indexed member
    exact congrArg (Located.withSpan link)
      (breakMove_of_places indexed isBreak places)
  rw [assemble, assemble, Document.withBreaks, Document.mk.injEq]
  refine ⟨rfl, lines_withBreaks isBreak unbroken, ?_, headings, htmlAnchors, ?_,
    footnoteRefs, footnoteDefs, links, related.definitions,
    congrArg Replay.regions related.replay, rfl,
    headerSpan?_withBreaks isBreak unbroken, rfl,
    congrArg Replay.configuration related.replay, rfl⟩
  · rw [related.codeBlocks]
  · rw [headings, htmlAnchors, allAnchors, List.map_map]
    rfl

/-- Other line breaks change nothing in an index but the offsets, and indexing fails
for the same reasons. -/
theorem index_withBreaks_eq (dialect : Dialect) :
    index dialect (Text.withBreaks ending text) =
      (index dialect text).map (withBreaks ending) := by
  have related := relates_withBreaks isBreak unbroken
  have frontMatterEq :
      frontMatterOf (SourceLine.split (Text.withBreaks ending text)) =
        frontMatterOf (SourceLine.split text) := by
    rw [frontMatterOf, frontMatterBlock?_withBreaks isBreak unbroken,
      ← frontMatterOf]
  have whole := index_eq dialect text
  rw [index_eq, frontMatterEq, related.replay, whole]
  cases decoded : frontMatterOf (SourceLine.split text) with
  | error fault => rfl
  | ok frontMatter =>
      rw [decoded] at whole
      cases oversized : (harvestOf text).replay.oversized with
      | some digits => rfl
      | none =>
          rw [oversized] at whole
          exact congrArg Except.ok (assemble_withBreaks isBreak unbroken whole)

end

end Document

end AnchorLint
