import AnchorLint.Proofs.Document.Recorded

/-!
# The table of lines

A text is cut behind every line feed, behind every carriage return that no line
feed follows, and nowhere else.  So the spans of the lines follow one another
without gaps from the start of the text to its end, and none of them is empty.
Every offset in the text lies on exactly one line, and bisection finds this line,
because a line starts at or before an offset if and only if it is not behind the
line that holds the offset.
-/

namespace AnchorLint

/-! ## Spans without gaps -/

namespace Span

/-- Whether spans follow one another from `start` to `stop` without gaps, and none
of them is empty. -/
inductive Tile : (start stop : Nat) → List Span → Prop where
  | nil (start : Nat) : Tile start start []
  | cons {start middle stop : Nat} {spans : List Span} (proper : start < middle)
      (rest : Tile middle stop spans) : Tile start stop (⟨start, middle⟩ :: spans)

namespace Tile

variable {start stop : Nat} {spans : List Span}

theorem bounds (tile : Tile start stop spans) :
    ∀ span ∈ spans, start ≤ span.start ∧ span.start < span.stop ∧
      span.stop ≤ stop := by
  induction tile with
  | nil start => simp
  | @cons start middle stop spans proper rest ih =>
      have ordered : middle ≤ stop := by
        cases rest with
        | nil => exact Nat.le_refl _
        | cons properNext restNext =>
            have here := ih _ List.mem_cons_self
            dsimp only at here
            omega
      refine List.forall_mem_cons.mpr
        ⟨⟨Nat.le_refl _, proper, ordered⟩, fun span member => ?_⟩
      have later := ih span member
      omega

theorem eq_nil_iff (tile : Tile start stop spans) : spans = [] ↔ start = stop := by
  cases tile with
  | nil => simp
  | cons proper rest =>
      have reached := (Tile.cons proper rest).bounds _ List.mem_cons_self
      simp only [List.cons_ne_nil, false_iff]
      dsimp only at reached
      omega

theorem exists_holds (tile : Tile start stop spans) {offset : Nat}
    (reached : start ≤ offset) (inside : offset < stop) :
    ∃ (index : Nat) (span : Span), spans[index]? = some span ∧
      span.Holds offset := by
  induction tile with
  | nil start => omega
  | @cons start middle stop spans proper rest ih =>
      rcases Nat.lt_or_ge offset middle with here | behind
      · exact ⟨0, _, rfl, reached, here⟩
      · obtain ⟨index, span, found, holds⟩ := ih behind inside
        exact ⟨index + 1, span, found, holds⟩

/-- The spans that start at or before an offset are those up to the one that holds
it. -/
theorem start_le_iff (tile : Tile start stop spans) {offset index other : Nat}
    {span otherSpan : Span} (found : spans[index]? = some span)
    (holds : span.Holds offset) (otherFound : spans[other]? = some otherSpan) :
    otherSpan.start ≤ offset ↔ other ≤ index := by
  induction tile generalizing index other with
  | nil start => simp at found
  | @cons start middle stop spans proper rest ih =>
      obtain ⟨starts, ends⟩ := holds
      cases index with
      | zero =>
          obtain rfl := Option.some.inj found
          cases other with
          | zero =>
              obtain rfl := Option.some.inj otherFound
              exact iff_of_true starts (Nat.le_refl _)
          | succ other =>
              have behind := rest.bounds _ (List.mem_of_getElem? otherFound)
              dsimp only at ends
              omega
      | succ index =>
          cases other with
          | zero =>
              obtain rfl := Option.some.inj otherFound
              have behind := rest.bounds _ (List.mem_of_getElem? found)
              dsimp only
              omega
          | succ other =>
              rw [ih found otherFound]
              omega

end Tile

end Span

/-! ## Where a text is cut -/

namespace SourceLine

/-- What may end a line. -/
def lineBreaks : List Text :=
  [['\n'], ['\r'], ['\r', '\n']]

theorem length_pos_of_mem_lineBreaks {ending : Text}
    (isBreak : ending ∈ lineBreaks) : 0 < ending.length := by
  revert isBreak
  simp only [lineBreaks, List.mem_cons, List.not_mem_nil, or_false]
  rintro (rfl | rfl | rfl) <;> simp

theorem eq_of_getLast?_return {ending : Text} (isBreak : ending ∈ lineBreaks)
    (isReturn : ending.getLast? = some '\r') : ending = ['\r'] := by
  simp only [lineBreaks, List.mem_cons, List.not_mem_nil, or_false] at isBreak
  rcases isBreak with rfl | rfl | rfl
  · simp at isReturn
  · rfl
  · simp at isReturn

/-- How a text is cut into lines: each one ends with one line break, and the last
one may do without.  A carriage return and a line feed that follow one another are
one line break. -/
inductive CutInto : Text → List Text → Prop where
  | nil : CutInto [] []
  | last {content : Text} (proper : content ≠ [])
      (unbroken : ∀ character ∈ content, isTerminator character = false) :
      CutInto content [content]
  | line {content ending rest : Text} {wholes : List Text}
      (unbroken : ∀ character ∈ content, isTerminator character = false)
      (isBreak : ending ∈ lineBreaks)
      (unsplit : ending = ['\r'] → rest.head? ≠ some '\n')
      (later : CutInto rest wholes) :
      CutInto (content ++ ending ++ rest) ((content ++ ending) :: wholes)

theorem cutInto_wholeFrom {taken : Text} (text : Text)
    (within : ∀ character ∈ taken, isTerminator character = false) :
    CutInto (taken.reverse ++ text) (wholeFrom taken text) := by
  have unbroken {taken : Text}
      (within : ∀ character ∈ taken, isTerminator character = false) :
      ∀ character ∈ taken.reverse, isTerminator character = false :=
    fun character member => within character (List.mem_reverse.mp member)
  fun_induction wholeFrom taken text with
  | case1 taken empty =>
      rw [List.isEmpty_iff.mp empty]
      exact .nil
  | case2 taken full =>
      rw [List.append_nil]
      refine .last ?_ (unbroken within)
      simpa using full
  | case3 taken rest ih =>
      rw [← List.singleton_append, ← List.singleton_append (l := rest),
        ← List.append_assoc ['\r'], ← List.append_assoc]
      exact .line (unbroken within) (by simp [lineBreaks]) (by simp) (ih (by simp))
  | case4 taken character rest notPair ends ih =>
      rw [List.append_cons]
      refine .line (unbroken within) ?_ ?_ (ih (by simp))
      · rcases ends with rfl | rfl <;> simp [lineBreaks]
      · intro isReturn feed
        obtain ⟨-, rest, rfl⟩ : character = '\r' ∧ ∃ after, rest = '\n' :: after :=
          ⟨by simpa using isReturn, List.head?_eq_some_iff.mp feed⟩
        exact notPair rest (by simpa using isReturn) rfl
  | case5 taken character rest notPair goesOn ih =>
      have plain : isTerminator character = false := by
        simpa [isTerminator] using goesOn
      have later := ih (List.forall_mem_cons.mpr ⟨plain, within⟩)
      rwa [List.reverse_cons, List.append_assoc] at later

theorem cutInto_wholeLines (text : Text) : CutInto text (wholeLines text) := by
  rw [wholeLines_eq]
  exact @cutInto_wholeFrom [] text (by simp)

namespace CutInto

variable {text : Text} {wholes : List Text}

theorem tile (cut : CutInto text wholes) (offset : Nat) :
    Span.Tile offset (offset + text.length)
      ((placeFrom offset wholes).map SourceLine.span) := by
  induction cut generalizing offset with
  | nil => exact .nil offset
  | @last content proper unbroken =>
      have longer := List.length_pos_iff.mpr proper
      exact .cons (Nat.lt_add_of_pos_right longer) (.nil _)
  | @line content ending rest wholes unbroken isBreak unsplit later ih =>
      have longer := length_pos_of_mem_lineBreaks isBreak
      have rest := ih (offset + (content ++ ending).length)
      rw [Nat.add_assoc, ← List.length_append] at rest
      refine .cons ?_ rest
      rw [List.length_append]
      omega

theorem flatten (cut : CutInto text wholes) : wholes.flatten = text := by
  induction cut with
  | nil => rfl
  | last proper unbroken => simp
  | line unbroken isBreak unsplit later ih => simp [ih]

/-- What stands on a line: text without line breaks, and one line break behind it
unless the line is the last one. -/
theorem exists_ending (cut : CutInto text wholes) {first rest : List Text}
    {whole : Text} (parts : wholes = first ++ whole :: rest) :
    ∃ content ending, whole = content ++ ending ∧
      (∀ character ∈ content, isTerminator character = false) ∧
      (ending ∈ lineBreaks ∧
          (ending = ['\r'] → rest.flatten.head? ≠ some '\n') ∨
        ending = [] ∧ rest = []) := by
  induction cut generalizing first with
  | nil => simp at parts
  | @last content proper unbroken =>
      cases first with
      | nil =>
          obtain ⟨rfl, rfl⟩ := List.cons.inj parts
          exact ⟨content, [], by simp, unbroken, Or.inr ⟨rfl, rfl⟩⟩
      | cons line first => simp at parts
  | @line content ending after wholes unbroken isBreak unsplit later ih =>
      cases first with
      | nil =>
          obtain ⟨rfl, rfl⟩ := List.cons.inj parts
          rw [← later.flatten] at unsplit
          exact ⟨content, ending, rfl, unbroken, Or.inl ⟨isBreak, unsplit⟩⟩
      | cons line first => exact ih (List.cons.inj parts).2

end CutInto

end SourceLine

/-! ## Bisection -/

namespace Line

/-- Bisection finds the last line that starts at or before an offset. -/
theorem search_eq {lines : List Line} {offset : Int} {low high number : Nat}
    (short : high < lines.length) (above : low ≤ number) (below : number ≤ high)
    (starts : ∀ index line, lines[index]? = some line →
      (line.span.start ≤ offset ↔ index ≤ number)) :
    search lines offset low high = number := by
  fun_induction search lines offset low high with
  | case1 low high between middle startsBefore before ih =>
      obtain ⟨line, found, isBefore⟩ := (Option.any_eq_true _ _).mp before
      refine ih short ?_ below
      exact (starts _ _ found).mp (of_decide_eq_true isBefore)
  | case2 low high between middle startsBefore notBefore ih =>
      have inside : middle < lines.length := by omega
      have found := List.getElem?_eq_getElem inside
      have late : ¬ middle ≤ number := by
        intro early
        have isBefore := (starts _ _ found).mpr early
        simp [startsBefore, found, isBefore] at notBefore
      exact ih (by omega) above (by omega)
  | case3 low high finished => omega

/-- In a table without gaps bisection finds the line that holds an offset. -/
theorem numberAt_of_holds {lines : List Line} {start stop : Nat}
    (tile : Span.Tile start stop (lines.map Line.span)) {index offset : Nat}
    {line : Line} (found : lines[index]? = some line)
    (holds : line.span.Holds offset) :
    numberAt lines offset = index + 1 := by
  have short := (List.getElem?_eq_some_iff.mp found).1
  have foundSpan : (lines.map Line.span)[index]? = some line.span := by
    rw [List.getElem?_map, found]
    rfl
  rw [numberAt, search_eq (by omega) (Nat.zero_le index) (by omega)]
  intro other otherLine otherFound
  rw [Int.ofNat_le]
  refine tile.start_le_iff foundSpan holds ?_
  rw [List.getElem?_map, otherFound]
  rfl

end Line

namespace Document

variable {dialect : Dialect} {text : Text} {document : Document}
  (indexed : index dialect text = .ok document)

include indexed

theorem tile_of_index :
    Span.Tile 0 text.length (document.lines.map Line.span) := by
  have tile := (SourceLine.cutInto_wholeLines text).tile 0
  rwa [Nat.zero_add, ← SourceLine.split_eq_placeFrom, ← spans_of_index indexed]
    at tile

theorem length_lines_of_index :
    document.lines.length = (SourceLine.wholeLines text).length := by
  rw [← List.length_map, spans_of_index indexed, List.length_map,
    SourceLine.wholeLines, List.length_map]

/-- A line of an index holds text without line breaks and one line break behind
it, unless it is the last one.  It does not end inside of a line break. -/
theorem exists_ending_of_line {number : Nat} {line : Line}
    (found : document.lines[number]? = some line) :
    (∃ content ending,
      text.slice line.span.start line.span.stop = content ++ ending ∧
        (∀ character ∈ content, SourceLine.isTerminator character = false) ∧
        (ending ∈ SourceLine.lineBreaks ∨
          ending = [] ∧ number + 1 = document.lines.length)) ∧
      ¬ (text[line.span.stop - 1]? = some '\r' ∧
        text[line.span.stop]? = some '\n') := by
  obtain ⟨first, whole, rest, wholes, rfl, spanEq⟩ :=
    exists_whole_of_line indexed found
  obtain ⟨content, ending, rfl, unbroken, ends⟩ :=
    (SourceLine.cutInto_wholeLines text).exists_ending wholes
  rw [spanEq]
  dsimp only
  refine ⟨⟨content, ending, slice_of_wholeLines wholes, unbroken, ?_⟩, ?_⟩
  · refine ends.imp And.left fun ⟨open_, last⟩ => ⟨open_, ?_⟩
    rw [length_lines_of_index indexed, wholes, last, List.length_append,
      List.length_singleton]
  · rintro ⟨isReturn, feed⟩
    have parts : text =
        (first.flatten ++ content ++ ending) ++ rest.flatten := by
      rw [← SourceLine.flatten_wholeLines text, wholes, List.flatten_append,
        List.flatten_cons]
      simp only [List.append_assoc]
    have length : first.flatten.length + (content ++ ending).length =
        (first.flatten ++ content ++ ending).length := by
      simp only [List.length_append, Nat.add_assoc]
    rw [length, parts] at isReturn feed
    rw [List.getElem?_append_right (Nat.le_refl _), Nat.sub_self,
      ← List.head?_eq_getElem?] at feed
    rcases ends with ⟨isBreak, unsplit⟩ | ⟨-, rfl⟩
    · refine unsplit ?_ feed
      have longer := SourceLine.length_pos_of_mem_lineBreaks isBreak
      rw [List.getElem?_append_left (by simp only [List.length_append]; omega),
        ← List.getLast?_eq_getElem?,
        List.getLast?_append_of_ne_nil _ (List.length_pos_iff.mp longer)] at isReturn
      exact SourceLine.eq_of_getLast?_return isBreak isReturn
    · cases feed

/-- The lines of a document follow one another without gaps, from the start of its
text to the end, and none of them is empty.  Each one ends with exactly one line
break, but the last one may do without, and no pair of a carriage return and a line
feed is split.  Every offset in the text lies on exactly one line, and bisection
ends at the number of this line. -/
theorem lines_partition_text :
    Span.Tile 0 text.length (document.lines.map Line.span) ∧
    (document.lines = [] ↔ text = []) ∧
    (∀ number line, document.lines[number]? = some line →
      (∃ content ending,
        text.slice line.span.start line.span.stop = content ++ ending ∧
          (∀ character ∈ content, SourceLine.isTerminator character = false) ∧
          (ending ∈ SourceLine.lineBreaks ∨
            ending = [] ∧ number + 1 = document.lines.length)) ∧
        ¬ (text[line.span.stop - 1]? = some '\r' ∧
          text[line.span.stop]? = some '\n')) ∧
    ∀ offset < text.length, ∃ number line,
      document.lineAt offset = number + 1 ∧
        document.lines[number]? = some line ∧ line.span.Holds offset ∧
        ∀ other otherLine, document.lines[other]? = some otherLine →
          otherLine.span.Holds offset → other = number := by
  have tile := tile_of_index indexed
  refine ⟨tile, ?_, fun _ _ => exists_ending_of_line indexed, ?_⟩
  · have empty := tile.eq_nil_iff
    rw [List.map_eq_nil_iff] at empty
    rw [empty, eq_comm, List.length_eq_zero_iff]
  · intro offset inside
    obtain ⟨number, span, foundSpan, holds⟩ :=
      tile.exists_holds (Nat.zero_le offset) inside
    rw [List.getElem?_map] at foundSpan
    obtain ⟨line, found, rfl⟩ := Option.map_eq_some_iff.mp foundSpan
    refine ⟨number, line, Line.numberAt_of_holds tile found holds, found, holds, ?_⟩
    intro other otherLine otherFound otherHolds
    have same := Line.numberAt_of_holds tile otherFound otherHolds
    rw [Line.numberAt_of_holds tile found holds] at same
    exact (Nat.succ.inj same).symm

/-- A pair, a lone carriage return in front of another pair, a blank line, and a
last line without a break. -/
def brokenText : Text :=
  "a\r\nb\r\r\n\nc".toList

omit indexed in
theorem lines_partition_text_mixed :
    ∃ document, index .github brokenText = .ok document ∧
      document.lines.map Line.span =
        [⟨0, 3⟩, ⟨3, 5⟩, ⟨5, 7⟩, ⟨7, 8⟩, ⟨8, 9⟩] ∧
      Span.Tile 0 9 (document.lines.map Line.span) ∧
      ∃ number line, document.lineAt 6 = number + 1 ∧
        document.lines[number]? = some line ∧ line.span.Holds 6 := by
  have found : (index .github brokenText).toOption.any (fun document =>
      document.lines.map Line.span ==
        [⟨0, 3⟩, ⟨3, 5⟩, ⟨5, 7⟩, ⟨7, 8⟩, ⟨8, 9⟩]) = true := by
    decide +kernel
  obtain ⟨document, indexed, spans⟩ := (Option.any_eq_true _ _).mp found
  have indexed := Outcome.toOption_eq_some.mp indexed
  obtain ⟨tile, -, -, holds⟩ := lines_partition_text indexed
  obtain ⟨number, line, same, isLine, inside, -⟩ := holds 6 (by decide)
  exact ⟨document, indexed, beq_iff_eq.mp spans, tile, number, line, same, isLine,
    inside⟩

end Document

end AnchorLint
