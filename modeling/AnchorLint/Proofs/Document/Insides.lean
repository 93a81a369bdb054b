import AnchorLint.Proofs.Document.Search

/-!
# The inside of a comment

Comments and code spans are looked for in the same line.  A comment hides its inside,
so what else is found on the line does not depend on it, with one exception: a
backtick in the comment may pair with one behind it.  If no code span leads out of
the comment, then a line with another inside of the same length has the same
comments, the same code outside of the comment, and the same masked text.
-/

namespace AnchorLint

namespace Comment

def around (front inside rest : Text) : Text :=
  front ++ (opener ++ (inside ++ (closer ++ rest)))

def spanIn (front inside : Text) : Span :=
  ⟨front.length, front.length + inside.length + 7⟩

def written (inside : Text) : Text :=
  opener ++ (inside ++ closer)

theorem around_eq_written (front inside rest : Text) :
    around front inside rest = front ++ (written inside ++ rest) := by
  simp [around, written]

theorem length_written (inside : Text) :
    (written inside).length = inside.length + 7 := by
  simp [written, opener, closer]

theorem written_ne_nil (inside : Text) : written inside ≠ [] :=
  List.cons_ne_nil _ _

theorem slice_written (front inside rest : Text) :
    (around front inside rest).slice front.length
      (front.length + inside.length + 7) = written inside := by
  rw [Text.slice, around_eq_written, List.drop_left, Nat.add_assoc,
    Nat.add_sub_cancel_left, ← length_written, List.take_left]

theorem length_around (front inside rest : Text) :
    (around front inside rest).length =
      front.length + inside.length + rest.length + 7 := by
  rw [around_eq_written, List.length_append, List.length_append, length_written]
  omega

section

variable (head inside tail : Text)

theorem around_eq_append : around head inside tail =
    (head ++ opener) ++ (inside ++ (closer ++ tail)) :=
  (List.append_assoc _ _ _).symm

theorem slice_around : (around head inside tail).slice (head.length + 4)
    (head.length + inside.length + 4) = inside := by
  have count : head.length + inside.length + 4 - (head.length + 4) =
      inside.length := by
    omega
  have length : head.length + 4 = (head ++ opener).length := by
    simp [opener]
  rw [around_eq_append, Text.slice, count, length, List.drop_left, List.take_left]

theorem drop_around : (around head inside tail).drop
    (head.length + inside.length + 7) = tail := by
  rw [around_eq_written, Nat.add_assoc, ← length_written,
    List.drop_length_add_append, List.drop_left]

end

section

variable {head inside otherInside tail : Text} {position : Nat}

section

variable (length : otherInside.length = inside.length)

include length

theorem length_around_eq : (around head otherInside tail).length =
    (around head inside tail).length := by
  rw [length_around, length_around, length]

theorem spanIn_eq : spanIn head otherInside = spanIn head inside := by
  rw [spanIn, length, spanIn]

theorem drop_around_eq (tail : Text)
    (behind : head.length + inside.length + 7 ≤ position) :
    (around head otherInside tail).drop position =
      (around head inside tail).drop position := by
  obtain ⟨more, rfl⟩ := Nat.exists_eq_add_of_le behind
  have onward (inside : Text) : (around head inside tail).drop
      (head.length + inside.length + 7 + more) = tail.drop more := by
    rw [← List.drop_drop, drop_around]
  rw [onward, ← length, onward]

theorem getElem?_around (tail : Text) {index : Nat}
    (elsewhere : index < head.length ∨ head.length + inside.length + 7 ≤ index) :
    (around head otherInside tail)[index]? =
      (around head inside tail)[index]? := by
  rcases elsewhere with early | late
  · rw [around, around, List.getElem?_append_left early,
      List.getElem?_append_left early]
  · rw [← List.head?_drop, ← List.head?_drop, drop_around_eq length tail late]

end

/-- The last closer of a text does not depend on what stands before the closer of a
comment. -/
theorem findLast?_closer_around {front inside otherInside : Text}
    (length : otherInside.length = inside.length) (rest : Text) :
    Text.findLast? closer (around front otherInside rest) =
      Text.findLast? closer (around front inside rest) := by
  have isSome : (Text.findLast? closer (closer ++ rest)).isSome = true :=
    Text.isSome_findLast?_iff.mpr (List.prefix_append _ _).isInfix
  obtain ⟨position, found⟩ := Option.isSome_iff_exists.mp isSome
  have place (inside : Text) : Text.findLast? closer (around front inside rest) =
      some (position + (front ++ (opener ++ inside)).length) := by
    rw [← Text.findLast?_append found]
    simp [around]
  rw [place, place]
  simp [length]

/-! ## Comments and code -/

/-- Whether a comment is found on a line behind a position, and no code span leads
out of it. -/
structure Seals (content : Text) (position : Nat) (comment : Span) : Prop where
  found : comment ∈ (search content position).hidden
  keeps : ∀ code ∈ codeSpansFrom content position,
    comment.start ≤ code.start → code.start < comment.stop →
      code.stop ≤ comment.stop

namespace Seals

variable (isSealed : Seals (around head inside tail) position (spanIn head inside))

include isSealed

theorem reached : position ≤ head.length :=
  ((le_of_findFrom _ _ _ _).1 _ isSealed.found).1

theorem outside : Span.covered
    (codeSpansFrom (around head inside tail) position) head.length = false :=
  ((le_of_findFrom _ _ _ _).1 _ isSealed.found).2

end Seals

/-- The runs of backticks behind a position that stand in front of a comment. -/
def runsBefore (head : Text) (position : Nat) : List Run :=
  Run.collect Markup.backtick (head.drop position ++ ['<'])

def runsWithin (head inside : Text) (position : Nat) : List Run :=
  Run.collectFrom Markup.backtick (head.length - position + 1) (some '<') none
    ('!' :: '-' :: '-' :: (inside ++ ['-', '-', '>']))

def runsBehind (head tail : Text) (position size : Nat) : List Run :=
  Run.collectFrom Markup.backtick (head.length - position + size + 7) (some '>')
    none tail

/-- The first character of the opener and the last one of the closer separate the
runs of a line. -/
theorem collect_drop_around (reached : position ≤ head.length) :
    Run.collect Markup.backtick ((around head inside tail).drop position) =
      runsBefore head position ++ (runsWithin head inside position
        ++ runsBehind head tail position inside.length) := by
  let middle : Text := '!' :: '-' :: '-' :: (inside ++ ['-', '-'])
  have dropped : (around head inside tail).drop position =
      head.drop position ++ '<' :: (middle ++ '>' :: tail) := by
    rw [around, List.drop_append_of_le_length reached]
    simp [middle, opener, closer]
  have count : head.length - position + 1 + middle.length + 1 =
      head.length - position + inside.length + 7 := by
    simp [middle]
    omega
  have closing : middle ++ ['>'] =
      '!' :: '-' :: '-' :: (inside ++ ['-', '-', '>']) := by
    simp [middle]
  rw [dropped, Run.collect, Run.collectFrom_append (by decide),
    Run.collectFrom_append (by decide) _ _ _ middle, List.length_drop,
    Nat.zero_add, count, closing]
  rfl

section

variable {run : Run}

theorem start_le_of_mem_runsBefore (reached : position ≤ head.length)
    (member : run ∈ runsBefore head position) :
    run.start + position ≤ head.length := by
  obtain ⟨-, proper, ends⟩ := Run.bounds_of_mem_collectFrom_none member
  simp only [List.length_append, List.length_drop, List.length_singleton] at ends
  omega

theorem bounds_of_mem_runsWithin (reached : position ≤ head.length)
    (member : run ∈ runsWithin head inside position) :
    head.length < run.start + position ∧ run.start < run.stop ∧
      run.stop + position ≤ head.length + inside.length + 7 := by
  obtain ⟨starts, proper, ends⟩ := Run.bounds_of_mem_collectFrom_none member
  simp only [List.length_append, List.length_cons, List.length_nil] at ends
  omega

theorem lt_stop_of_mem_runsBehind {size : Nat} (reached : position ≤ head.length)
    (member : run ∈ runsBehind head tail position size) :
    head.length + size + 7 < run.stop + position := by
  obtain ⟨starts, proper, ends⟩ := Run.bounds_of_mem_collectFrom_none member
  omega

end

/-- Runs on the two sides of an end of the comment are not paired, if no code span
leads out of it. -/
theorem Seals.pairSpans_runs
    (isSealed : Seals (around head inside tail) position (spanIn head inside)) :
    Inline.pairSpans (runsBefore head position ++ (runsWithin head inside position
        ++ runsBehind head tail position inside.length)) =
      Inline.pairSpans (runsBefore head position)
        ++ (Inline.pairSpans (runsWithin head inside position)
          ++ Inline.pairSpans (runsBehind head tail position inside.length)) := by
  have reached := isSealed.reached
  have isCode {span : Span} (member : span ∈ Inline.pairSpans
      (runsBefore head position ++ (runsWithin head inside position
        ++ runsBehind head tail position inside.length))) :
      (⟨span.start + position, span.stop + position⟩ : Span) ∈
        codeSpansFrom (around head inside tail) position := by
    rw [codeSpansFrom, Inline.codeSpans_eq_pairSpans, collect_drop_around reached]
    exact List.mem_map_of_mem member
  have apart : Inline.pairSpans (runsBefore head position
        ++ (runsWithin head inside position
          ++ runsBehind head tail position inside.length)) =
      Inline.pairSpans (runsBefore head position)
        ++ Inline.pairSpans (runsWithin head inside position
          ++ runsBehind head tail position inside.length) := by
    refine Inline.pairSpans_append ?_
    intro first inFirst last inLast member
    have starts := start_le_of_mem_runsBefore reached inFirst
    have ends : head.length < last.stop + position := by
      rcases List.mem_append.mp inLast with within | behind
      · have := bounds_of_mem_runsWithin reached within
        omega
      · have := lt_stop_of_mem_runsBehind reached behind
        omega
    have covers := Span.covered_eq_false.mp isSealed.outside _ (isCode member) starts
    exact Nat.not_lt_of_le covers ends
  rw [apart]
  refine congrArg (Inline.pairSpans _ ++ ·) (Inline.pairSpans_append ?_)
  intro first inFirst last inLast member
  obtain ⟨starts, proper, early⟩ := bounds_of_mem_runsWithin reached inFirst
  have ends := lt_stop_of_mem_runsBehind reached inLast
  have code := isCode (apart ▸ List.mem_append_right _ member)
  have kept := isSealed.keeps _ code (Nat.le_of_lt starts)
  dsimp only [spanIn] at kept
  omega

/-- The code spans of a line with a comment in it are those before the comment,
those inside of it and those behind it, if none of them leads out of the comment.
The first and the last ones do not depend on the inside. -/
theorem exists_codeSpans (head tail : Text) (position size : Nat) :
    ∃ first last : List Span, ∀ inside : Text, inside.length = size →
      Seals (around head inside tail) position (spanIn head inside) →
      ∃ within, codeSpansFrom (around head inside tail) position =
          first ++ (within ++ last) ∧
        ∀ code ∈ within, head.length < code.start ∧
          code.stop ≤ head.length + size + 7 := by
  let shift (span : Span) : Span :=
    ⟨span.start + position, span.stop + position⟩
  refine ⟨(Inline.pairSpans (runsBefore head position)).map shift,
    (Inline.pairSpans (runsBehind head tail position size)).map shift, ?_⟩
  rintro inside rfl isSealed
  have reached := isSealed.reached
  refine ⟨(Inline.pairSpans (runsWithin head inside position)).map shift, ?_, ?_⟩
  · rw [codeSpansFrom, Inline.codeSpans_eq_pairSpans, collect_drop_around reached,
      isSealed.pairSpans_runs, List.map_append, List.map_append]
  · intro code member
    obtain ⟨span, paired, rfl⟩ := List.mem_map.mp member
    obtain ⟨first, inFirst, last, inLast, rfl⟩ :=
      Inline.exists_runs_of_mem_pairSpans paired
    exact ⟨(bounds_of_mem_runsWithin reached inFirst).1,
      (bounds_of_mem_runsWithin reached inLast).2.2⟩

/-! ## The search for comments -/

theorem findFrom?_opener_around {start : Nat}
    (found : Text.findFrom? opener (around head inside tail) position = some start)
    (starts : start ≤ head.length) (otherInside : Text) :
    Text.findFrom? opener (around head otherInside tail) position = some start := by
  rw [around_eq_append] at found ⊢
  refine Text.findFrom?_append found ?_ _
  rw [List.length_append]
  exact Nat.add_le_add_right starts 4

theorem findFrom?_closer_around {stop : Nat}
    (found : Text.findFrom? closer (around head inside tail) position = some stop)
    (ends : stop + 3 ≤ head.length) (otherInside : Text) :
    Text.findFrom? closer (around head otherInside tail) position = some stop := by
  rw [around_eq_append] at found ⊢
  refine Text.findFrom?_append found ?_ _
  rw [List.length_append]
  exact Nat.le_add_right_of_le ends

/-- Whether one search finds a comment with one inside where another search finds one
with another inside, and all else is the same.  An opener that nothing closes stands
behind a bound. -/
def FindAlike (inside otherInside : Text) (bound : Nat) (found other : Found) :
    Prop :=
  ∃ (shared : Found) (first last : List Text),
    found = { shared with bodies := first ++ inside :: last } ∧
    other = { shared with bodies := first ++ otherInside :: last } ∧
    ∀ start ∈ shared.dangling, bound ≤ start

theorem FindAlike.here {bound : Nat} {found : Found}
    (dangling : ∀ start ∈ found.dangling, bound ≤ start) (comment : Span)
    (inside otherInside : Text) :
    FindAlike inside otherInside bound
      { found with
        hidden := comment :: found.hidden, bodies := inside :: found.bodies }
      { found with
        hidden := comment :: found.hidden, bodies := otherInside :: found.bodies } :=
  ⟨{ found with hidden := comment :: found.hidden }, [], found.bodies, rfl, rfl,
    dangling⟩

theorem FindAlike.cons {bound : Nat} {found other : Found}
    (alike : FindAlike inside otherInside bound found other) (comment : Span)
    (body : Text) :
    FindAlike inside otherInside bound
      { found with
        hidden := comment :: found.hidden, bodies := body :: found.bodies }
      { other with
        hidden := comment :: other.hidden, bodies := body :: other.bodies } := by
  obtain ⟨shared, first, last, rfl, rfl, dangling⟩ := alike
  exact ⟨{ shared with hidden := comment :: shared.hidden }, body :: first, last,
    rfl, rfl, dangling⟩

/-- The comments of a line are the same whatever the inside of one of them is, if
that is a comment of both lines and code is the same outside of it. -/
theorem findAlike_around {spans others : List Span} {steps : Nat}
    (length : otherInside.length = inside.length)
    (covered : ∀ index,
      index ≤ head.length ∨ head.length + inside.length + 7 ≤ index →
        Span.covered others index = Span.covered spans index)
    (member : spanIn head inside ∈
      (findFrom (around head inside tail) spans steps position).hidden)
    (otherMember : spanIn head inside ∈
      (findFrom (around head otherInside tail) others steps position).hidden) :
    FindAlike inside otherInside (head.length + inside.length + 7)
      (findFrom (around head inside tail) spans steps position)
      (findFrom (around head otherInside tail) others steps position) := by
  induction steps generalizing position with
  | zero => simp [findFrom] at member
  | succ steps ih =>
      cases found : Text.findFrom? opener (around head inside tail) position with
      | none => simp [findFrom_of_missing found] at member
      | some start =>
          have starts : start ≤ head.length := start_le_of_mem_hidden found member
          have otherFound := findFrom?_opener_around found starts otherInside
          have sameCover := covered start (Or.inl starts)
          cases inCode : Span.covered spans start with
          | true =>
              rw [findFrom_of_covered found inCode] at member ⊢
              rw [findFrom_of_covered otherFound (sameCover.trans inCode)]
                at otherMember ⊢
              exact ih member otherMember
          | false =>
              have otherOutside := sameCover.trans inCode
              cases closed : Text.findFrom? closer (around head inside tail)
                  (start + 4) with
              | none => simp [findFrom_of_unclosed found inCode closed] at member
              | some stop =>
              cases otherClosed : Text.findFrom? closer
                  (around head otherInside tail) (start + 4) with
              | none =>
                  simp [findFrom_of_unclosed otherFound otherOutside otherClosed]
                    at otherMember
              | some otherStop =>
                  have here := mem_hidden_of_closed found inCode closed member
                  have otherHere := mem_hidden_of_closed otherFound otherOutside
                    otherClosed otherMember
                  simp only [spanIn, Span.mk.injEq] at here otherHere
                  have closes := (Text.bounds_of_findFrom? closed (by decide)).1
                  have otherCloses :=
                    (Text.bounds_of_findFrom? otherClosed (by decide)).1
                  rw [findFrom_of_closed found inCode closed,
                    findFrom_of_closed otherFound otherOutside otherClosed]
                  rcases here with ⟨rfl, ends⟩ | ⟨early, later⟩
                  · -- This is the comment, and what is behind it is shared.
                    obtain rfl : stop = head.length + inside.length + 4 := by
                      omega
                    obtain rfl : otherStop =
                        head.length + otherInside.length + 4 := by
                      omega
                    have rest : findFrom (around head otherInside tail) others
                        steps (head.length + inside.length + 7) =
                          findFrom (around head inside tail) spans steps
                            (head.length + inside.length + 7) :=
                      findFrom_congr (drop_around_eq length tail (Nat.le_refl _))
                        fun index le => covered index (Or.inr le)
                    rw [slice_around, slice_around, length, rest]
                    exact .here (le_of_findFrom _ spans steps _).2 _ _ _
                  · -- The comment comes later, and what is found here is shared.
                    obtain ⟨-, otherLater⟩ : otherStop + 3 ≤ head.length ∧ _ :=
                      otherHere.resolve_left fun same => by omega
                    obtain rfl : stop = otherStop := Option.some.inj
                      ((findFrom?_closer_around closed early _).symm.trans
                        otherClosed)
                    have sameBody : (around head otherInside tail).slice
                        (start + 4) stop =
                          (around head inside tail).slice (start + 4) stop := by
                      rw [around, around, Text.slice_append (by omega),
                        Text.slice_append (by omega)]
                    rw [sameBody]
                    exact (ih later otherLater).cons _ _

section

variable (length : otherInside.length = inside.length)
  (isSealed : Seals (around head inside tail) position (spanIn head inside))
  (otherSealed : Seals (around head otherInside tail) position
    (spanIn head otherInside))

include length isSealed otherSealed

/-- The code spans of a line cover the same places outside of a comment, whatever
its inside is. -/
theorem covered_codeSpansFrom {index : Nat}
    (elsewhere : index ≤ head.length ∨ head.length + inside.length + 7 ≤ index) :
    Span.covered (codeSpansFrom (around head otherInside tail) position) index =
      Span.covered (codeSpansFrom (around head inside tail) position) index := by
  obtain ⟨first, last, parts⟩ :=
    exists_codeSpans head tail position inside.length
  obtain ⟨within, spans, inComment⟩ := parts inside rfl isSealed
  obtain ⟨otherWithin, otherSpans, otherInComment⟩ :=
    parts otherInside length otherSealed
  have uncovered {codes : List Span}
      (inComment : ∀ code ∈ codes, head.length < code.start ∧
        code.stop ≤ head.length + inside.length + 7) :
      Span.covered codes index = false := by
    refine Span.covered_eq_false.mpr fun code member starts => ?_
    have := inComment code member
    omega
  simp only [spans, otherSpans, Span.covered_append, uncovered inComment,
    uncovered otherInComment]

theorem search_around :
    FindAlike inside otherInside (head.length + inside.length + 7)
      (search (around head inside tail) position)
      (search (around head otherInside tail) position) := by
  have otherMember := otherSealed.found
  unfold search at otherMember ⊢
  rw [spanIn_eq length, length_around_eq length] at otherMember
  rw [length_around_eq length]
  exact findAlike_around length
    (fun index => covered_codeSpansFrom length isSealed otherSealed)
    isSealed.found otherMember

/-- What is blanked out of a line is the same whatever the inside of a comment in it
is, apart from code, and the comment is among it. -/
theorem exists_blankedFrom_around (line offset : Nat) (lastClose : Option Nat)
    (hidden : List Span) :
    ∃ shared, spanIn head inside ∈ shared ∧
      blankedFrom ⟨line, offset, around head inside tail⟩ lastClose position
          hidden = shared ++ codeSpansFrom (around head inside tail) position ∧
      blankedFrom ⟨line, offset, around head otherInside tail⟩ lastClose position
          hidden =
        shared ++ codeSpansFrom (around head otherInside tail) position := by
  obtain ⟨found, first, last, eq, otherEq, -⟩ :=
    search_around length isSealed otherSealed
  have hides : spanIn head inside ∈ found.hidden := by
    have member : spanIn head inside ∈
      (search (around head inside tail) position).hidden := isSealed.found
    rwa [eq] at member
  unfold blankedFrom
  dsimp only
  rw [← search, ← search, eq, otherEq, length_around_eq length]
  exact ⟨_, by simp [hides], rfl, rfl⟩

/-- A line without its comments and its code does not show the inside of a comment. -/
theorem blank_around (line offset : Nat) (lastClose : Option Nat)
    {hidden : List Span}
    (fit : ∀ span ∈ hidden, span.FitsIn (around head inside tail).length) :
    Inline.blank (around head otherInside tail)
        (blankedFrom ⟨line, offset, around head otherInside tail⟩ lastClose
          position hidden) =
      Inline.blank (around head inside tail)
        (blankedFrom ⟨line, offset, around head inside tail⟩ lastClose position
          hidden) := by
  have sameLength := @length_around_eq head inside otherInside tail length
  have inLine : position ≤ (around head inside tail).length := by
    have reached := isSealed.reached
    rw [length_around]
    omega
  obtain ⟨shared, inShared, spans, otherSpans⟩ := exists_blankedFrom_around
    length isSealed otherSealed line offset lastClose hidden
  refine Inline.blank_congr (fitsIn_of_mem_blankedFrom lastClose inLine fit)
    (fitsIn_of_mem_blankedFrom lastClose (sameLength ▸ inLine)
      (sameLength ▸ fit)) sameLength fun index => ?_
  rw [spans, otherSpans, Span.covered_append, Span.covered_append]
  by_cases elsewhere : index < head.length ∨
      head.length + inside.length + 7 ≤ index
  · refine Or.inr ⟨getElem?_around length tail elsewhere, ?_⟩
    rw [covered_codeSpansFrom length isSealed otherSealed
      (elsewhere.imp_left Nat.le_of_lt)]
  · obtain ⟨starts, ends⟩ := not_or.mp elsewhere
    have here : Span.covered shared index = true := Span.covered_eq_true.mpr
      ⟨spanIn head inside, inShared, Nat.le_of_not_lt starts,
        Nat.lt_of_not_le ends⟩
    simp [here]

/-- A masked line is the same whatever the inside of a comment in it is.  The
comments that it closes differ in that inside. -/
theorem maskFrom_around (line offset : Nat) (lastClose : Option Nat)
    {hidden : List Span}
    (fit : ∀ span ∈ hidden, span.FitsIn (around head inside tail).length)
    (closed : List (Nat × Text)) :
    ∃ (masked : Masked) (first last : List (Nat × Text)),
      maskFrom ⟨line, offset, around head inside tail⟩ lastClose position hidden
          closed =
        { masked with closed := first ++ (line, inside) :: last } ∧
      maskFrom ⟨line, offset, around head otherInside tail⟩ lastClose position
          hidden closed =
        { masked with closed := first ++ (line, otherInside) :: last } := by
  obtain ⟨found, first, last, eq, otherEq, dangling⟩ :=
    search_around length isSealed otherSealed
  have sameText := blank_around length isSealed otherSealed line offset lastClose fit
  refine ⟨maskFrom ⟨line, offset, around head inside tail⟩ lastClose position
    hidden [], closed ++ first.map (line, ·), last.map (line, ·), ?_, ?_⟩
  · rw [maskFrom_eq, maskFrom_eq, eq]
    simp
  · rw [maskFrom_eq, maskFrom_eq, eq, otherEq, sameText]
    have pending : ((found.dangling.filter fun start =>
        lastClose.any (offset + start < ·)).map fun start =>
          (⟨line, [(around head otherInside tail).drop (start + 4)]⟩ :
            Pending)) =
        (found.dangling.filter fun start =>
          lastClose.any (offset + start < ·)).map fun start =>
            ⟨line, [(around head inside tail).drop (start + 4)]⟩ := by
      refine Option.map_congr fun start member => ?_
      have behind := dangling start (Option.filter_eq_some_iff.mp member).1
      rw [drop_around_eq length tail (Nat.le_add_right_of_le behind)]
    simp [pending]

end

end

/-! ## The masked line -/

/-- Where the search for comments begins on a line, where `pending` is the comment
open at its start.  If that ends on the line, the search begins behind it. -/
def searchStart? (content : Text) (pending : Option Pending) : Option Nat :=
  match pending with
  | none => some 0
  | some _ => (Text.find? closer content).map (· + 3)

section

variable {head inside otherInside tail : Text} {position : Nat}

theorem searchStart?_around {pending : Option Pending}
    (starts : searchStart? (around head inside tail) pending = some position)
    (reached : position ≤ head.length) :
    searchStart? (around head otherInside tail) pending = some position := by
  cases pending with
  | none => exact starts
  | some open_ =>
      obtain ⟨stop, found, rfl⟩ := Option.map_eq_some_iff.mp starts
      exact Option.map_eq_some_iff.mpr
        ⟨stop, Text.find?_append found reached _, rfl⟩

/-- A masked line is the same whatever the inside of a comment in it is, also behind
the end of a comment from an earlier line. -/
theorem mask_around (length : otherInside.length = inside.length)
    (isSealed : Seals (around head inside tail) position (spanIn head inside))
    (otherSealed : Seals (around head otherInside tail) position
      (spanIn head otherInside))
    (line offset : Nat) (lastClose : Option Nat) {pending : Option Pending}
    (starts : searchStart? (around head inside tail) pending = some position) :
    ∃ (masked : Masked) (first last : List (Nat × Text)),
      mask ⟨line, offset, around head inside tail⟩ lastClose pending =
        { masked with closed := first ++ (line, inside) :: last } ∧
      mask ⟨line, offset, around head otherInside tail⟩ lastClose pending =
        { masked with closed := first ++ (line, otherInside) :: last } := by
  have reached := isSealed.reached
  cases pending with
  | none =>
      obtain rfl : 0 = position := Option.some.inj starts
      exact maskFrom_around length isSealed otherSealed line offset lastClose
        (by simp) []
  | some open_ =>
      obtain ⟨stop, found, rfl⟩ := Option.map_eq_some_iff.mp starts
      have otherFound : Text.find? closer (around head otherInside tail) =
          some stop := Text.find?_append found reached _
      have taken : (around head otherInside tail).take stop =
          (around head inside tail).take stop := by
        rw [around, around, List.take_append_of_le_length (by omega),
          List.take_append_of_le_length (by omega)]
      have fits : stop + 3 ≤ (around head inside tail).length := by
        rw [length_around]
        omega
      unfold mask
      dsimp only
      rw [found, otherFound]
      dsimp only
      rw [taken]
      exact maskFrom_around length isSealed otherSealed line offset lastClose
        (List.forall_mem_singleton.mpr ⟨Nat.zero_le _, fits⟩) _

end

end Comment

end AnchorLint
