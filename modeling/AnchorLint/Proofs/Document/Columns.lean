import AnchorLint.Proofs.Document.Search

/-!
# Masking keeps columns

Spans that are blanked out come in any order, and they may overlap or lie in one
another.  Whatever they are, the blanked text is as long as before, it has a space at
every place in one of them, and every other character stands where it stood.

The spans that are blanked out on a line are those of its code and of its comments.
This file says which they are by the plain way to read a line: from one opener to the
next, past the openers in code, and on behind the closer of each comment.  A masked
line is the line with these spans blanked out.
-/

namespace AnchorLint

namespace Comment

/-! ## Reading a line -/

/-- The plain way to read a line from a position on: the comments that end on the
line, and the opener that nothing on the line closes. -/
inductive Scans (content : Text) (code : List Span) :
    (position : Nat) → (comments : List Span) → (dangling : Option Nat) → Prop where
  | ended {position : Nat} (nothing : Text.occurrences opener content position = ∅) :
      Scans content code position [] none
  | passed {position start : Nat} {comments : List Span} {dangling : Option Nat}
      (first : IsLeast (Text.occurrences opener content position) start)
      (inCode : Span.covered code start = true)
      (later : Scans content code (start + 4) comments dangling) :
      Scans content code position comments dangling
  | closed {position start stop : Nat} {comments : List Span} {dangling : Option Nat}
      (first : IsLeast (Text.occurrences opener content position) start)
      (outside : Span.covered code start = false)
      (closes : IsLeast (Text.occurrences closer content (start + 4)) stop)
      (later : Scans content code (stop + 3) comments dangling) :
      Scans content code position (⟨start, stop + 3⟩ :: comments) dangling
  | unclosed {position start : Nat}
      (first : IsLeast (Text.occurrences opener content position) start)
      (outside : Span.covered code start = false)
      (endless : Text.occurrences closer content (start + 4) = ∅) :
      Scans content code position [] (some start)

section

variable {content : Text} {code : List Span} {position : Nat}

theorem Scans.unique {comments others : List Span} {dangling other : Option Nat}
    (scans : Scans content code position comments dangling)
    (again : Scans content code position others other) :
    comments = others ∧ dangling = other := by
  -- The first opener and the first closer behind it decide how the reading goes on.
  induction scans generalizing others other with
  | ended nothing =>
      cases again with
      | ended => exact ⟨rfl, rfl⟩
      | passed first => exact absurd nothing first.nonempty.ne_empty
      | closed first => exact absurd nothing first.nonempty.ne_empty
      | unclosed first => exact absurd nothing first.nonempty.ne_empty
  | passed first inCode later ih =>
      cases again with
      | ended nothing => exact absurd nothing first.nonempty.ne_empty
      | passed firstToo _ laterToo =>
          obtain rfl := first.unique firstToo
          exact ih laterToo
      | closed firstToo outside =>
          obtain rfl := first.unique firstToo
          simp [inCode] at outside
      | unclosed firstToo outside =>
          obtain rfl := first.unique firstToo
          simp [inCode] at outside
  | closed first outside closes later ih =>
      cases again with
      | ended nothing => exact absurd nothing first.nonempty.ne_empty
      | passed firstToo inCode =>
          obtain rfl := first.unique firstToo
          simp [inCode] at outside
      | closed firstToo _ closesToo laterToo =>
          obtain rfl := first.unique firstToo
          obtain rfl := closes.unique closesToo
          obtain ⟨rfl, rfl⟩ := ih laterToo
          exact ⟨rfl, rfl⟩
      | unclosed firstToo _ endless =>
          obtain rfl := first.unique firstToo
          exact absurd endless closes.nonempty.ne_empty
  | unclosed first outside endless =>
      cases again with
      | ended nothing => exact absurd nothing first.nonempty.ne_empty
      | passed firstToo inCode =>
          obtain rfl := first.unique firstToo
          simp [inCode] at outside
      | closed firstToo _ closes =>
          obtain rfl := first.unique firstToo
          exact absurd endless closes.nonempty.ne_empty
      | unclosed firstToo =>
          obtain rfl := first.unique firstToo
          exact ⟨rfl, rfl⟩

/-- The search reads a line in the plain way.  Every step takes it past an opener, so
it does not run out of steps before the end of the line. -/
theorem scans_findFrom {steps : Nat} (enough : content.length < position + steps) :
    Scans content code position (findFrom content code steps position).hidden
      (findFrom content code steps position).dangling := by
  induction steps generalizing position with
  | zero =>
      refine Scans.ended (Text.occurrences_eq_empty ?_)
      rw [Text.findFrom?, List.drop_eq_nil_of_le (by omega)]
      rfl
  | succ steps ih =>
      cases found : Text.findFrom? opener content position with
      | none =>
          rw [findFrom_of_missing found]
          exact Scans.ended (Text.occurrences_eq_empty found)
      | some start =>
          have first := Text.isLeast_findFrom? found
          have behind := first.1.1
          cases inCode : Span.covered code start with
          | true =>
              rw [findFrom_of_covered found inCode]
              exact Scans.passed first inCode (ih (by omega))
          | false =>
              cases closed : Text.findFrom? closer content (start + 4) with
              | none =>
                  rw [findFrom_of_unclosed found inCode closed]
                  exact Scans.unclosed first inCode (Text.occurrences_eq_empty closed)
              | some stop =>
                  have closes := Text.isLeast_findFrom? closed
                  have further := closes.1.1
                  rw [findFrom_of_closed found inCode closed]
                  exact Scans.closed first inCode closes (ih (by omega))

theorem scans_search (content : Text) (position : Nat) :
    Scans content (codeSpansFrom content position) position
      (search content position).hidden (search content position).dangling :=
  scans_findFrom (by omega)

end

/-! ## What is hidden on a line -/

/-- The spans that are blanked out behind a position.  An opener that nothing on the
line closes hides the rest of the line if a closer starts behind it in the
document. -/
inductive HidesFrom (place : Inline.Place) (lastClose : Option Nat)
    (position : Nat) : List Span → Prop where
  | entered {comments : List Span} {start last : Nat}
      (scans : Scans place.content (codeSpansFrom place.content position) position
        comments (some start))
      (isLast : lastClose = some last) (ends : place.offset + start < last) :
      HidesFrom place lastClose position
        (comments ++ ⟨start, place.content.length⟩
          :: codeSpansFrom place.content position)
  | left {comments : List Span} {dangling : Option Nat}
      (scans : Scans place.content (codeSpansFrom place.content position) position
        comments dangling)
      (plain : ∀ start ∈ dangling, ∀ last ∈ lastClose, last ≤ place.offset + start) :
      HidesFrom place lastClose position
        (comments ++ codeSpansFrom place.content position)

/-- The spans that are blanked out on a line, where `pending` is the comment open at
its start. -/
inductive Hides (place : Inline.Place) (lastClose : Option Nat) :
    (pending : Option Pending) → List Span → Prop where
  | fresh {spans : List Span} (rest : HidesFrom place lastClose 0 spans) :
      Hides place lastClose none spans
  | resumed {open_ : Pending} {stop : Nat} {spans : List Span}
      (closes : IsLeast (Text.occurrences closer place.content 0) stop)
      (rest : HidesFrom place lastClose (stop + 3) spans) :
      Hides place lastClose (some open_) (⟨0, stop + 3⟩ :: spans)
  | continued {open_ : Pending}
      (endless : Text.occurrences closer place.content 0 = ∅) :
      Hides place lastClose (some open_) [⟨0, place.content.length⟩]

section

variable {place : Inline.Place} {lastClose : Option Nat}

theorem HidesFrom.unique {position : Nat} {spans others : List Span}
    (hides : HidesFrom place lastClose position spans)
    (again : HidesFrom place lastClose position others) : spans = others := by
  cases hides with
  | entered scans isLast ends =>
      cases again with
      | entered scansToo =>
          obtain ⟨rfl, same⟩ := scans.unique scansToo
          rw [Option.some.inj same]
      | left scansToo plain =>
          obtain ⟨rfl, rfl⟩ := scans.unique scansToo
          have late := plain _ rfl _ isLast
          omega
  | left scans plain =>
      cases again with
      | entered scansToo isLast ends =>
          obtain ⟨rfl, rfl⟩ := scans.unique scansToo
          have late := plain _ rfl _ isLast
          omega
      | left scansToo =>
          obtain ⟨rfl, -⟩ := scans.unique scansToo
          rfl

theorem Hides.unique {pending : Option Pending} {spans others : List Span}
    (hides : Hides place lastClose pending spans)
    (again : Hides place lastClose pending others) : spans = others := by
  cases hides with
  | fresh rest =>
      cases again with
      | fresh restToo => exact rest.unique restToo
  | resumed closes rest =>
      cases again with
      | resumed closesToo restToo =>
          obtain rfl := closes.unique closesToo
          rw [rest.unique restToo]
      | continued endless => exact absurd endless closes.nonempty.ne_empty
  | continued endless =>
      cases again with
      | resumed closes => exact absurd endless closes.nonempty.ne_empty
      | continued => rfl

end

theorem hidesFrom_blankedFrom (place : Inline.Place) (lastClose : Option Nat)
    (position : Nat) :
    HidesFrom place lastClose position
      (blankedFrom place lastClose position []) := by
  have scans := scans_search place.content position
  have spans : blankedFrom place lastClose position [] =
      (search place.content position).hidden
        ++ (((search place.content position).dangling.filter fun start =>
            lastClose.any (place.offset + start < ·)).toList.map fun start =>
              ⟨start, place.content.length⟩)
        ++ codeSpansFrom place.content position := rfl
  rw [spans]
  cases dangles : (search place.content position).dangling with
  | none =>
      rw [dangles] at scans
      simpa using HidesFrom.left scans (by simp)
  | some start =>
      rw [dangles] at scans
      cases lastClose with
      | none => simpa using HidesFrom.left scans (by simp)
      | some last =>
          by_cases ends : place.offset + start < last
          · simpa [Option.filter, ends] using HidesFrom.entered scans rfl ends
          · simpa [Option.filter, ends] using
              HidesFrom.left scans (by simpa using ends)

/-- What is blanked out on a line is what is hidden on it. -/
theorem hides_blanked (place : Inline.Place) (lastClose : Option Nat)
    (pending : Option Pending) :
    Hides place lastClose pending (blanked place lastClose pending) := by
  cases pending with
  | none => exact Hides.fresh (hidesFrom_blankedFrom place lastClose 0)
  | some open_ =>
      have whole : Text.findFrom? closer place.content 0 =
          Text.find? closer place.content := by
        simp [Text.findFrom?]
      unfold blanked
      dsimp only
      cases found : Text.find? closer place.content with
      | none =>
          exact Hides.continued (Text.occurrences_eq_empty (whole.trans found))
      | some stop =>
          have closes := Text.isLeast_findFrom? (whole.trans found)
          exact Hides.resumed closes (hidesFrom_blankedFrom place lastClose (stop + 3))

/-- Masking keeps every column: blanking out spans of a text, in whatever order they
come and however they overlap, and masking a line in whatever state the scan is.  What
is hidden on a line is decided by the line and the state. -/
theorem masking_keeps_columns :
    (∀ (text : Text) (spans : List Span),
      (∀ span ∈ spans, span.FitsIn text.length) →
      text.IsMasked spans (Inline.blank text spans)) ∧
    ∀ (place : Inline.Place) (lastClose : Option Nat) (pending : Option Pending),
      ∃ hidden, Hides place lastClose pending hidden ∧
        (∀ other, Hides place lastClose pending other → other = hidden) ∧
        place.content.IsMasked hidden (mask place lastClose pending).text := by
  refine ⟨fun text spans fit => Inline.isMasked_blank fit, ?_⟩
  intro place lastClose pending
  have hides := hides_blanked place lastClose pending
  refine ⟨blanked place lastClose pending, hides, ?_, isMasked_mask _ _ _⟩
  exact fun other again => again.unique hides

/-- Spans out of order: one is empty, one comes twice, one lies in another one, and
three overlap in a chain. -/
theorem masking_keeps_columns_overlapping :
    let text := "abcdefghij".toList
    let spans : List Span := [⟨6, 8⟩, ⟨1, 5⟩, ⟨2, 3⟩, ⟨4, 7⟩, ⟨1, 5⟩, ⟨9, 9⟩]
    (∀ span ∈ spans, span.FitsIn text.length) ∧
      (Inline.blank text spans).length = 10 ∧
      (Inline.blank text spans)[0]? = some 'a' ∧
      (Inline.blank text spans)[4]? = some ' ' ∧
      (Inline.blank text spans)[8]? = some 'i' := by
  intro text spans
  have fit : ∀ span ∈ spans, span.FitsIn text.length := by
    simp [spans, text, Span.FitsIn]
  have masked := masking_keeps_columns.1 text spans fit
  refine ⟨fit, masked.length, ?_, ?_, ?_⟩
  · exact masked.shown 0 (by simp [spans, Span.Holds])
  · exact masked.hidden ⟨4, 7⟩ (by decide) 4 ⟨by decide, by decide⟩
  · exact masked.shown 8 (by simp [spans, Span.Holds])

/-- A comment from an earlier line ends, the next opener is in code, and the last one
is closed on a later line. -/
example : (mask ⟨3, 40, "a --> `<!--` b <!-- c".toList⟩ (some 90)
    (some ⟨2, []⟩)).text = "             b       ".toList := by
  cbv

end Comment

end AnchorLint
