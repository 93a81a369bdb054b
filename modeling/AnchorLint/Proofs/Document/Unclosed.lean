import AnchorLint.Proofs.Document.Recorded

/-!
# Comments that nothing closes

A comment that is open at the end of its line hides everything up to the next
closer, so a scan enters one only if the last closer of the document starts
behind the opener.  Closers are looked for four characters behind the opener, but
a closer may start earlier and share characters with the opener, as in `<!-->`
and in `<!--->`.  This file shows that this is the only gap between the two: a
scan ends inside a comment if and only if it has entered one at an opener behind
which no closer starts, and then the opener shares characters with the last
closer of the document.
-/

namespace AnchorLint

namespace Comment

/-- An opener that nothing on its line closes. -/
structure Dangles (content : Text) (start : Nat) : Prop where
  opens : opener <+: content.drop start
  unclosed : ¬ closer <:+: content.drop (start + 4)

theorem Dangles.le_length {content : Text} {start : Nat}
    (dangles : Dangles content start) : start + 4 ≤ content.length := by
  have fits := dangles.opens.length_le
  have length : opener.length = 4 := rfl
  rw [List.length_drop, length] at fits
  omega

theorem dangles_of_findFrom {content : Text} {spans : List Span}
    {steps position start : Nat}
    (found : (findFrom content spans steps position).dangling = some start) :
    Dangles content start := by
  fun_induction findFrom content spans steps position with
  | case1 => cases found
  | case2 => cases found
  | case3 steps position opening foundOpener inCode ih => exact ih found
  | case4 steps position opening foundOpener outside stop closed rest ih =>
      exact ih found
  | case5 steps position opening foundOpener outside unclosed =>
      obtain rfl := Option.some.inj found
      refine ⟨(Text.isLeast_findFrom? foundOpener).1.2, fun inside => ?_⟩
      have missing := Option.map_eq_none_iff.mp unclosed
      rw [← Option.not_isSome_iff_eq_none, Text.isSome_find?_iff] at missing
      exact missing inside

theorem dangles_of_dangling? {content : Text} {pending : Option Pending}
    {start : Nat} (found : dangling? content pending = some start) :
    Dangles content start := by
  unfold dangling? at found
  repeat' split at found
  · exact dangles_of_findFrom found
  · cases found
  · exact dangles_of_findFrom found

/-- Where a line enters a comment that is open behind it, where `pending` is the
comment open before it. -/
def entered? (place : Inline.Place) (lastClose : Option Nat)
    (pending : Option Pending) : Option Nat :=
  (dangling? place.content pending).filter fun start =>
    lastClose.any (place.offset + start < ·)

/-- The comment open behind a line is the one open before it, if nothing on the
line closes that, or else one that the line enters. -/
theorem pending_mask_cases (place : Inline.Place) (lastClose : Option Nat)
    (pending : Option Pending) :
    (pending.isSome = true ∧ ¬ closer <:+: place.content ∧
        (mask place lastClose pending).pending.isSome = true) ∨
      (mask place lastClose pending).pending =
        (entered? place lastClose pending).map fun start =>
          ⟨place.line, [place.content.drop (start + 4)]⟩ := by
  cases pending with
  | none => exact Or.inr rfl
  | some open_ =>
      unfold mask entered? dangling?
      dsimp only
      cases found : Text.find? closer place.content with
      | none =>
          have missing : ¬ closer <:+: place.content := by
            rw [← Text.isSome_find?_iff, found]
            decide
          exact Or.inl ⟨rfl, missing, rfl⟩
      | some stop => exact Or.inr rfl

end Comment

namespace Scan

/-- The offset at which a line enters a comment that is open behind it. -/
def entersAt? (header : Nat) (lastClose : Option Nat) (state : State)
    (input : Input) : Option Nat :=
  if isPlain header state input then
    (Comment.entered? input.place lastClose state.context.comment).map
      (input.source.span.start + ·)
  else none

/-- The offsets at which lines enter comments that are open behind them. -/
def entries (header : Nat) (lastClose : Option Nat) :
    State → List Input → List Nat
  | _, [] => []
  | state, input :: rest =>
    (entersAt? header lastClose state input).toList
      ++ entries header lastClose (step header lastClose state input) rest

section

variable {header : Nat} {lastClose : Option Nat}

theorem mem_entries {start : Nat} {inputs : List Input} {state : State} :
    start ∈ entries header lastClose state inputs ↔
      ∃ before input after, inputs = before ++ input :: after ∧
        entersAt? header lastClose
          (before.foldl (step header lastClose) state) input = some start := by
  induction inputs generalizing state with
  | nil => simp [entries]
  | cons first inputs ih =>
      rw [entries, List.mem_append, Option.mem_toList, ih]
      constructor
      · rintro (here | ⟨before, input, after, rfl, later⟩)
        · exact ⟨[], first, inputs, rfl, here⟩
        · exact ⟨first :: before, input, after, rfl, later⟩
      · rintro ⟨before, input, after, cut, enters⟩
        cases before with
        | nil =>
            obtain ⟨rfl, rfl⟩ := List.cons.inj cut
            exact Or.inl enters
        | cons other before =>
            obtain ⟨rfl, rfl⟩ := List.cons.inj cut
            exact Or.inr ⟨before, input, after, rfl, enters⟩

theorem isSome_comment_of_entersAt? {state : State} {input : Input}
    {start : Nat}
    (enters : entersAt? header lastClose state input = some start) :
    (step header lastClose state input).context.comment.isSome = true := by
  unfold entersAt? at enters
  split at enters
  · rename_i isPlainLine
    obtain ⟨position, entered, -⟩ := Option.map_eq_some_iff.mp enters
    obtain ⟨dangles, comes⟩ := Option.filter_eq_some_iff.mp entered
    rw [comment_step, if_pos isPlainLine]
    exact Comment.isSome_pending_mask dangles comes
  · cases enters

/-- Whether a line enters a comment that none of the lines behind it closes. -/
structure Hides (header : Nat) (lastClose : Option Nat) (before : List Input)
    (input : Input) (after : List Input) (start : Nat) : Prop where
  enters : entersAt? header lastClose
    (before.foldl (step header lastClose) {}) input = some start
  unclosed : ∀ later ∈ after, ¬ Comment.closer <:+: later.source.content

theorem isPlain_of_comment {state : State} {input : Input}
    (behind : header < input.number) (outside : state.context.fence = none)
    (inComment : state.context.comment.isSome = true) :
    isPlain header state input = true := by
  have opens : opened? state.context input = none := by
    cases opened : opened? state.context input with
    | none => rfl
    | some opener => simp [comment_of_opened? opened] at inComment
  have unindented : indented? state input = none := by
    unfold indented?
    exact if_pos (Or.inl inComment)
  simp [isPlain, isCode, behind, fenced?_of_none outside, opens, unindented]

theorem fence_of_isPlain {state : State} {input : Input}
    (isPlainLine : isPlain header state input = true) :
    (step header lastClose state input).context.fence = none := by
  obtain ⟨behind, outside, opens, -⟩ := cases_of_isPlain isPlainLine
  rw [step_of_unfenced behind outside opens, fence_unfenced, outside]

theorem exists_hides_of_entered {inputs : List Input} {input : Input}
    (isPlainLine : isPlain header (inputs.foldl (step header lastClose) {})
      input = true)
    (entered : (Comment.entered? input.place lastClose
      (inputs.foldl (step header lastClose) {}).context.comment).isSome = true) :
    ∃ start, Hides header lastClose inputs input [] start := by
  obtain ⟨start, found⟩ := Option.isSome_iff_exists.mp entered
  refine ⟨input.source.span.start + start, ?_, by simp⟩
  rw [entersAt?, if_pos isPlainLine, found]
  rfl

theorem Hides.behind {before after : List Input} {input : Input} {start : Nat}
    (hides : Hides header lastClose before input after start) :
    header < input.number := by
  have enters := hides.enters
  unfold entersAt? at enters
  split at enters
  · rename_i isPlainLine
    exact (cases_of_isPlain isPlainLine).1
  · cases enters

theorem Hides.concat {before after : List Input} {input later : Input}
    {start : Nat} (hides : Hides header lastClose before input after start)
    (missing : ¬ Comment.closer <:+: later.source.content) :
    Hides header lastClose before input (after ++ [later]) start := by
  refine ⟨hides.enters, fun other member => ?_⟩
  rcases List.mem_append.mp member with old | last
  · exact hides.unclosed other old
  · exact List.mem_singleton.mp last ▸ missing

/-- A comment that is open behind lines has been entered on one of them, and no
line since then closes it. -/
theorem exists_hides_of_comment {inputs : List Input}
    (ordered : inputs.Pairwise fun first second =>
      first.number ≤ second.number)
    (inComment : (inputs.foldl (step header lastClose)
      {}).context.comment.isSome = true) :
    (inputs.foldl (step header lastClose) {}).context.fence = none ∧
      ∃ before input after start, inputs = before ++ input :: after ∧
        Hides header lastClose before input after start := by
  induction inputs using List.reverseRecOn with
  | nil => simp at inComment
  | append_singleton inputs input ih =>
      rw [List.foldl_append, List.foldl_cons, List.foldl_nil, comment_step]
        at inComment
      rw [List.foldl_append, List.foldl_cons, List.foldl_nil]
      obtain ⟨orderedBefore, -, precedes⟩ := List.pairwise_append.mp ordered
      have pending := Comment.pending_mask_cases input.place lastClose
        (inputs.foldl (step header lastClose) {}).context.comment
      -- A plain line either continues the comment that is open before it, or
      -- it enters the one that is open behind it.
      by_cases wasOpen : (inputs.foldl (step header lastClose)
          {}).context.comment.isSome = true
      · obtain ⟨outside, before, opening, after, start, rfl, hides⟩ :=
          ih orderedBefore wasOpen
        have behind : header < input.number := Nat.lt_of_lt_of_le hides.behind
          (precedes opening (by simp) input (by simp))
        have isPlainLine := isPlain_of_comment behind outside wasOpen
        rw [if_pos isPlainLine] at inComment
        refine ⟨fence_of_isPlain isPlainLine, ?_⟩
        rcases pending with ⟨-, missing, -⟩ | entered
        · exact ⟨before, opening, after ++ [input], start, by simp,
            hides.concat missing⟩
        · rw [entered, Option.isSome_map] at inComment
          obtain ⟨start, entering⟩ :=
            exists_hides_of_entered isPlainLine inComment
          exact ⟨_, input, [], start, rfl, entering⟩
      · split at inComment
        · rename_i isPlainLine
          refine ⟨fence_of_isPlain isPlainLine, ?_⟩
          rcases pending with ⟨isOpen, -, -⟩ | entered
          · exact absurd isOpen wasOpen
          · rw [entered, Option.isSome_map] at inComment
            obtain ⟨start, entering⟩ :=
              exists_hides_of_entered isPlainLine inComment
            exact ⟨inputs, input, [], start, rfl, entering⟩
        · exact absurd inComment wasOpen

end

end Scan

namespace Document

/-- The offsets at which the scan of a text enters comments that are open at the
end of their line. -/
def commentStarts (text : Text) : List Nat :=
  Scan.entries (headerOf (SourceLine.split text))
    (Text.findLast? Comment.closer text) {} (scanned text)

/-- Whether a comment is open at the end of the scan of a text. -/
def endsInComment (text : Text) : Bool :=
  (stateBehind text (scanned text)).context.comment.isSome

theorem closer_behind_iff {text : Text} {first rest : List Text} {whole : Text}
    (wholes : SourceLine.wholeLines text = first ++ whole :: rest) {start : Nat}
    (dangles : Comment.Dangles (SourceLine.contentOf whole) start) :
    Comment.closer <:+: text.drop (first.flatten.length + start + 4) ↔
      ∃ later ∈ rest, Comment.closer <:+: SourceLine.contentOf later := by
  rw [Nat.add_assoc, drop_of_wholeLines wholes dangles.le_length]
  have proper : Comment.closer ≠ [] := by decide
  have unbroken : ∀ character ∈ Comment.closer,
      SourceLine.isTerminator character = false := by
    have inLine : Comment.closer.any SourceLine.isTerminator = false := by decide
    simpa using inLine
  obtain ⟨endings, ends⟩ := SourceLine.endings_wholeLines text
  rw [wholes] at endings ends
  obtain ⟨-, endingsHere⟩ := List.forall_mem_append.mp endings
  obtain ⟨ending, endingsLater⟩ := List.forall_mem_cons.mp endingsHere
  obtain ⟨-, endsHere, -⟩ := List.pairwise_append.mp ends
  obtain ⟨endsWhole, endsLater⟩ := List.pairwise_cons.mp endsHere
  constructor
  · intro found
    have last : SourceLine.endingOf whole = [] → rest.flatten = [] := by
      intro none_
      cases rest with
      | nil => rfl
      | cons next rest => exact absurd none_ (endsWhole next (by simp))
    rcases SourceLine.infix_of_infix_line proper unbroken ending last found with
      here | later
    · exact absurd here dangles.unclosed
    · exact SourceLine.exists_line_of_infix proper unbroken endingsLater
        endsLater later
  · rintro ⟨later, member, inside⟩
    have inLater : SourceLine.contentOf later <:+: later :=
      (List.takeWhile_prefix _).isInfix
    have inRest : later <:+: rest.flatten := List.infix_of_mem_flatten member
    refine (inside.trans (inLater.trans inRest)).trans (List.IsSuffix.isInfix ?_)
    rw [← List.append_assoc]
    exact List.suffix_append _ _

theorem exists_of_entersAt? {text : Text} {before after : List Scan.Input}
    {input : Scan.Input} (cut : scanned text = before ++ input :: after)
    {start : Nat}
    (enters : Scan.entersAt? (headerOf (SourceLine.split text))
      (Text.findLast? Comment.closer text) (stateBehind text before) input =
        some start) :
    Comment.opener <+: text.drop start ∧
      Comment.closer <:+: text.drop (start + 1) ∧
      (Comment.closer <:+: text.drop (start + 4) ↔
        ∃ later ∈ after, Comment.closer <:+: later.source.content) := by
  obtain ⟨first, whole, rest, wholes, -, rfl, rfl⟩ := exists_cut_of_scanned cut
  unfold Scan.entersAt? at enters
  split at enters
  · obtain ⟨position, entered, rfl⟩ := Option.map_eq_some_iff.mp enters
    obtain ⟨found, comes⟩ := Option.filter_eq_some_iff.mp entered
    have dangles : Comment.Dangles (SourceLine.contentOf whole) position :=
      Comment.dangles_of_dangling? found
    change _ <+: text.drop (first.flatten.length + position) ∧
      _ <:+: text.drop (first.flatten.length + position + 1) ∧
      (_ <:+: text.drop (first.flatten.length + position + 4) ↔ _)
    refine ⟨?_, (Text.any_findLast?_iff (by decide) _).mp comes, ?_⟩
    · have inside : position ≤ (SourceLine.contentOf whole).length := by
        have := dangles.le_length
        omega
      rw [drop_of_wholeLines wholes inside]
      exact dangles.opens.trans (List.prefix_append _ _)
    · rw [closer_behind_iff wholes dangles]
      exact Scan.exists_mem_iff
        (Scan.forall₂_contentOf (first.length + 1) _ _ rest)
        fun later input same => by rw [same]
  · cases enters

/-- An opener shares characters with a closer behind it unless the closer starts
behind the opener. -/
theorem overlaps_of_closer {text : Text} {start : Nat}
    (opens : Comment.opener <+: text.drop start)
    (comes : Comment.closer <:+: text.drop (start + 1))
    (unclosed : ¬ Comment.closer <:+: text.drop (start + 4)) :
    "<!-->".toList <+: text.drop start ∨
      "<!--->".toList <+: text.drop start := by
  obtain ⟨rest, equal⟩ := opens
  have behind (count : Nat) : text.drop (start + count) =
      (Comment.opener ++ rest).drop count := by
    rw [equal, List.drop_drop]
  rw [behind] at comes unclosed
  rw [← equal]
  simp only [Comment.opener, Comment.closer, List.cons_append, List.nil_append,
    List.drop_succ_cons, List.drop_zero, List.infix_cons_iff,
    List.cons_prefix_cons] at comes unclosed ⊢
  rcases comes with ⟨wrong, -⟩ | ⟨-, -, inRest⟩ | ⟨-, inRest⟩ | inRest
  · exact absurd wrong (by decide)
  · left
    simpa using inRest
  · right
    simpa using inRest
  · exact absurd inRest unclosed

/-- The scan of a text enters a comment only at an opener behind which a closer
starts, or at one that shares characters with the last closer.  It ends inside a
comment exactly if it has entered one behind whose opener no closer starts; so it
never does if the opener and the closer share characters nowhere in the text. -/
theorem endsInComment_iff (text : Text) :
    (∀ start ∈ commentStarts text, Comment.opener <+: text.drop start ∧
      (Comment.closer <:+: text.drop (start + 4) ∨
        "<!-->".toList <+: text.drop start ∨
        "<!--->".toList <+: text.drop start)) ∧
    (endsInComment text = true ↔ ∃ start ∈ commentStarts text,
      ¬ Comment.closer <:+: text.drop (start + 4)) ∧
    (¬ "<!-->".toList <:+: text → ¬ "<!--->".toList <:+: text →
      endsInComment text = false) := by
  have enters : ∀ start ∈ commentStarts text,
      Comment.opener <+: text.drop start ∧
        (Comment.closer <:+: text.drop (start + 4) ∨
          "<!-->".toList <+: text.drop start ∨
          "<!--->".toList <+: text.drop start) := by
    intro start member
    obtain ⟨before, input, after, cut, entered⟩ := Scan.mem_entries.mp member
    obtain ⟨opens, comes, -⟩ := exists_of_entersAt? cut entered
    refine ⟨opens, ?_⟩
    by_cases closed : Comment.closer <:+: text.drop (start + 4)
    · exact Or.inl closed
    · exact Or.inr (overlaps_of_closer opens comes closed)
  have ends : endsInComment text = true ↔ ∃ start ∈ commentStarts text,
      ¬ Comment.closer <:+: text.drop (start + 4) := by
    constructor
    · intro inComment
      obtain ⟨-, before, input, after, start, cut, hides⟩ :=
        Scan.exists_hides_of_comment (pairwise_scanned text) inComment
      refine ⟨start, Scan.mem_entries.mpr
        ⟨before, input, after, cut, hides.enters⟩, ?_⟩
      rw [(exists_of_entersAt? cut hides.enters).2.2]
      rintro ⟨later, member, closes⟩
      exact hides.unclosed later member closes
    · rintro ⟨start, member, unclosed⟩
      obtain ⟨before, input, after, cut, entered⟩ := Scan.mem_entries.mp member
      rw [(exists_of_entersAt? cut entered).2.2] at unclosed
      have inComment := Scan.isSome_comment_of_entersAt? entered
      rw [endsInComment, stateBehind, cut, List.foldl_append, List.foldl_cons]
      by_contra left
      exact unclosed (Scan.exists_closer_of_comment inComment
        (Option.not_isSome_iff_eq_none.mp left))
  refine ⟨enters, ends, fun notShort notLong => ?_⟩
  rw [← Bool.not_eq_true, ends]
  rintro ⟨start, member, unclosed⟩
  have inText {word : Text} (found : word <+: text.drop start) :
      word <:+: text :=
    found.isInfix.trans (List.drop_suffix _ _).isInfix
  rcases (enters start member).2 with closed | short | long
  · exact unclosed closed
  · exact notShort (inText short)
  · exact notLong (inText long)

/-- In one text the opener shares characters with the only closer, so the comment
stays open and hides the heading; in the other one a closer follows. -/
theorem endsInComment_iff_shared :
    let shared := "<!-->\n# Heading".toList
    let closed := "<!--\n-->\n# Heading".toList
    (∃ start ∈ commentStarts shared,
      ¬ Comment.closer <:+: shared.drop (start + 4)) ∧
    (¬ "<!-->".toList <:+: closed ∧ ¬ "<!--->".toList <:+: closed) ∧
    endsInComment closed = false := by
  intro shared closed
  have notShort : ¬ "<!-->".toList <:+: closed := by
    rw [← Text.isSome_find?_iff]
    decide
  have notLong : ¬ "<!--->".toList <:+: closed := by
    rw [← Text.isSome_find?_iff]
    decide
  refine ⟨(endsInComment_iff shared).2.1.mp ?_, ⟨notShort, notLong⟩,
    (endsInComment_iff closed).2.2 notShort notLong⟩
  decide +kernel

end Document

end AnchorLint
