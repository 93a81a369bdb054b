import AnchorLint.Proofs.Document.Unclosed

/-!
# Where comments end

A comment that is open at the end of a line takes up every line up to the one that
closes it, so the lines of its opener and of its closer differ by the line breaks in its
inside.  A directive is fed with the line of the opener.  A directive for the next line
therefore covers the line behind the opener, which is the line behind the comment only
if the comment ends on the line on which it begins.
-/

namespace AnchorLint

namespace Text

/-- Joining pieces puts one separator between two of them. -/
theorem count_join {separator : Char} {piece : Text} {pieces : List Text}
    (free : ∀ other ∈ piece :: pieces, separator ∉ other) :
    (join [separator] (piece :: pieces)).count separator = pieces.length := by
  induction pieces generalizing piece with
  | nil =>
      have missing : separator ∉ piece := free piece List.mem_cons_self
      simp [join, List.intercalate_singleton, List.count_eq_zero_of_not_mem missing]
  | cons next pieces ih =>
      obtain ⟨missing, later⟩ := List.forall_mem_cons.mp free
      have rest := ih later
      rw [join] at rest
      rw [join, List.intercalate_cons_cons, List.count_append, List.count_append, rest,
        List.count_eq_zero_of_not_mem missing, List.count_singleton_self,
        List.length_cons]
      omega

end Text

namespace Comment

/-- A comment that has been closed: the lines of its opener and of its closer, and what
is between them. -/
structure Ended where
  first : Nat
  last : Nat
  inside : Text
deriving DecidableEq

/-- An open comment has taken up all lines from the one of its opener to the one before
`next`. -/
structure Pending.ReachesTo (pending : Pending) (next : Nat) : Prop where
  lines : pending.line + pending.parts.length = next
  unbroken : ∀ part ∈ pending.parts, '\n' ∉ part

/-- The inside of a comment has a line break for every line but the last one. -/
theorem Pending.ReachesTo.count_body {pending : Pending} {next : Nat}
    (reaches : pending.ReachesTo next) {part : Text} (unbroken : '\n' ∉ part) :
    pending.line +
        (Pending.body ⟨pending.line, part :: pending.parts⟩).count '\n' = next := by
  have free : ∀ other ∈ pending.parts.reverse ++ [part], '\n' ∉ other := by
    intro other member
    rcases List.mem_append.mp member with earlier | last
    · exact reaches.unbroken other (List.mem_reverse.mp earlier)
    · exact List.mem_singleton.mp last ▸ unbroken
  obtain ⟨first, rest, pieces⟩ :=
    List.exists_cons_of_ne_nil (List.concat_ne_nil part pending.parts.reverse)
  have length := congrArg List.length pieces
  rw [pieces] at free
  simp only [List.length_append, List.length_reverse, List.length_cons,
    List.length_nil] at length
  rw [Pending.body, List.reverse_cons, pieces, Text.count_join free, ← reaches.lines]
  omega

theorem not_mem_of_mem_bodies {content : Text} {character : Char}
    (missing : character ∉ content) {spans : List Span} {steps position : Nat} :
    ∀ body ∈ (findFrom content spans steps position).bodies, character ∉ body := by
  fun_induction findFrom content spans steps position with
  | case1 => simp
  | case2 => simp
  | case3 steps position opening foundOpener inCode ih => exact ih
  | case4 steps position opening foundOpener outside stop closed rest ih =>
      refine List.forall_mem_cons.mpr ⟨fun inside => ?_, ih⟩
      exact missing (List.mem_of_mem_drop (List.mem_of_mem_take inside))
  | case5 => simp

/-- The comments that open and close on a line have no line break in them, and one that
is open behind it has taken up the line. -/
theorem maskFrom_reaches {place : Inline.Place} (unbroken : '\n' ∉ place.content)
    (lastClose : Option Nat) (position : Nat) (hidden : List Span)
    (closed : List (Nat × Text)) :
    (∀ comment ∈ (maskFrom place lastClose position hidden closed).closed,
        comment ∈ closed ∨ comment.1 + comment.2.count '\n' = place.line) ∧
      ∀ open_ ∈ (maskFrom place lastClose position hidden closed).pending,
        open_.ReachesTo (place.line + 1) := by
  constructor
  · intro comment member
    rcases List.mem_append.mp member with earlier | own
    · exact Or.inl earlier
    · obtain ⟨body, inBodies, rfl⟩ := List.mem_map.mp own
      have none_ := List.count_eq_zero_of_not_mem
        (not_mem_of_mem_bodies unbroken body inBodies)
      exact Or.inr (by simp [none_])
  · intro open_ member
    obtain ⟨start, -, rfl⟩ := Option.map_eq_some_iff.mp member
    refine ⟨rfl, fun part inParts inside => unbroken ?_⟩
    rw [List.mem_singleton.mp inParts] at inside
    exact List.mem_of_mem_drop inside

/-- A comment that a line closes has as many line breaks in it as there are lines since
its opener, and one that is open behind the line has taken up the line. -/
theorem mask_reaches {place : Inline.Place} (unbroken : '\n' ∉ place.content)
    (lastClose : Option Nat) {pending : Option Pending}
    (reaches : ∀ open_ ∈ pending, open_.ReachesTo place.line) :
    (∀ comment ∈ (mask place lastClose pending).closed,
        comment.1 + comment.2.count '\n' = place.line) ∧
      ∀ open_ ∈ (mask place lastClose pending).pending,
        open_.ReachesTo (place.line + 1) := by
  cases pending with
  | none =>
      obtain ⟨own, opens⟩ := maskFrom_reaches unbroken lastClose 0 [] []
      exact ⟨fun comment member => (own comment member).resolve_left (by simp), opens⟩
  | some open_ =>
      have here := reaches open_ rfl
      unfold mask
      dsimp only
      split
      · refine ⟨by simp, fun later isOpen => ?_⟩
        obtain rfl := Option.mem_some_iff.mp isOpen
        refine ⟨?_, List.forall_mem_cons.mpr ⟨unbroken, here.unbroken⟩⟩
        rw [← here.lines, List.length_cons, Nat.add_assoc]
      · rename_i stop found
        obtain ⟨own, opens⟩ := maskFrom_reaches unbroken lastClose (stop + 3)
          [⟨0, stop + 3⟩] [(open_.line,
            Pending.body ⟨open_.line, place.content.take stop :: open_.parts⟩)]
        refine ⟨fun comment member => ?_, opens⟩
        rcases own comment member with ended | single
        · rw [List.mem_singleton.mp ended]
          exact here.count_body fun inside => unbroken (List.mem_of_mem_take inside)
        · exact single

end Comment

namespace Scan

/-- The comments that lines close in order. -/
def closings (header : Nat) (lastClose : Option Nat) :
    State → List Input → List Comment.Ended
  | _, [] => []
  | state, input :: rest =>
    ((fedBy header lastClose state input).map fun comment =>
        ⟨comment.1, input.number, comment.2⟩)
      ++ closings header lastClose (step header lastClose state input) rest

section

variable {header : Nat} {lastClose : Option Nat} {state : State} {input : Input}

theorem mem_comments_of_mem_closings {inputs : List Input} {ended : Comment.Ended}
    (member : ended ∈ closings header lastClose state inputs) :
    (ended.first, ended.inside) ∈ comments header lastClose state inputs := by
  induction inputs generalizing state with
  | nil => cases member
  | cons input inputs ih =>
      rcases List.mem_append.mp member with here | later
      · obtain ⟨comment, fed, rfl⟩ := List.mem_map.mp here
        exact List.mem_append_left _ fed
      · exact List.mem_append_right _ (ih later)

theorem fedBy_eq (header : Nat) (lastClose : Option Nat) (state : State)
    (input : Input) :
    fedBy header lastClose state input =
      if isPlain header state input then
        (Comment.mask input.place lastClose state.context.comment).closed
      else [] := by
  unfold fedBy isPlain isCode
  by_cases behind : header < input.number
  · have notFront : ¬ input.number ≤ header := Nat.not_le.mpr behind
    cases (fenced? state input).isSome <;> cases (indented? state input).isSome <;>
      simp [behind, notFront]
  · simp [behind, Nat.not_lt.mp behind]

/-- While a comment is open it has taken up the lines up to the next one, which is
neither front matter nor fenced. -/
structure ReachesTo (header : Nat) (state : State) (next : Nat) : Prop where
  comment : ∀ open_ ∈ state.context.comment, open_.ReachesTo next
  behind : state.context.comment.isSome = true → header < next
  outside : state.context.comment.isSome = true → state.context.fence = none

theorem ReachesTo.step (reaches : ReachesTo header state input.number)
    (unbroken : '\n' ∉ input.source.content) (lastClose : Option Nat) :
    (∀ comment ∈ fedBy header lastClose state input,
        comment.1 + comment.2.count '\n' = input.number) ∧
      ReachesTo header (step header lastClose state input) (input.number + 1) := by
  by_cases isPlainLine : isPlain header state input = true
  · have free : '\n' ∉ input.place.content := unbroken
    obtain ⟨closed, opens⟩ := Comment.mask_reaches free lastClose reaches.comment
    have behind := (cases_of_isPlain isPlainLine).1
    rw [fedBy_eq, if_pos isPlainLine]
    refine ⟨closed, ?_, fun _ => Nat.lt_succ_of_lt behind,
      fun _ => fence_of_isPlain isPlainLine⟩
    rw [comment_step, if_pos isPlainLine]
    exact opens
  · -- No comment is open: all lines of an open one are plain.
    have noComment : state.context.comment = none := by
      by_contra isOpen
      have inComment := Option.isSome_iff_ne_none.mpr isOpen
      exact isPlainLine (isPlain_of_comment (reaches.behind inComment)
        (reaches.outside inComment) inComment)
    have stays : (Scan.step header lastClose state input).context.comment = none := by
      rw [comment_step, if_neg isPlainLine, noComment]
    rw [fedBy_eq, if_neg isPlainLine]
    exact ⟨by simp, by simp [stays], by simp [stays], by simp [stays]⟩

/-- The lines of the opener and of the closer of a comment differ by the line breaks
between them. -/
theorem count_of_mem_closings {number offset : Nat} {behind : Block.Closers}
    {wholes : List Text} (reaches : ReachesTo header state (number + 1)) :
    ∀ ended ∈ closings header lastClose state
        (inputsFrom number offset behind wholes),
      ended.first + ended.inside.count '\n' = ended.last := by
  induction wholes generalizing number offset state with
  | nil => simp [inputsFrom, closings]
  | cons whole wholes ih =>
      have unbroken : '\n' ∉ SourceLine.contentOf whole := fun inside =>
        Bool.noConfusion (SourceLine.isTerminator_of_mem_contentOf inside)
      obtain ⟨fed, later⟩ := ReachesTo.step
        (show ReachesTo header state
          (inputAt number offset (closersOf behind wholes) whole).number from reaches)
        unbroken lastClose
      intro ended member
      rcases List.mem_append.mp member with here | inRest
      · obtain ⟨comment, isFed, rfl⟩ := List.mem_map.mp here
        exact fed comment isFed
      · exact ih later ended inRest

end

end Scan

namespace Document

/-- The comments that indexing a text closes. -/
def closings (text : Text) : List Comment.Ended :=
  Scan.closings (headerOf (SourceLine.split text))
    (Text.findLast? Comment.closer text) {} (scanned text)

variable {text : Text} {ended : Comment.Ended} {directive : Directive}

theorem count_of_closing (member : ended ∈ closings text) :
    ended.first + ended.inside.count '\n' = ended.last := by
  have start (header : Nat) : Scan.ReachesTo header {} 1 :=
    ⟨by simp, by simp, by simp⟩
  exact Scan.count_of_mem_closings (start _) ended member

/-- A directive in a comment is fed with the line of the opener. -/
theorem exists_cut_of_closing (member : ended ∈ closings text)
    (parsed : Directive.parse? ended.inside = some directive) :
    ∃ before after,
      directives text = before ++ (ended.first, directive) :: after := by
  have inComments := Scan.mem_comments_of_mem_closings member
  rw [scanned, ← Scan.inputs_split] at inComments
  have fed : (ended.first, directive) ∈ directives text :=
    List.mem_filterMap.mpr ⟨_, inComments, by simp [parsed]⟩
  exact List.append_of_mem fed

/-- The lines of the opener and of the closer of a comment differ by the line breaks
between them.  A directive for the next line switches off the rules that it names on the
line behind the opener and changes nothing else, so they are off on the line behind the
closer exactly if the comment has no line break in it or other comments switch them off
there. -/
theorem nextLine_follows_opener {dialect : Dialect} {document : Document}
    (indexed : index dialect text = .ok document) (member : ended ∈ closings text)
    (parsed : Directive.parse? ended.inside = some directive)
    (isNext : directive.action = .disableNextLine) :
    ended.first + ended.inside.count '\n' = ended.last ∧
    ∃ before after, directives text = before ++ (ended.first, directive) :: after ∧
      (∀ rule line, Region.isDisabledAt document.regions rule line = true ↔
        line = ended.first + 1 ∧ directive.names (Rule.normalize rule) = true ∨
          Region.isDisabledAt (Replay.ofDirectives (before ++ after)).regions rule
            line = true) ∧
      ∀ rule, directive.names (Rule.normalize rule) = true →
        (Region.isDisabledAt document.regions rule (ended.last + 1) = true ↔
          '\n' ∉ ended.inside ∨
            Region.isDisabledAt (Replay.ofDirectives (before ++ after)).regions rule
              (ended.last + 1) = true) := by
  have lines := count_of_closing member
  obtain ⟨before, after, cut⟩ := exists_cut_of_closing member parsed
  have ordered := Scan.pairwise_directives (headerOf (SourceLine.split text))
    (Text.findLast? Comment.closer text) (SourceLine.split text)
  change (directives text).Pairwise _ at ordered
  rw [cut] at ordered
  have covers (rule : Text) (line : Nat) :
      Region.isDisabledAt document.regions rule line = true ↔
        line = ended.first + 1 ∧ directive.names (Rule.normalize rule) = true ∨
          Region.isDisabledAt (Replay.ofDirectives (before ++ after)).regions rule
            line = true := by
    rw [regions_of_index indexed, cut]
    exact Replay.isDisabledAt_nextLine ordered isNext rule line
  refine ⟨lines, before, after, cut, covers, fun rule named => ?_⟩
  have single : ended.last + 1 = ended.first + 1 ↔ '\n' ∉ ended.inside := by
    rw [← List.count_eq_zero]
    omega
  rw [covers, single, and_iff_left named]

/-- A directive for the next line in a comment on two lines: the rule is off on the
second of them and on again on the line behind the comment. -/
theorem nextLine_follows_opener_broken :
    let text := "<!-- lintmark-disable-next-line\nMD051 -->\n[a](#x)\n".toList
    let directive : Directive := ⟨.disableNextLine, [Rule.linkFragments], []⟩
    let ended : Comment.Ended :=
      ⟨1, 2, " lintmark-disable-next-line\nMD051 ".toList⟩
    ∃ document, index .github text = .ok document ∧ ended ∈ closings text ∧
      Directive.parse? ended.inside = some directive ∧
      Region.isDisabledAt document.regions Rule.linkFragments 2 = true ∧
      Region.isDisabledAt document.regions Rule.linkFragments 3 = false := by
  intro text directive ended
  have possible : (index .github text).toOption.isSome = true := by decide +kernel
  obtain ⟨document, indexed⟩ := Option.isSome_iff_exists.mp possible
  have indexed := Outcome.toOption_eq_some.mp indexed
  have member : ended ∈ closings text := by decide +kernel
  have parsed : Directive.parse? ended.inside = some directive := by decide +kernel
  have alone : directives text = [(1, directive)] := by decide +kernel
  obtain ⟨-, before, after, cut, covers, -⟩ :=
    nextLine_follows_opener indexed member parsed rfl
  obtain ⟨rfl, rfl⟩ : before = [] ∧ after = [] := by
    have length := congrArg List.length (alone.symm.trans cut)
    simp only [List.length_append, List.length_cons, List.length_nil] at length
    exact ⟨List.length_eq_zero_iff.mp (by omega), List.length_eq_zero_iff.mp (by omega)⟩
  refine ⟨document, indexed, member, parsed,
    (covers _ _).mpr (Or.inl ⟨rfl, by decide +kernel⟩), ?_⟩
  rw [← Bool.not_eq_true, covers, List.append_nil,
    Replay.isDisabledAt_ofDirectives List.Pairwise.nil (by simp)]
  decide +kernel

end Document

end AnchorLint
