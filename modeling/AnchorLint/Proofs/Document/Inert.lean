import AnchorLint.Proofs.Document.Alike
import AnchorLint.Proofs.Document.Insides
import AnchorLint.Proofs.Document.Shape
import AnchorLint.Proofs.Document.Slot

/-!
# What a comment holds

A comment on one line is hidden from what else is read on the line.  So texts that
differ in what such a comment holds have the same links, footnotes and tags; only the
text of a link around the comment repeats it.  Three things are read before comments
are hidden: code spans, attribute lists and link definitions.  So no code span may
lead out of the comment, and its line has to declare the same in both texts.
-/

namespace AnchorLint

namespace Comment

theorem without_around {head inside otherInside : Text}
    (length : otherInside.length = inside.length) (tail : Text) (offset : Nat) :
    (around head otherInside tail).without ⟨offset + head.length,
        offset + head.length + inside.length + 7⟩ offset =
      (around head inside tail).without ⟨offset + head.length,
        offset + head.length + inside.length + 7⟩ offset := by
  refine List.ext_getElem? fun index => ?_
  rw [Text.getElem?_without, Text.getElem?_without]
  by_cases elsewhere : index < head.length ∨ head.length + inside.length + 7 ≤ index
  · rw [getElem?_around length tail elsewhere]
  · obtain ⟨starts, ends⟩ := not_or.mp elsewhere
    have inText : index < (around head inside tail).length := by
      rw [length_around]
      omega
    have covers : (decide (offset + head.length ≤ offset + index)
        && decide (offset + index < offset + head.length + inside.length + 7)) =
          true := by
      simp only [Bool.and_eq_true, decide_eq_true_eq]
      omega
    rw [List.getElem?_eq_getElem inText,
      List.getElem?_eq_getElem ((length_around_eq length).symm ▸ inText)]
    simp only [Option.map_some, covers, if_true]

end Comment

namespace SourceLine.Slot

variable {front rest : Text} (slot : Slot front rest)

def linesBefore : List Scan.Input :=
  Scan.inputsFrom 0 0 (Scan.closersOf {} slot.behind) slot.before

def lineWith (inside : Text) : Scan.Input :=
  Scan.inputAt slot.before.length slot.before.flatten.length
    (Scan.closersOf {} slot.behind)
    (slot.head ++ (Comment.written inside ++ slot.tail))

def linesBehind (size : Nat) : List Scan.Input :=
  Scan.inputsFrom (slot.before.length + 1)
    (front.length + size + 7 + slot.tail.length) {} slot.behind

section

variable {inside : Text}
  (unbroken : ∀ character ∈ Comment.written inside, isTerminator character = false)

include unbroken

theorem content_lineWith : (slot.lineWith inside).source.content =
    Comment.around slot.head inside (contentOf slot.tail) := by
  change contentOf (slot.head ++ (Comment.written inside ++ slot.tail)) = _
  rw [contentOf_append slot.unbroken, contentOf_append unbroken,
    Comment.around_eq_written]

theorem place_lineWith : (slot.lineWith inside).place =
    ⟨slot.before.length + 1, slot.before.flatten.length,
      Comment.around slot.head inside (contentOf slot.tail)⟩ := by
  rw [Scan.Input.place, slot.content_lineWith unbroken]
  rfl

theorem scanned_eq : Document.scanned (Comment.around front inside rest) =
    slot.linesBefore ++ slot.lineWith inside
      :: slot.linesBehind inside.length := by
  have body : Scan.bodyOf (slot.head ++ (Comment.written inside ++ slot.tail)) =
      Block.body (Comment.around slot.head inside (contentOf slot.tail)) :=
    congrArg Block.body (slot.content_lineWith unbroken)
  -- The line closes no fence, so the lines before it foresee the same.
  have closers : Scan.closersOf {} ((slot.head ++ (Comment.written inside
      ++ slot.tail)) :: slot.behind) = Scan.closersOf {} slot.behind := by
    obtain ⟨start, bodyEq, -⟩ := Block.exists_body_opener slot.head
      (Eq.refl (inside ++ (Comment.closer ++ contentOf slot.tail)).length)
    change (Scan.closersOf {} slot.behind).withLine (Scan.bodyOf _) = _
    rw [body, Comment.around, bodyEq, Block.Closers.withLine_opener]
  have length : slot.before.flatten.length
      + (slot.head ++ (Comment.written inside ++ slot.tail)).length =
        front.length + inside.length + 7 + slot.tail.length := by
    rw [List.length_append, List.length_append, Comment.length_written,
      slot.length_front]
    omega
  rw [Document.scanned, Comment.around_eq_written,
    slot.wholes _ (Comment.written_ne_nil inside) unbroken, Scan.inputsFrom_append,
    closers, Scan.inputsFrom, Nat.zero_add, Nat.zero_add, length]
  rfl

end

/-- Lines that differ in what a comment holds look the same around the comment. -/
theorem alike_lineWith {inside otherInside : Text}
    (length : otherInside.length = inside.length)
    (unbroken : ∀ character ∈ Comment.written inside,
      isTerminator character = false)
    (otherUnbroken : ∀ character ∈ Comment.written otherInside,
      isTerminator character = false) :
    (slot.lineWith inside).Alike (Comment.spanIn front inside)
      (slot.lineWith otherInside) := by
  have content := slot.content_lineWith unbroken
  have otherContent := slot.content_lineWith otherUnbroken
  have sameLength : (otherInside ++ (Comment.closer ++ contentOf slot.tail)).length =
      (inside ++ (Comment.closer ++ contentOf slot.tail)).length := by
    rw [List.length_append, length, ← List.length_append]
  obtain ⟨start, bodyEq, otherBodyEq⟩ :=
    Block.exists_body_opener slot.head sameLength
  have body : (slot.lineWith inside).body = start ++ (Comment.opener
      ++ (inside ++ (Comment.closer ++ contentOf slot.tail))) :=
    (congrArg Block.body content).trans bodyEq
  have otherBody : (slot.lineWith otherInside).body = start ++ (Comment.opener
      ++ (otherInside ++ (Comment.closer ++ contentOf slot.tail))) :=
    (congrArg Block.body otherContent).trans otherBodyEq
  have notBlank (inside : Text) : Text.isBlank
      (Comment.around slot.head inside (contentOf slot.tail)) = false :=
    List.all_eq_false.mpr ⟨'<', by simp [Comment.around, Comment.opener], by decide⟩
  have place : (slot.lineWith inside).place.Agrees (Comment.spanIn front inside)
      (slot.lineWith otherInside).place := by
    rw [slot.place_lineWith unbroken, slot.place_lineWith otherUnbroken,
      Comment.spanIn, slot.length_front]
    exact ⟨rfl, rfl, Comment.without_around length _ _⟩
  refine ⟨place.line, place, ?_, ?_, ?_, ?_, ?_, ?_, ?_, ?_⟩
  · rw [content, otherContent, notBlank, notBlank]
  · rw [content, otherContent, Comment.around, Comment.around,
      Block.indentWidth_opener, Block.indentWidth_opener]
  · unfold Scan.Input.quoted
    rw [body, otherBody, content, otherContent, Comment.length_around_eq length]
    simp [length]
  · rw [body, otherBody, Block.isSome_atx?_opener]
  · rw [body, otherBody, Block.underline?_opener, Block.underline?_opener]
  · rw [body, otherBody, Block.isListItem_opener]
  · rw [body, otherBody, Block.isThematicBreak_opener, Block.isThematicBreak_opener]
  · rw [body, otherBody, Block.isHtmlBlock_opener]

end SourceLine.Slot

namespace Document

/-! ## Comments of a text -/

/-- A comment that opens and closes on a line of a text, as its scan finds it. -/
structure CommentSite (text : Text) where
  before : List Scan.Input
  input : Scan.Input
  after : List Scan.Input
  /-- Where the search for comments begins on the line. -/
  position : Nat
  /-- Where the comment is on the line. -/
  span : Span
  cut : scanned text = before ++ input :: after
  isPlain : Scan.isPlain (headerOf (SourceLine.split text))
    (stateBehind text before) input = true
  starts : Comment.searchStart? input.source.content
    (stateBehind text before).context.comment = some position
  found : span ∈ (Comment.search input.source.content position).hidden

namespace CommentSite

def comment {text : Text} (site : CommentSite text) : Span :=
  ⟨site.input.source.span.start + site.span.start,
    site.input.source.span.start + site.span.stop⟩

def state {text : Text} (site : CommentSite text) : Scan.State :=
  stateBehind text site.before

/-- The comment from an earlier line that is open where the line begins. -/
def pending {text : Text} (site : CommentSite text) : Option Comment.Pending :=
  site.state.context.comment

/-- Whether no code span leads from the comment to what is behind it. -/
def KeepsCode {text : Text} (site : CommentSite text) : Prop :=
  ∀ code ∈ Comment.codeSpansFrom site.input.source.content site.position,
    site.span.start ≤ code.start → code.start < site.span.stop →
      code.stop ≤ site.span.stop

instance {text : Text} (site : CommentSite text) : Decidable site.KeepsCode :=
  inferInstanceAs (Decidable (∀ code ∈ Comment.codeSpansFrom
    site.input.source.content site.position, site.span.start ≤ code.start →
      code.start < site.span.stop → code.stop ≤ site.span.stop))

theorem seals {text : Text} {site : CommentSite text} (keeps : site.KeepsCode) :
    Comment.Seals site.input.source.content site.position site.span :=
  ⟨site.found, keeps⟩

/-- Whether a comment is on the line of a place in the text. -/
structure Fills {front inside rest : Text}
    (site : CommentSite (Comment.around front inside rest))
    (slot : SourceLine.Slot front rest) : Prop where
  before : site.before = slot.linesBefore
  input : site.input = slot.lineWith inside
  after : site.after = slot.linesBehind inside.length
  span : site.span = Comment.spanIn slot.head inside

theorem fits {text : Text} (site : CommentSite text) :
    site.span.FitsIn site.input.source.content.length :=
  (Comment.findFrom_fits _ _ _ _).1 _ site.found

section

variable {front inside rest : Text}
  {site : CommentSite (Comment.around front inside rest)}
  (here : site.comment = Comment.spanIn front inside)

include here

theorem unbroken : ∀ character ∈ Comment.written inside,
    SourceLine.isTerminator character = false := by
  obtain ⟨first, whole, others, wholes, -, inputEq, -⟩ :=
    exists_cut_of_scanned site.cut
  obtain ⟨proper, fits⟩ := site.fits
  simp only [comment, Comment.spanIn, Span.mk.injEq] at here
  rw [inputEq] at here fits
  obtain ⟨starts, ends⟩ := here
  have slice := slice_of_content wholes proper fits
  change first.flatten.length + _ = _ at starts ends
  rw [starts, ends, Comment.slice_written] at slice
  intro character member
  rw [slice] at member
  exact SourceLine.isTerminator_of_mem_contentOf
    (List.mem_of_mem_drop (List.mem_of_mem_take member))

theorem fills (slot : SourceLine.Slot front rest) : site.Fills slot := by
  have solid := unbroken here
  obtain ⟨first, whole, others, wholes, length, inputEq, -⟩ :=
    exists_cut_of_scanned site.cut
  obtain ⟨proper, fits⟩ := site.fits
  simp only [comment, Comment.spanIn, Span.mk.injEq] at here
  rw [inputEq] at here fits
  obtain ⟨starts, ends⟩ := here
  change first.flatten.length + _ = _ at starts ends
  change _ ≤ (SourceLine.contentOf whole).length at fits
  have content := Scan.length_contentOf_le whole
  have frontLength := slot.length_front
  have slotLength : (slot.head ++ (Comment.written inside ++ slot.tail)).length =
      slot.head.length + (inside.length + 7 + slot.tail.length) := by
    rw [List.length_append, List.length_append, Comment.length_written]
  have slotWholes := slot.wholes _ (Comment.written_ne_nil inside) solid
  rw [← Comment.around_eq_written, wholes] at slotWholes
  -- The comment starts on the line of the slot as well as on the line that the scan
  -- has found it on.
  obtain ⟨rfl, -, -⟩ := @SourceLine.eq_of_place _ _ _ _ _ _ slotWholes front.length
    (by omega) (by omega) (by omega) (by omega)
  have parts := slot.scanned_eq solid
  rw [site.cut] at parts
  obtain ⟨beforeEq, lines⟩ := List.append_inj parts
    (length.trans (Scan.length_inputsFrom _ _ _ _).symm)
  obtain ⟨lineEq, behindEq⟩ := List.cons.inj lines
  have startEq : site.span.start = slot.head.length := by omega
  have stopEq : site.span.stop = slot.head.length + inside.length + 7 := by omega
  exact ⟨beforeEq, lineEq, behindEq, congrArg₂ Span.mk startEq stopEq⟩

end

/-! ## Two insides -/

section

variable {front inside otherInside rest : Text}
  {site : CommentSite (Comment.around front inside rest)}
  {otherSite : CommentSite (Comment.around front otherInside rest)}

/-- Whether texts have a comment at the same place, of the same length and without a
directive in either of them. -/
structure IsExchange (site : CommentSite (Comment.around front inside rest))
    (otherSite : CommentSite (Comment.around front otherInside rest)) :
    Prop where
  length : otherInside.length = inside.length
  here : site.comment = Comment.spanIn front inside
  otherHere : otherSite.comment = Comment.spanIn front otherInside
  quiet : Directive.parse? inside = none
  otherQuiet : Directive.parse? otherInside = none

namespace IsExchange

variable (exchange : site.IsExchange otherSite)

include exchange

theorem frontMatterBlock?_eq :
    frontMatterBlock? (SourceLine.split (Comment.around front otherInside rest)) =
      frontMatterBlock? (SourceLine.split (Comment.around front inside rest)) := by
  obtain ⟨slot⟩ := SourceLine.nonempty_slot front rest
  have split {inside : Text}
      {site : CommentSite (Comment.around front inside rest)}
      (here : site.comment = Comment.spanIn front inside) :
      SourceLine.split (Comment.around front inside rest) =
        SourceLine.placeFrom 0 slot.before
          ++ SourceLine.placeFrom slot.before.flatten.length
            ((slot.head ++ (Comment.written inside ++ slot.tail)) :: slot.behind) ∧
      headerOf (SourceLine.split (Comment.around front inside rest)) ≤
        (SourceLine.placeFrom 0 slot.before).length := by
    constructor
    · rw [SourceLine.split_eq_placeFrom, Comment.around_eq_written,
        slot.wholes _ (Comment.written_ne_nil inside) (unbroken here),
        SourceLine.placeFrom_append, Nat.zero_add]
    · -- The line of the comment is plain, so the front matter ends before it.
      have behind := (Scan.cases_of_isPlain site.isPlain).1
      rw [(fills here slot).input] at behind
      rw [SourceLine.length_placeFrom]
      exact Nat.le_of_lt_succ behind
  obtain ⟨cut, header⟩ := split exchange.here
  obtain ⟨otherCut, otherHeader⟩ := split exchange.otherHere
  rw [cut] at header ⊢
  rw [otherCut] at otherHeader ⊢
  exact frontMatterBlock?_congr header otherHeader

theorem headerOf_eq :
    headerOf (SourceLine.split (Comment.around front otherInside rest)) =
      headerOf (SourceLine.split (Comment.around front inside rest)) := by
  rw [headerOf, exchange.frontMatterBlock?_eq, headerOf]

theorem state_eq : otherSite.state = site.state := by
  obtain ⟨slot⟩ := SourceLine.nonempty_slot front rest
  rw [state, stateBehind, (fills exchange.otherHere slot).before,
    exchange.headerOf_eq, Comment.findLast?_closer_around exchange.length, state,
    stateBehind, (fills exchange.here slot).before]

variable (keeps : site.KeepsCode) (otherKeeps : otherSite.KeepsCode)

include keeps otherKeeps

theorem alike_mask (lastClose : Option Nat) :
    Scan.MaskedAlike (Comment.mask site.input.place lastClose site.pending)
      (Comment.mask otherSite.input.place lastClose site.pending) := by
  obtain ⟨slot⟩ := SourceLine.nonempty_slot front rest
  have solid := unbroken exchange.here
  have otherSolid := unbroken exchange.otherHere
  obtain ⟨-, inputEq, -, spanEq⟩ := fills exchange.here slot
  obtain ⟨-, otherInputEq, -, otherSpanEq⟩ := fills exchange.otherHere slot
  have starts : Comment.searchStart? _ site.pending = _ := site.starts
  have otherStarts : Comment.searchStart? _ otherSite.pending = _ := otherSite.starts
  have isSealed := seals keeps
  have otherSealed := seals otherKeeps
  rw [inputEq, slot.content_lineWith solid] at starts
  rw [pending, exchange.state_eq, ← pending, otherInputEq,
    slot.content_lineWith otherSolid] at otherStarts
  rw [inputEq, slot.content_lineWith solid, spanEq] at isSealed
  rw [otherInputEq, slot.content_lineWith otherSolid, otherSpanEq] at otherSealed
  -- Where the search begins is decided before the comment.
  have samePosition : otherSite.position = site.position :=
    Option.some.inj (otherStarts.symm.trans
      (Comment.searchStart?_around starts isSealed.reached))
  rw [samePosition] at otherSealed
  obtain ⟨masked, first, last, eq, otherEq⟩ := Comment.mask_around exchange.length
    isSealed otherSealed (slot.before.length + 1) slot.before.flatten.length lastClose
    starts
  rw [inputEq, otherInputEq, slot.place_lineWith solid,
    slot.place_lineWith otherSolid, eq, otherEq]
  refine ⟨rfl, rfl, ?_⟩
  simp [Scan.directivesOf, exchange.quiet, exchange.otherQuiet]

variable (declare : site.pending = none → site.input.DeclareAlike otherSite.input)

include declare

/-- The line of a comment leaves the scan alike whatever the comment holds. -/
theorem alike_step (lastClose : Option Nat) :
    (Scan.step (headerOf (SourceLine.split (Comment.around front inside rest)))
        lastClose site.state site.input).Alike
      (Comment.spanIn front inside)
      (Scan.step
        (headerOf (SourceLine.split (Comment.around front otherInside rest)))
        lastClose otherSite.state otherSite.input) := by
  obtain ⟨slot⟩ := SourceLine.nonempty_slot front rest
  have lines := slot.alike_lineWith exchange.length (unbroken exchange.here)
    (unbroken exchange.otherHere)
  rw [← (fills exchange.here slot).input, ← (fills exchange.otherHere slot).input]
    at lines
  have masked := exchange.alike_mask keeps otherKeeps lastClose
  have stays : (Scan.leaveIndented site.state site.input).context.comment =
      site.pending := (Scan.leaveIndented_keeps _ _).2
  rw [← stays] at declare masked
  have step : Scan.step _ lastClose site.state site.input = _ :=
    Scan.step_of_isPlain site.isPlain lastClose
  have otherStep : Scan.step _ lastClose otherSite.state otherSite.input = _ :=
    Scan.step_of_isPlain otherSite.isPlain lastClose
  rw [step, otherStep, ← state, ← state, exchange.state_eq]
  have left := (Scan.State.Alike.refl (Comment.spanIn front inside)
    site.state).leaveIndented lines.blank
  exact (left.plain lines declare masked).addLine _ _ false false

/-- Scans of texts that differ in what a comment holds agree around the comment. -/
theorem alike_harvestOf : (harvestOf (Comment.around front inside rest)).Alike
    (Comment.spanIn front inside)
    (harvestOf (Comment.around front otherInside rest)) := by
  obtain ⟨slot⟩ := SourceLine.nonempty_slot front rest
  have stepped := exchange.alike_step keeps otherKeeps declare
    (Text.findLast? Comment.closer (Comment.around front inside rest))
  have behind : otherSite.after = site.after := by
    rw [(fills exchange.otherHere slot).after, (fills exchange.here slot).after,
      exchange.length]
  rw [harvestOf_eq, harvestOf_eq, ← scanned, ← scanned, site.cut, otherSite.cut,
    List.foldl_append, List.foldl_append, List.foldl_cons, List.foldl_cons,
    ← stateBehind, ← stateBehind, ← state, ← state, behind,
    Comment.findLast?_closer_around exchange.length]
  rw [exchange.headerOf_eq] at stepped ⊢
  exact Scan.finish_alike (Scan.foldl_step_alike stepped _ _ _)

end IsExchange

end

end CommentSite

/-- What a comment on one line holds does not affect what is indexed around it, if it
is no directive, no code span leads out of it, and its line declares the same. -/
theorem index_ignores_inside (dialect : Dialect)
    {front inside otherInside rest : Text}
    {site : CommentSite (Comment.around front inside rest)}
    {otherSite : CommentSite (Comment.around front otherInside rest)}
    (exchange : site.IsExchange otherSite)
    (keeps : site.KeepsCode) (otherKeeps : otherSite.KeepsCode)
    (declare : site.pending = none → site.input.DeclareAlike otherSite.input) :
    (index dialect (Comment.around front otherInside rest)).map
        (around (Comment.spanIn front inside)) =
      (index dialect (Comment.around front inside rest)).map
        (around (Comment.spanIn front inside)) :=
  index_alike dialect exchange.frontMatterBlock?_eq
    (exchange.alike_harvestOf keeps otherKeeps declare)

def CommentSite.onFirstLine {text : Text} {input : Scan.Input}
    {after : List Scan.Input} {span : Span}
    (cut : scanned text = input :: after)
    (isPlain : Scan.isPlain (headerOf (SourceLine.split text)) {} input = true)
    (found : span ∈ (Comment.search input.source.content 0).hidden) :
    CommentSite text :=
  ⟨[], input, after, 0, span, cut, isPlain, rfl, found⟩

/-- A link around a comment, and an anchor. -/
def commentedText (inside : String) : Text :=
  Comment.around "[a ".toList inside.toList " b](c.md) <a id=d>".toList

/-- One comment holds a link, and the other one a tag. -/
theorem index_ignores_inside_link :
    (index .github (commentedText "<a id>")).map (around ⟨3, 16⟩) =
      (index .github (commentedText "[x](y)")).map (around ⟨3, 16⟩) := by
  let site : CommentSite (commentedText "[x](y)") :=
    @CommentSite.onFirstLine _ (Scan.inputAt 0 0 {} (commentedText "[x](y)")) []
      ⟨3, 16⟩ rfl (by decide +kernel) (by decide +kernel)
  let otherSite : CommentSite (commentedText "<a id>") :=
    @CommentSite.onFirstLine _ (Scan.inputAt 0 0 {} (commentedText "<a id>")) []
      ⟨3, 16⟩ rfl (by decide +kernel) (by decide +kernel)
  have exchange : @CommentSite.IsExchange _ _ _ _ site otherSite := by
    constructor <;> decide +kernel
  have keeps : site.KeepsCode := by decide +kernel
  have otherKeeps : otherSite.KeepsCode := by decide +kernel
  exact index_ignores_inside .github exchange keeps otherKeeps
    fun _ => ⟨by decide +kernel, by decide +kernel⟩

/-- Whether the links of a text depend on what a comment in it holds. -/
def LinksShow (front inside otherInside rest : Text) : Prop :=
  ∃ (site : CommentSite (Comment.around front inside rest))
    (otherSite : CommentSite (Comment.around front otherInside rest)),
    site.IsExchange otherSite ∧
      (index .github (Comment.around front otherInside rest)).toOption.map
          Document.links ≠
        (index .github (Comment.around front inside rest)).toOption.map
          Document.links

def isOnFirstLine (comment : Span) (text : Text) : Bool :=
  (scanned text).head?.any fun input => input.source.span.start == 0
    && Scan.isPlain (headerOf (SourceLine.split text)) {} input
    && (Comment.search input.source.content 0).hidden.contains comment

theorem exists_site {comment : Span} {text : Text}
    (found : isOnFirstLine comment text = true) :
    ∃ site : CommentSite text, site.comment = comment := by
  obtain ⟨input, isFirst, holds⟩ := (Option.any_eq_true _ _).mp found
  obtain ⟨after, cut⟩ := List.head?_eq_some_iff.mp isFirst
  simp only [Bool.and_eq_true, beq_iff_eq, List.contains_iff_mem] at holds
  obtain ⟨⟨starts, isPlain⟩, member⟩ := holds
  refine ⟨CommentSite.onFirstLine cut isPlain member, ?_⟩
  change Span.mk (input.source.span.start + comment.start)
    (input.source.span.start + comment.stop) = comment
  rw [starts, Nat.zero_add, Nat.zero_add]

theorem linksShow_of_isOnFirstLine {front inside otherInside rest : Text}
    (found : isOnFirstLine (Comment.spanIn front inside)
      (Comment.around front inside rest) = true)
    (otherFound : isOnFirstLine (Comment.spanIn front otherInside)
      (Comment.around front otherInside rest) = true)
    (length : otherInside.length = inside.length)
    (quiet : Directive.parse? inside = none)
    (otherQuiet : Directive.parse? otherInside = none)
    (differ : (index .github (Comment.around front otherInside rest)).toOption.map
        Document.links ≠
      (index .github (Comment.around front inside rest)).toOption.map
        Document.links) :
    LinksShow front inside otherInside rest := by
  obtain ⟨site, here⟩ := exists_site found
  obtain ⟨otherSite, otherHere⟩ := exists_site otherFound
  exact ⟨site, otherSite, ⟨length, here, otherHere, quiet, otherQuiet⟩, differ⟩

/-- The text of a link repeats a comment in it, and definitions and attribute lists
are read with the comments in them. -/
theorem links_show_inside :
    LinksShow "[a ".toList "x".toList "y".toList "](b.md)".toList ∧
      LinksShow "[a]: ".toList "x".toList "y".toList "\n[a]".toList ∧
      LinksShow "\x7b: a=\"".toList "x".toList "\"".toList
        " [b](c.md)\"\x7d".toList := by
  refine ⟨linksShow_of_isOnFirstLine ?_ ?_ ?_ ?_ ?_ ?_,
    linksShow_of_isOnFirstLine ?_ ?_ ?_ ?_ ?_ ?_,
    linksShow_of_isOnFirstLine ?_ ?_ ?_ ?_ ?_ ?_⟩
  all_goals decide +kernel

end Document

end AnchorLint
