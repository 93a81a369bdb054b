import AnchorLint.Proofs.Document.LineTable
import AnchorLint.Proofs.Document.Mask
import AnchorLint.Proofs.Document.Patterns

/-!
# The passes over a line

A line is searched in several passes, each for one kind of link, and what a pass has
read is blanked out before the next one.  A match begins with a visible character,
so no later pass finds anything that begins within what an earlier pass has read.
Only the two passes for addresses in brackets search the same text: an address that
has both a scheme and an at sign is read twice.  So the links and references of a
line start at different places, but for such addresses.
-/

namespace AnchorLint

namespace Link

/-- Whether two links are one address in brackets that was read twice. -/
def ReadTwice (first second : Link) : Prop :=
  first.style = .autolink ∧ second.style = .autolink ∧ first.span = second.span ∧
    (second.target = "mailto:".toList ++ first.target ∨
      first.target = "mailto:".toList ++ second.target)

/-- Whether two links start at different places or are one address that was read
twice. -/
def Apart (first second : Link) : Prop :=
  first.span.start ≠ second.span.start ∨ first.ReadTwice second

/-- The pass in which a link is found: inline links come first, then addresses in
brackets, mail addresses in brackets, and bare addresses.  An address in brackets
takes up its target and the brackets, where `mailto:` is not written for a mail
address. -/
def pass (link : Link) : Nat :=
  if link.style = .inline then 0
  else if link.span.stop = link.span.start + (link.target.length + 2) then 1
  else if link.span.stop + 5 = link.span.start + link.target.length then 2
  else 3

/-- Whether a link is found before another one: on an earlier line, in an earlier
pass over its line, or earlier in the same pass. -/
def FoundBefore (first second : Link) : Prop :=
  first.line < second.line ∧ first.span.start < second.span.start ∨
    first.line = second.line ∧ (first.pass < second.pass ∨
      first.pass = second.pass ∧ first.span.start < second.span.start)

theorem ReadTwice.symm {first second : Link} (twice : first.ReadTwice second) :
    second.ReadTwice first :=
  ⟨twice.2.1, twice.1, twice.2.2.1.symm, twice.2.2.2.symm⟩

theorem Apart.symm {first second : Link} (apart : first.Apart second) :
    second.Apart first :=
  apart.imp Ne.symm ReadTwice.symm

end Link

namespace Inline

/-! ## What later passes see -/

/-- Whether something visible stands at an index of a text. -/
def IsShown (text : Text) (index : Nat) : Prop :=
  ∃ character, text[index]? = some character ∧ character ≠ ' '

theorem IsShown.of_blank {text : Text} {spans : List Span}
    (fit : ∀ span ∈ spans, span.FitsIn text.length) {index : Nat}
    (shown : IsShown (blank text spans) index) :
    IsShown text index ∧ ∀ span ∈ spans, ¬ span.Holds index := by
  obtain ⟨character, here, visible⟩ := shown
  have isMasked := isMasked_blank fit
  have before := (Shows.of_isMasked isMasked).visible index character here visible
  refine ⟨⟨character, before, visible⟩, fun span member holds => ?_⟩
  rw [isMasked.hidden span member index holds] at here
  exact visible (Option.some.inj here).symm

/-- Whether an index lies in one of several matches. -/
def IsTaken {α : Type} (matches_ : List (Found α)) (index : Nat) : Prop :=
  ∃ span ∈ spansOf matches_, span.Holds index

theorem isTaken_of_mem {α : Type} {pattern : Pattern α} {text : Text}
    {found : Found α} (isMatch : pattern.IsMatch text found)
    {matches_ : List (Found α)} (member : found ∈ matches_) :
    IsTaken matches_ found.start :=
  ⟨_, List.mem_map_of_mem member, Nat.le_refl _, isMatch.lt_stop⟩

/-- Whether something visible stands at an index that one of several matches takes. -/
def IsMatched {α : Type} (text : Text) (matches_ : List (Found α)) (index : Nat) :
    Prop :=
  IsShown text index ∧ IsTaken matches_ index

section

variable {masked : Text} {index : Nat}

theorem IsShown.of_unlinked (shown : IsShown (unlinked masked) index) :
    ¬ IsTaken (Pattern.findAll inlineLink masked) index :=
  fun ⟨span, member, holds⟩ =>
    (shown.of_blank (fitsIn_of_mem_spansOf fun _ member => member)).2 span member holds

theorem IsShown.of_unlabelled (shown : IsShown (unlabelled masked) index) :
    IsShown (unlinked masked) index ∧
      ¬ IsTaken (Pattern.findAll fullReference (unlinked masked)) index :=
  (shown.of_blank (fitsIn_of_mem_spansOf fun _ member => member)).imp_right
    fun outside ⟨span, member, holds⟩ => outside span member holds

theorem IsShown.of_unreferenced (shown : IsShown (unreferenced masked) index) :
    IsShown (unlabelled masked) index ∧ ¬ IsTaken (shortcuts masked) index :=
  (shown.of_blank
    (fitsIn_of_mem_spansOf fun _ member => (List.mem_filter.mp member).1)).imp_right
    fun outside ⟨span, member, holds⟩ => outside span member holds

theorem IsShown.of_unaddressed (shown : IsShown (unaddressed masked) index) :
    IsShown (unreferenced masked) index ∧
      ¬ IsTaken (Pattern.findAll autolink (unreferenced masked)) index ∧
      ¬ IsTaken (Pattern.findAll mailAutolink (unreferenced masked)) index := by
  obtain ⟨before, outside⟩ := shown.of_blank (List.forall_mem_append.mpr
    ⟨fitsIn_of_mem_spansOf fun _ member => member,
      fitsIn_of_mem_spansOf fun _ member => member⟩)
  exact ⟨before,
    fun ⟨span, member, holds⟩ => outside span (List.mem_append_left _ member) holds,
    fun ⟨span, member, holds⟩ => outside span (List.mem_append_right _ member) holds⟩

end

/-! ## The links of a line -/

theorem of_makeLink? {target : Text} {line column : Nat} {span : Span} {text : Text}
    {style : LinkStyle} {reference : Option Text} {isImage : Bool} {link : Link}
    (made : makeLink? target line column span text style reference isImage =
      some link) :
    link.line = line ∧ link.span = span ∧ link.style = style ∧ link.target = target := by
  unfold makeLink? at made
  split at made
  · cases made
  · obtain rfl := Option.some.inj made
    exact ⟨rfl, rfl, rfl, rfl⟩

def withScheme (address : Text) : Text :=
  if Text.startsWith address "www.".toList then "http://".toList ++ address
  else address

namespace Place

variable (place : Place) (masked : Text)

/-- The inline links that a line shows, each with the ones inside its text. -/
def shownLinks : List Link :=
  (Pattern.findAll inlineLink masked).flatMap place.inlineLinks

/-- The links of the addresses that a pattern finds in a line. -/
def addressLinks (pattern : Pattern Text) (target : Text → Text) : List Link :=
  (Pattern.findAll pattern masked).filterMap fun found =>
    place.addressLink? found (target found.value)

/-- Whether an offset is at an index of the line that has a property. -/
def StartsAt (has : Nat → Prop) (offset : Nat) : Prop :=
  ∃ index, offset = place.offset + index ∧ has index

/-- Whether a link is found in a pass over the line, at such an index. -/
structure FindsIn (pass : Nat) (has : Nat → Prop) (link : Link) : Prop where
  line : link.line = place.line
  pass : link.pass = pass
  starts : place.StartsAt has link.span.start

theorem links_elements :
    (place.elements masked).links =
      place.shownLinks masked
        ++ place.addressLinks (unreferenced masked) autolink id
        ++ place.addressLinks (unreferenced masked) mailAutolink ("mailto:".toList ++ ·)
        ++ place.addressLinks (unaddressed masked) bareAddress withScheme :=
  rfl

variable {place masked} {link : Link}

theorem of_inlineLink? {base : Nat} {found : Found Written}
    (made : place.inlineLink? base found = some link) :
    link.line = place.line ∧ link.span.start = place.offset + (base + found.start) ∧
      link.style = .inline := by
  obtain ⟨line, span, style, -⟩ := of_makeLink? made
  exact ⟨line, by rw [span, Nat.add_assoc], style⟩

theorem startsAt_span {α : Type} {pattern : Pattern α} (solid : pattern.IsSolid)
    {matches_ : List (Found α)}
    (matched : ∀ one ∈ matches_, one ∈ Pattern.findAll pattern masked)
    {found : Found α} (member : found ∈ matches_) :
    place.StartsAt (IsMatched masked matches_) (place.span found).start := by
  have isMatch := Pattern.isMatch_of_mem_findAll (matched found member)
  exact ⟨found.start, rfl, solid.exists_getElem? isMatch, isTaken_of_mem isMatch member⟩

/-- The links of an inline match start in the match, the outer one first. -/
theorem of_mem_inlineLinks {found : Found Written}
    (isMatch : Pattern.IsMatch inlineLink masked found)
    (member : link ∈ place.inlineLinks found) :
    link.line = place.line ∧ link.style = .inline ∧ ∃ index,
      link.span.start = place.offset + index ∧
        found.start ≤ index ∧ index < found.stop := by
  have proper := isMatch.lt_stop
  rcases List.mem_append.mp member with own | inner
  · obtain ⟨line, start, style⟩ := of_inlineLink? (Option.mem_toList.mp own)
    exact ⟨line, style, _, start, by omega, by omega⟩
  · obtain ⟨part, inText, made⟩ := List.mem_filterMap.mp inner
    obtain ⟨line, start, style⟩ := of_inlineLink? made
    obtain ⟨before, after, read, stop⟩ := isMatch.reads
    have fits := textOffset_add_length_lt read
    have innerMatch := Pattern.isMatch_of_mem_findAll inText
    have starts := innerMatch.lt_stop
    have ends := innerMatch.stop_le
    rw [List.length_drop] at fits
    exact ⟨line, style, _, start, by omega, by omega⟩

theorem pairwise_inlineLinks (found : Found Written) :
    (place.inlineLinks found).Pairwise fun first second =>
      first.span.start < second.span.start := by
  refine List.pairwise_append.mpr ⟨?_, ?_, ?_⟩
  · cases place.inlineLink? 0 found <;> simp
  · refine List.pairwise_filterMap.mpr ((Pattern.pairwise_findAll _ _).imp_of_mem ?_)
    intro one other inText _ behind first madeFirst second madeSecond
    have proper := (Pattern.isMatch_of_mem_findAll inText).lt_stop
    rw [(of_inlineLink? madeFirst).2.1, (of_inlineLink? madeSecond).2.1]
    omega
  · intro own member inner innerMember
    obtain ⟨part, -, made⟩ := List.mem_filterMap.mp innerMember
    have offset : 1 ≤ found.value.textOffset := by
      unfold Written.textOffset
      split <;> decide
    rw [(of_inlineLink? (Option.mem_toList.mp member)).2.1, (of_inlineLink? made).2.1]
    omega

theorem pairwise_shownLinks :
    (place.shownLinks masked).Pairwise fun first second =>
      first.span.start < second.span.start := by
  refine List.pairwise_flatMap.mpr ⟨fun found _ => pairwise_inlineLinks found, ?_⟩
  refine (Pattern.pairwise_findAll _ _).imp_of_mem ?_
  intro one other inLine otherInLine behind first member second secondMember
  obtain ⟨-, -, index, start, -, inside⟩ :=
    of_mem_inlineLinks (Pattern.isMatch_of_mem_findAll inLine) member
  obtain ⟨-, -, otherIndex, otherStart, reached, -⟩ :=
    of_mem_inlineLinks (Pattern.isMatch_of_mem_findAll otherInLine) secondMember
  omega

theorem findsIn_of_mem_shownLinks (member : link ∈ place.shownLinks masked) :
    place.FindsIn 0 (IsTaken (Pattern.findAll inlineLink masked)) link := by
  obtain ⟨found, inLine, inFound⟩ := List.mem_flatMap.mp member
  obtain ⟨line, style, index, start, holds⟩ :=
    of_mem_inlineLinks (Pattern.isMatch_of_mem_findAll inLine) inFound
  exact ⟨line, if_pos style, index, start, _, List.mem_map_of_mem inLine, holds⟩

section

variable {pattern : Pattern Text} {target : Text → Text}

theorem of_mem_addressLinks (member : link ∈ place.addressLinks masked pattern target) :
    ∃ found ∈ Pattern.findAll pattern masked,
      link.line = place.line ∧ link.span = place.span found ∧
        link.style = .autolink ∧ link.target = target found.value := by
  obtain ⟨found, inLine, made⟩ := List.mem_filterMap.mp member
  exact ⟨found, inLine, of_makeLink? made⟩

theorem pairwise_addressLinks :
    (place.addressLinks masked pattern target).Pairwise fun first second =>
      first.span.start < second.span.start := by
  refine List.pairwise_filterMap.mpr ((Pattern.pairwise_findAll _ _).imp_of_mem ?_)
  intro one other inLine _ behind first madeFirst second madeSecond
  have proper := (Pattern.isMatch_of_mem_findAll inLine).lt_stop
  rw [(of_makeLink? madeFirst).2.1, (of_makeLink? madeSecond).2.1]
  dsimp only [span]
  omega

theorem findsIn_of_mem_addressLinks (solid : pattern.IsSolid) {pass : Nat}
    (member : link ∈ place.addressLinks masked pattern target)
    (isPass : link.pass = pass) :
    place.FindsIn pass (IsMatched masked (Pattern.findAll pattern masked)) link := by
  obtain ⟨found, inLine, line, span, -⟩ := of_mem_addressLinks member
  exact ⟨line, isPass, span ▸ startsAt_span solid (fun _ inLine => inLine) inLine⟩

end

/-- What an address in brackets covers. -/
theorem stop_of_spells_inBrackets {pattern : Pattern Text}
    (spells : pattern.Spells inBrackets) {found : Found Text}
    (inLine : found ∈ Pattern.findAll pattern masked) :
    found.stop = found.start + (found.value.length + 2) := by
  rw [spells.stop_eq (Pattern.isMatch_of_mem_findAll inLine) (by simp [inBrackets]),
    length_inBrackets]

theorem pass_of_mem_autolinks (member : link ∈ place.addressLinks masked autolink id) :
    link.pass = 1 := by
  obtain ⟨found, inLine, -, span, style, target⟩ := of_mem_addressLinks member
  have stop := stop_of_spells_inBrackets spells_autolink inLine
  rw [Link.pass, if_neg (by simp [style]), if_pos]
  rw [span, target, Place.span, stop, id, Nat.add_assoc]

theorem pass_of_mem_mailLinks
    (member : link ∈ place.addressLinks masked mailAutolink ("mailto:".toList ++ ·)) :
    link.pass = 2 := by
  obtain ⟨found, inLine, -, span, style, target⟩ := of_mem_addressLinks member
  have stop := stop_of_spells_inBrackets spells_mailAutolink inLine
  have length : link.target.length = found.value.length + 7 := by
    rw [target, List.length_append, Nat.add_comm]
    rfl
  have covered : link.span.stop = link.span.start + (found.value.length + 2) := by
    rw [span, Place.span, stop, Nat.add_assoc]
  rw [Link.pass, if_neg (by simp [style]), if_neg (by omega), if_pos (by omega)]

theorem pass_of_mem_bareLinks
    (member : link ∈ place.addressLinks masked bareAddress withScheme) :
    link.pass = 3 := by
  obtain ⟨found, inLine, -, span, style, target⟩ := of_mem_addressLinks member
  have isMatch := Pattern.isMatch_of_mem_findAll inLine
  have stop : found.stop = found.start + found.value.length := by
    obtain ⟨before, after, read, stop⟩ := isMatch.reads
    obtain ⟨equal, first, rest, value, -⟩ := bareAddress_eq_some read
    have lengths := congrArg List.length equal
    have nonempty := congrArg List.length value
    rw [List.length_drop, List.length_append] at lengths
    rw [List.length_cons] at nonempty
    omega
  have length : link.target.length = found.value.length ∨
      link.target.length = found.value.length + 7 := by
    rw [target, withScheme]
    split
    · right
      rw [List.length_append, Nat.add_comm]
      rfl
    · exact Or.inl rfl
  have covered : link.span.stop = link.span.start + found.value.length := by
    rw [span, Place.span, stop, Nat.add_assoc]
  rw [Link.pass, if_neg (by simp [style]), if_neg (by omega), if_neg (by omega)]

/-- Two addresses in brackets that are read at the same place are the same one. -/
theorem apart_of_mem_autolinks {mail : Link}
    (member : link ∈ place.addressLinks masked autolink id)
    (mailMember : mail ∈
      place.addressLinks masked mailAutolink ("mailto:".toList ++ ·)) :
    link.Apart mail := by
  obtain ⟨found, inLine, -, span, style, target⟩ := of_mem_addressLinks member
  obtain ⟨other, otherInLine, -, otherSpan, otherStyle, otherTarget⟩ :=
    of_mem_addressLinks mailMember
  by_cases together : found.start = other.start
  · right
    obtain ⟨_, after, read, -⟩ := (Pattern.isMatch_of_mem_findAll inLine).reads
    obtain ⟨_, rest, otherRead, -⟩ := (Pattern.isMatch_of_mem_findAll otherInLine).reads
    obtain ⟨equal, closed⟩ := autolink_eq_some read
    obtain ⟨otherEqual, otherClosed⟩ := mailAutolink_eq_some otherRead
    rw [together, otherEqual] at equal
    have same := eq_of_inBrackets closed otherClosed equal.symm
    have stop := stop_of_spells_inBrackets spells_autolink inLine
    have otherStop := stop_of_spells_inBrackets spells_mailAutolink otherInLine
    refine ⟨style, otherStyle, ?_, Or.inl ?_⟩
    · rw [span, otherSpan, Place.span, Place.span, stop, otherStop, together, same]
    · rw [otherTarget, target, same, id]
  · left
    rw [span, otherSpan]
    exact fun equal => together (Nat.add_left_cancel equal)

/-! ## One line as a whole -/

section

variable {has hasOther : Nat → Prop}

theorem StartsAt.ne (disjoint : ∀ index, has index → ¬ hasOther index) {one other : Nat}
    (here : place.StartsAt has one) (there : place.StartsAt hasOther other) :
    one ≠ other := by
  obtain ⟨index, starts, holds⟩ := here
  obtain ⟨otherIndex, otherStarts, holdsOther⟩ := there
  rintro rfl
  obtain rfl := Nat.add_left_cancel (starts.symm.trans otherStarts)
  exact disjoint index holds holdsOther

variable {pass otherPass : Nat} {other : Link}

theorem FindsIn.foundBefore (here : place.FindsIn pass has link)
    (there : place.FindsIn otherPass hasOther other) (earlier : pass < otherPass) :
    link.FoundBefore other :=
  Or.inr ⟨here.line.trans there.line.symm,
    Or.inl (by rw [here.pass, there.pass]; exact earlier)⟩

/-- Links of two passes that take different parts of the line are apart. -/
theorem FindsIn.apart_and_foundBefore (here : place.FindsIn pass has link)
    (there : place.FindsIn otherPass hasOther other) (earlier : pass < otherPass)
    (disjoint : ∀ index, has index → ¬ hasOther index) :
    link.Apart other ∧ link.FoundBefore other :=
  ⟨Or.inl (here.starts.ne disjoint there.starts), here.foundBefore there earlier⟩

/-- Links of one pass that are in order are apart, and found in that order. -/
theorem pairwise_of_findsIn {links : List Link}
    (finds : ∀ link ∈ links, place.FindsIn pass has link)
    (ordered : links.Pairwise fun first second =>
      first.span.start < second.span.start) :
    links.Pairwise fun first second => first.Apart second ∧ first.FoundBefore second := by
  refine ordered.imp_of_mem fun {first second} inFirst inSecond before => ?_
  have one := finds first inFirst
  have other := finds second inSecond
  exact ⟨Or.inl (Nat.ne_of_lt before), Or.inr ⟨one.line.trans other.line.symm,
    Or.inr ⟨one.pass.trans other.pass.symm, before⟩⟩⟩

end

theorem findsIn_of_mem_autolinks (member : link ∈ place.addressLinks masked autolink id) :
    place.FindsIn 1 (IsMatched masked (Pattern.findAll autolink masked)) link :=
  findsIn_of_mem_addressLinks (isSolid_of_spells_inBrackets spells_autolink) member
    (pass_of_mem_autolinks member)

theorem findsIn_of_mem_mailLinks
    (member : link ∈ place.addressLinks masked mailAutolink ("mailto:".toList ++ ·)) :
    place.FindsIn 2 (IsMatched masked (Pattern.findAll mailAutolink masked)) link :=
  findsIn_of_mem_addressLinks (isSolid_of_spells_inBrackets spells_mailAutolink) member
    (pass_of_mem_mailLinks member)

theorem findsIn_of_mem_bareLinks
    (member : link ∈ place.addressLinks masked bareAddress withScheme) :
    place.FindsIn 3 (IsMatched masked (Pattern.findAll bareAddress masked)) link :=
  findsIn_of_mem_addressLinks isSolid_bareAddress member (pass_of_mem_bareLinks member)

/-- The links of a line are apart, and listed in the order in which they are found. -/
theorem pairwise_links (place : Place) (masked : Text) :
    (place.elements masked).links.Pairwise fun first second =>
      first.Apart second ∧ first.FoundBefore second := by
  have unlinked {index : Nat} (shown : IsShown (unreferenced masked) index) :
      ¬ IsTaken (Pattern.findAll inlineLink masked) index :=
    shown.of_unreferenced.1.of_unlabelled.1.of_unlinked
  rw [links_elements]
  refine List.pairwise_append.mpr ⟨List.pairwise_append.mpr
    ⟨List.pairwise_append.mpr ⟨?_, ?_, ?_⟩, ?_, ?_⟩, ?_, ?_⟩
  · exact pairwise_of_findsIn (fun _ => findsIn_of_mem_shownLinks) pairwise_shownLinks
  · exact pairwise_of_findsIn (fun _ => findsIn_of_mem_autolinks) pairwise_addressLinks
  · intro link member other otherMember
    exact (findsIn_of_mem_shownLinks member).apart_and_foundBefore
      (findsIn_of_mem_autolinks otherMember) (by decide)
      fun _ taken matched => unlinked matched.1 taken
  · exact pairwise_of_findsIn (fun _ => findsIn_of_mem_mailLinks) pairwise_addressLinks
  · intro link member other otherMember
    have there := findsIn_of_mem_mailLinks otherMember
    rcases List.mem_append.mp member with inline | address
    · exact (findsIn_of_mem_shownLinks inline).apart_and_foundBefore there (by decide)
        fun _ taken matched => unlinked matched.1 taken
    -- Both passes search the same text, so only what they read tells links apart.
    · exact ⟨apart_of_mem_autolinks address otherMember,
        (findsIn_of_mem_autolinks address).foundBefore there (by decide)⟩
  · exact pairwise_of_findsIn (fun _ => findsIn_of_mem_bareLinks) pairwise_addressLinks
  · intro link member other otherMember
    have there := findsIn_of_mem_bareLinks otherMember
    rcases List.mem_append.mp member with member | mail
    · rcases List.mem_append.mp member with inline | address
      · exact (findsIn_of_mem_shownLinks inline).apart_and_foundBefore there (by decide)
          fun _ taken matched => unlinked matched.1.of_unaddressed.1 taken
      · exact (findsIn_of_mem_autolinks address).apart_and_foundBefore there (by decide)
          fun _ matched other => other.1.of_unaddressed.2.1 matched.2
    · exact (findsIn_of_mem_mailLinks mail).apart_and_foundBefore there (by decide)
        fun _ matched other => other.1.of_unaddressed.2.2 matched.2

/-- A link starts in what the inline links take, or where something is left behind
the references. -/
theorem startsAt_of_mem_links (member : link ∈ (place.elements masked).links) :
    place.StartsAt (fun index => IsTaken (Pattern.findAll inlineLink masked) index ∨
      IsShown (unreferenced masked) index) link.span.start := by
  rw [links_elements] at member
  rcases List.mem_append.mp member with member | bare
  · rcases List.mem_append.mp member with member | mail
    · rcases List.mem_append.mp member with inline | address
      · obtain ⟨index, starts, taken⟩ := (findsIn_of_mem_shownLinks inline).starts
        exact ⟨index, starts, Or.inl taken⟩
      · obtain ⟨index, starts, matched⟩ := (findsIn_of_mem_autolinks address).starts
        exact ⟨index, starts, Or.inr matched.1⟩
    · obtain ⟨index, starts, matched⟩ := (findsIn_of_mem_mailLinks mail).starts
      exact ⟨index, starts, Or.inr matched.1⟩
  · obtain ⟨index, starts, matched⟩ := (findsIn_of_mem_bareLinks bare).starts
    exact ⟨index, starts, Or.inr matched.1.of_unaddressed.1⟩

theorem startsAt_full {found : Found Written}
    (member : found ∈ Pattern.findAll fullReference (unlinked masked)) :
    place.StartsAt (IsMatched (unlinked masked)
      (Pattern.findAll fullReference (unlinked masked)))
      (place.reference found).span.start :=
  startsAt_span isSolid_fullReference (fun _ inLine => inLine) member

theorem startsAt_shortcut {found : Found Written} (member : found ∈ shortcuts masked) :
    place.StartsAt (IsMatched (unlabelled masked) (shortcuts masked))
      (place.reference found).span.start :=
  startsAt_span isSolid_shortcutReference (fun _ kept => (List.mem_filter.mp kept).1)
    member

theorem pending_elements (place : Place) (masked : Text) :
    (place.elements masked).pending =
      (Pattern.findAll fullReference (unlinked masked) ++ shortcuts masked).map
        place.reference :=
  rfl

/-- The references of a line start at different places. -/
theorem pairwise_pending (place : Place) (masked : Text) :
    (place.elements masked).pending.Pairwise fun first second =>
      first.span.start ≠ second.span.start := by
  have ordered {pattern : Pattern Written} {text : Text} {matches_ : List (Found Written)}
      (part : matches_.Sublist (Pattern.findAll pattern text)) :
      matches_.Pairwise fun first second =>
        (place.reference first).span.start ≠ (place.reference second).span.start := by
    refine ((Pattern.pairwise_findAll _ _).sublist part).imp_of_mem ?_
    intro one other member _ behind equal
    have proper := (Pattern.isMatch_of_mem_findAll (part.subset member)).lt_stop
    have same : one.start = other.start := Nat.add_left_cancel equal
    omega
  rw [pending_elements, List.pairwise_map]
  refine List.pairwise_append.mpr
    ⟨ordered (List.Sublist.refl _), ordered List.filter_sublist, ?_⟩
  intro full isFull shortcut isShortcut
  exact (startsAt_full isFull).ne
    (fun _ matched other => other.1.of_unlabelled.2 matched.2) (startsAt_shortcut isShortcut)

/-- No reference of a line starts where a link of it does. -/
theorem start_ne_of_mem_pending (member : link ∈ (place.elements masked).links)
    {reference : PendingReference}
    (inPending : reference ∈ (place.elements masked).pending) :
    link.span.start ≠ reference.span.start := by
  have starts := startsAt_of_mem_links member
  rw [pending_elements] at inPending
  obtain ⟨found, inLine, rfl⟩ := List.mem_map.mp inPending
  rcases List.mem_append.mp inLine with full | shortcut
  · refine starts.ne (fun _ either matched => ?_) (startsAt_full full)
    rcases either with taken | shown
    · exact matched.1.of_unlinked taken
    · exact shown.of_unreferenced.1.of_unlabelled.2 matched.2
  · refine starts.ne (fun _ either matched => ?_) (startsAt_shortcut shortcut)
    rcases either with taken | shown
    · exact matched.1.of_unlabelled.1.of_unlinked taken
    · exact shown.of_unreferenced.2 matched.2

end Place

end Inline

end AnchorLint
