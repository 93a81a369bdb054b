import AnchorLint.Proofs.Anchor.Alphabet
import AnchorLint.Proofs.Document.Naming
import AnchorLint.Proofs.Text.Percent

/-!
# Looking up anchors

A fragment can be asked for in two ways: whether it resolves, which is looked up in
the list of all anchors, and which heading it names, which is looked up in the
headings.  Both agree, but for the identifiers of tags.  The anchor of a heading is
in lower case and free of percent signs, so it leads to its heading, unless an
earlier heading has taken it as its own, and it resolves however it is escaped and
in whatever case its letters are written.
-/

namespace AnchorLint

namespace Document

/-! ## The characters of anchors -/

/-- What is known of every character of an anchor. -/
def IsAnchorCharacter (character : Char) : Prop :=
  Text.IsLowerCase character ∧ character ≠ '%'

theorem isAnchorCharacter_of_isDigit {character : Char} (digit : character.isDigit = true) :
    IsAnchorCharacter character := by
  have small : character.toNat < 128 := by
    simp only [Char.isDigit, Bool.and_eq_true, decide_eq_true_eq] at digit
    exact Nat.lt_of_le_of_lt digit.2 (by decide)
  exact Text.forall_ascii (motive := fun character =>
    character.isDigit = true →
      Text.IsLowerCase character ∧ character ≠ '%') (by decide) small digit

theorem isAnchorCharacter_of_mem_generate {dialect : Dialect} {heading : Text}
    {character : Char} (member : character ∈ Anchor.generate dialect heading) :
    IsAnchorCharacter character := by
  rcases Anchor.mem_generate member with rfl | ⟨inside, kept⟩
  · exact ⟨by decide, by decide⟩
  · refine ⟨Text.isLowerCase_of_mem_lower inside, ?_⟩
    rintro rfl
    cases dialect <;> revert kept <;> decide

/-- A name is made of the characters of the text that it is given to, hyphens and
digits. -/
theorem NextName.forall_mem {motive : Char → Prop} {given : List Text}
    {base name : Text} (next : NextName given base name) (hyphen : motive '-')
    (digits : ∀ digit, digit.isDigit = true → motive digit)
    (each : ∀ character ∈ base, motive character) :
    ∀ character ∈ name, motive character := by
  cases next with
  | empty => exact each
  | free => exact each
  | numbered =>
      intro character member
      rcases List.mem_append.mp member with inBase | inNumber
      · exact each character inBase
      rcases List.mem_cons.mp inNumber with rfl | inDigits
      · exact hyphen
      · exact digits character (Text.isNumeral_ofNat _ character inDigits)

theorem NamedAfter.forall_mem {motive : Char → Prop}
    {given bases names : List Text} (named : NamedAfter given bases names)
    (hyphen : motive '-')
    (digits : ∀ digit, digit.isDigit = true → motive digit)
    (each : ∀ base ∈ bases, ∀ character ∈ base, motive character) :
    ∀ name ∈ names, ∀ character ∈ name, motive character := by
  induction named with
  | nil => simp
  | cons next _ ih =>
      rw [List.forall_mem_cons] at each ⊢
      exact ⟨next.forall_mem hyphen digits each.1, ih each.2⟩

section Indexed

variable {dialect : Dialect} {text : Text} {document : Document}

theorem namedAfter_of_index (indexed : index dialect text = .ok document) :
    NamedAfter []
      ((drafts text).map fun draft => Anchor.generate dialect draft.source)
      (document.headings.map Heading.autoAnchor) := by
  obtain ⟨frontMatter, -, -, rfl⟩ := exists_of_index indexed
  refine namedAfter_nameHeadings dialect ⟨by simp, ?_⟩ (drafts text)
  intro base number positive known
  exact absurd positive (Nat.not_le_of_lt (Nat.lt_succ_of_le known))

theorem isAnchorCharacter_of_mem_autoAnchor (indexed : index dialect text = .ok document)
    {heading : Heading} (member : heading ∈ document.headings) :
    ∀ character ∈ heading.autoAnchor, IsAnchorCharacter character := by
  refine (namedAfter_of_index indexed).forall_mem ⟨by decide, by decide⟩
    (fun _ => isAnchorCharacter_of_isDigit) ?_ heading.autoAnchor
    (List.mem_map_of_mem member)
  intro base isBase
  obtain ⟨draft, -, rfl⟩ := List.mem_map.mp isBase
  exact fun _ => isAnchorCharacter_of_mem_generate

theorem lower_autoAnchor (indexed : index dialect text = .ok document)
    {heading : Heading} (member : heading ∈ document.headings) :
    Text.lower heading.autoAnchor = heading.autoAnchor :=
  Text.lower_eq_self fun character inside =>
    (isAnchorCharacter_of_mem_autoAnchor indexed member character inside).1

theorem percent_not_mem_autoAnchor (indexed : index dialect text = .ok document)
    {heading : Heading} (member : heading ∈ document.headings) :
    '%' ∉ heading.autoAnchor := fun inside =>
  (isAnchorCharacter_of_mem_autoAnchor indexed member '%' inside).2 rfl

theorem nodup_autoAnchors (indexed : index dialect text = .ok document) :
    ((document.headings.map Heading.autoAnchor).filter (· ≠ [])).Nodup :=
  (namedAfter_of_index indexed).nodup List.nodup_nil

end Indexed

/-! ## The list of all anchors -/

theorem mem_allAnchors {headings : List Heading} {tags : List HtmlAnchor}
    {anchor : Anchor} :
    anchor ∈ allAnchors headings tags ↔
      (∃ heading ∈ headings, anchor ∈ headingAnchors heading) ∨
        ∃ tag ∈ tags, anchor = ⟨tag.id, true, .html, tag.line⟩ := by
  simp [allAnchors, List.mem_mergeSort, eq_comm]

/-- Whether a decoded fragment names an anchor. -/
def Names (fragment : Text) (anchor : Anchor) : Prop :=
  if anchor.caseSensitive then anchor.value = fragment
  else Text.lower anchor.value = Text.lower fragment

theorem hasAnchor_eq_true_iff {document : Document} {fragment : Text} :
    document.hasAnchor fragment = true ↔
      ∃ anchor ∈ document.anchors,
        Names (Percent.decodeFragment fragment) anchor := by
  rw [hasAnchor, Bool.or_eq_true, List.any_eq_true, List.any_eq_true, ← exists_or]
  refine exists_congr fun anchor => ?_
  rw [← and_or_left, Names]
  refine and_congr_right fun _ => ?_
  cases anchor.caseSensitive <;> simp

/-- A heading goes by a fragment if one of its anchors does. -/
theorem answersTo_iff {fragment : Text} {heading : Heading} :
    answersTo fragment heading = true ↔
      ∃ anchor ∈ headingAnchors heading, Names fragment anchor := by
  have custom : (∃ anchor ∈ heading.customAnchor.toList.map fun id =>
      (⟨id, true, .custom, heading.line⟩ : Anchor), Names fragment anchor) ↔
      heading.customAnchor = some fragment := by
    cases heading.customAnchor <;> simp [Names]
  rw [answersTo, headingAnchors]
  simp only [List.mem_append, or_and_right, exists_or, custom]
  cases heading.autoAnchor <;> simp [Names]

/-- A fragment resolves if a heading goes by it or a tag has it as identifier. -/
theorem hasAnchor_iff {document : Document}
    (listed : document.anchors =
      allAnchors document.headings document.htmlAnchors) (fragment : Text) :
    document.hasAnchor fragment = true ↔
      (document.headingByAnchor? fragment).isSome = true ∨
        ∃ tag ∈ document.htmlAnchors,
          Percent.decodeFragment fragment = tag.id := by
  rw [hasAnchor_eq_true_iff, listed, headingByAnchor?, List.find?_isSome]
  constructor
  · rintro ⟨anchor, member, names⟩
    rcases mem_allAnchors.mp member with
      ⟨heading, isHeading, own⟩ | ⟨tag, isTag, rfl⟩
    · exact Or.inl ⟨heading, isHeading, answersTo_iff.mpr ⟨anchor, own, names⟩⟩
    · exact Or.inr ⟨tag, isTag, names.symm⟩
  · rintro (⟨heading, isHeading, answers⟩ | ⟨tag, isTag, same⟩)
    · obtain ⟨anchor, own, names⟩ := answersTo_iff.mp answers
      exact ⟨anchor, mem_allAnchors.mpr (Or.inl ⟨heading, isHeading, own⟩), names⟩
    · exact ⟨_, mem_allAnchors.mpr (Or.inr ⟨tag, isTag, rfl⟩), same.symm⟩

/-! ## Headings by their anchors -/

variable {dialect : Dialect} {text : Text} {document : Document}

theorem anchors_of_index (indexed : index dialect text = .ok document) :
    document.anchors = allAnchors document.headings document.htmlAnchors := by
  obtain ⟨frontMatter, -, -, rfl⟩ := exists_of_index indexed
  rfl

theorem headingByAnchor?_autoAnchor (indexed : index dialect text = .ok document)
    {heading : Heading} (member : heading ∈ document.headings) :
    document.headingByAnchor? heading.autoAnchor =
      document.headings.find? (answersTo heading.autoAnchor) := by
  rw [headingByAnchor?,
    Percent.decodeFragment_of_free (percent_not_mem_autoAnchor indexed member)]

theorem answersTo_autoAnchor {heading : Heading}
    (visible : heading.autoAnchor ≠ []) :
    answersTo heading.autoAnchor heading = true := by
  simp [answersTo, visible]

/-- No two headings have the same anchor. -/
theorem autoAnchor_ne_of_earlier (indexed : index dialect text = .ok document)
    {before after : List Heading} {heading earlier : Heading}
    (parts : document.headings = before ++ heading :: after)
    (visible : heading.autoAnchor ≠ []) (isEarlier : earlier ∈ before) :
    earlier.autoAnchor ≠ heading.autoAnchor := by
  intro same
  have nodup := nodup_autoAnchors indexed
  rw [parts, List.map_append, List.map_cons, List.filter_append,
    List.filter_cons_of_pos (by simpa using visible)] at nodup
  refine (List.nodup_append.mp nodup).2.2 heading.autoAnchor ?_ _
    List.mem_cons_self rfl
  exact List.mem_filter.mpr
    ⟨same ▸ List.mem_map_of_mem isEarlier, by simpa using visible⟩

/-- Headings before a heading go by its anchor only if they were given it as their
own. -/
theorem answersTo_earlier (indexed : index dialect text = .ok document)
    {before after : List Heading} {heading earlier : Heading}
    (parts : document.headings = before ++ heading :: after)
    (visible : heading.autoAnchor ≠ []) (isEarlier : earlier ∈ before) :
    answersTo heading.autoAnchor earlier = true ↔
      earlier.customAnchor = some heading.autoAnchor := by
  have different := autoAnchor_ne_of_earlier indexed parts visible isEarlier
  have own : earlier ∈ document.headings := by simp [parts, isEarlier]
  have given : heading ∈ document.headings := by simp [parts]
  simp [answersTo, lower_autoAnchor indexed own, lower_autoAnchor indexed given,
    different]

/-- Both ways of looking up a fragment agree: it resolves if and only if it names a
heading or is the identifier of a tag.  And the anchor of a heading names that
heading, unless an earlier heading was given this very anchor as its own. -/
theorem lookups_agree (indexed : index dialect text = .ok document) :
    (∀ fragment, document.hasAnchor fragment = true ↔
      (document.headingByAnchor? fragment).isSome = true ∨
        ∃ tag ∈ document.htmlAnchors,
          Percent.decodeFragment fragment = tag.id) ∧
    ∀ before heading after,
      document.headings = before ++ heading :: after →
      heading.autoAnchor ≠ [] →
      (document.headingByAnchor? heading.autoAnchor = some heading ↔
        ∀ earlier ∈ before,
          earlier.customAnchor ≠ some heading.autoAnchor) := by
  refine ⟨hasAnchor_iff (anchors_of_index indexed), ?_⟩
  intro before heading after parts visible
  have member : heading ∈ document.headings := by simp [parts]
  have earlierAnswers {earlier : Heading} (isEarlier : earlier ∈ before) :=
    answersTo_earlier indexed parts visible isEarlier
  rw [headingByAnchor?_autoAnchor indexed member, parts, List.find?_append]
  cases found : before.find? (answersTo heading.autoAnchor) with
  | none =>
      have noneAnswers := List.find?_eq_none.mp found
      simp only [Option.none_or, List.find?_cons_of_pos
        (answersTo_autoAnchor visible), true_iff]
      intro earlier isEarlier taken
      exact noneAnswers earlier isEarlier ((earlierAnswers isEarlier).mpr taken)
  | some earlier =>
      have isEarlier := List.mem_of_find?_eq_some found
      have taken := (earlierAnswers isEarlier).mp (List.find?_some found)
      have different := autoAnchor_ne_of_earlier indexed parts visible isEarlier
      constructor
      · intro same
        exact absurd (congrArg Heading.autoAnchor (Option.some.inj same)) different
      · intro free
        exact absurd taken (free earlier isEarlier)

/-- The second heading is not found by its anchor, which the first one was given as
its own. -/
theorem lookups_agree_taken :
    ∃ document first second,
      index .github "# A \x7b#b\x7d\n# B\n<a id='c'></a>\n".toList = .ok document ∧
        document.headings = [first, second] ∧ second.autoAnchor = ['b'] ∧
        document.headingByAnchor? first.autoAnchor = some first ∧
        document.headingByAnchor? second.autoAnchor ≠ some second ∧
        document.hasAnchor "%63".toList = true := by
  have found : (index .github
      "# A \x7b#b\x7d\n# B\n<a id='c'></a>\n".toList).toOption.any
      (fun document =>
        document.headings.map (fun heading =>
            (heading.autoAnchor, heading.customAnchor)) ==
          [(['a'], some ['b']), (['b'], none)] &&
        document.htmlAnchors.map HtmlAnchor.id == [['c']]) = true := by
    decide +kernel
  obtain ⟨document, indexed, checked⟩ := (Option.any_eq_true _ _).mp found
  have indexed := Outcome.toOption_eq_some.mp indexed
  rw [Bool.and_eq_true, beq_iff_eq, beq_iff_eq] at checked
  obtain ⟨anchors, ids⟩ := checked
  obtain ⟨first, others, headings, firstAnchors, anchors⟩ :=
    List.map_eq_cons_iff.mp anchors
  obtain ⟨second, none_, rfl, secondAnchors, nothing⟩ :=
    List.map_eq_cons_iff.mp anchors
  obtain rfl := List.map_eq_nil_iff.mp nothing
  obtain ⟨tag, tags, htmlAnchors, id, -⟩ := List.map_eq_cons_iff.mp ids
  obtain ⟨firstAuto, firstCustom⟩ := Prod.mk.inj firstAnchors
  obtain ⟨secondAuto, -⟩ := Prod.mk.inj secondAnchors
  obtain ⟨resolves, byAnchor⟩ := lookups_agree indexed
  refine ⟨document, first, second, indexed, headings, secondAuto, ?_, ?_, ?_⟩
  · exact (byAnchor [] first [second] headings (by simp [firstAuto])).mpr (by simp)
  · intro same
    have free := (byAnchor [first] second [] headings (by simp [secondAuto])).mp same
    exact free first List.mem_cons_self (by rw [firstCustom, secondAuto])
  · exact (resolves _).mpr (Or.inr ⟨tag, by simp [htmlAnchors], by rw [id]; decide⟩)

/-- A heading's anchor resolves however it is written. -/
theorem hasAnchor_of_spelling (indexed : index dialect text = .ok document)
    {heading : Heading} (member : heading ∈ document.headings)
    (visible : heading.autoAnchor ≠ []) {recased fragment : Text}
    (same : List.Forall₂ (fun character spelled =>
      character.toLower = spelled.toLower) heading.autoAnchor recased)
    (spells : Percent.Spells fragment recased) :
    document.hasAnchor fragment = true := by
  have plain := isAnchorCharacter_of_mem_autoAnchor indexed member
  have lowered (character : Char) (inside : character ∈ heading.autoAnchor) :=
    (plain character inside).1
  have free : '%' ∉ recased := fun inside =>
    percent_not_mem_autoAnchor indexed member
      (Text.toLower_mem_of_forall₂ lowered same '%' inside)
  refine hasAnchor_eq_true_iff.mpr
    ⟨⟨heading.autoAnchor, false, .heading, heading.line⟩, ?_, ?_⟩
  · rw [anchors_of_index indexed, mem_allAnchors]
    exact Or.inl ⟨heading, member, by simp [headingAnchors, visible]⟩
  · rw [Percent.decodeFragment_of_spells spells free]
    exact (Text.lower_eq_self lowered).trans
      (Text.lower_of_forall₂ lowered same).symm

/-- Letters in capitals, some of them escaped, and one as two bytes. -/
theorem hasAnchor_of_spelling_capitals :
    ∃ document, index .github "# Über K\n".toList = .ok document ∧
      document.hasAnchor "%c3%BCB%45R-K".toList = true := by
  have found : (index .github "# Über K\n".toList).toOption.any
      (fun document =>
        document.headings.map Heading.autoAnchor == ["über-k".toList]) = true := by
    decide +kernel
  obtain ⟨document, indexed, anchors⟩ := (Option.any_eq_true _ _).mp found
  have indexed := Outcome.toOption_eq_some.mp indexed
  obtain ⟨heading, others, headings, anchor, -⟩ :=
    List.map_eq_cons_iff.mp (beq_iff_eq.mp anchors)
  have first : Percent.IsEscape 0xC3 "%c3".toList :=
    ⟨'c', '3', 12, 3, rfl, rfl, rfl, rfl⟩
  have second : Percent.IsEscape 0xBC "%BC".toList :=
    ⟨'B', 'C', 11, 12, rfl, rfl, rfl, rfl⟩
  have letter : Percent.IsEscape 0x45 "%45".toList :=
    ⟨'4', '5', 4, 5, rfl, rfl, rfl, rfl⟩
  have inner : Percent.Spells "B%45R-K".toList "BER-K".toList :=
    .plain (@Percent.Spells.escaped 'E' ["%45".toList] _ _
      (.cons letter .nil) (Percent.spells_self "R-K".toList))
  have spells : Percent.Spells "%c3%BCB%45R-K".toList "üBER-K".toList :=
    @Percent.Spells.escaped 'ü' ["%c3".toList, "%BC".toList] _ _
      (.cons first (.cons second .nil)) inner
  have same : List.Forall₂ (fun character spelled =>
      character.toLower = spelled.toLower)
      heading.autoAnchor "üBER-K".toList := by
    rw [anchor]
    decide
  have member : heading ∈ document.headings := by simp [headings]
  have visible : heading.autoAnchor ≠ [] := by simp [anchor]
  exact ⟨document, indexed,
    hasAnchor_of_spelling indexed member visible same spells⟩

end Document

end AnchorLint
