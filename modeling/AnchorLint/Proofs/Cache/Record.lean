import AnchorLint.Cache.Decode
import AnchorLint.Proofs.Data.Json.Kind

/-!
# Records read back

The record of a document survives that it is written and read again: every field
comes back as it was, but for the text of the document, which is not kept, and
for the front matter and the configuration, whose values are what reads back of
them.
-/

namespace AnchorLint

namespace Cache

open Value (named)

/-! ## Lists of atoms -/

theorem mapM_eq_some {α β : Type} {compute : α → Option β} {result : α → β}
    {items : List α} (each : ∀ item ∈ items, compute item = some (result item)) :
    items.mapM compute = some (items.map result) := by
  induction items with
  | nil => rfl
  | cons item items ih =>
      obtain ⟨here, later⟩ := List.forall_mem_cons.mp each
      rw [List.mapM_cons, here, ih later]
      rfl

theorem each?_reread {α β : Type} {write : α → Value} {record : α → β}
    {read : List Value → Option β} (items : List α)
    (each : ∀ item, (parts? (write item).reread).bind read =
      some (record item)) :
    each? read (Value.list (items.map write)).reread =
      some (items.map record) := by
  have list : (Value.list (items.map write)).reread =
      .list (items.map fun item => (write item).reread) := by
    rw [Value.reread, Value.rereadItems_eq_map, List.map_map]
    rfl
  rw [list, each?]
  change ((items.map fun item => (write item).reread).mapM fun item =>
    (parts? item).bind read) = _
  rw [List.mapM_map]
  exact mapM_eq_some fun item _ => each item

@[simp]
theorem reread_ofNat (number : Nat) : (ofNat number).reread = ofNat number :=
  rfl

@[simp]
theorem reread_ofNat? (number : Option Nat) :
    (ofNat? number).reread = ofNat? number := by
  cases number <;> rfl

@[simp]
theorem reread_ofText? (text : Option Text) :
    (ofText? text).reread = ofText? text := by
  cases text <;> rfl

@[simp]
theorem reread_flag (truth : Bool) : (flag truth).reread = flag truth :=
  rfl

@[simp]
theorem isTruthy_flag (truth : Bool) : (flag truth).isTruthy = truth := by
  cases truth <;> rfl

@[simp]
theorem nat?_ofNat (number : Nat) : nat? (ofNat number) = some number := by
  simp [nat?, ofNat]

@[simp]
theorem text?_str (text : Text) : text? (.str text) = some text :=
  rfl

@[simp]
theorem orNull?_ofNat? (number : Option Nat) :
    orNull? nat? (ofNat? number) = some number := by
  cases number with
  | none => rfl
  | some number => exact congrArg (Option.map some) (nat?_ofNat number)

@[simp]
theorem orNull?_ofText? (text : Option Text) :
    orNull? text? (ofText? text) = some text := by
  cases text <;> rfl

@[simp]
theorem span?_ofNat (span : Span) :
    span? (ofNat span.start) (ofNat span.stop) = some span := by
  simp [span?]

/-! ## The parts of a record -/

theorem LineRecord.read?_reread (line : Line) :
    (parts? (LineRecord.ofLine line).toValue.reread).bind read? =
      some (.ofLine line) := by
  simp [toValue, ofLine, Value.reread, Value.rereadItems, parts?, read?]

theorem LineRecord.toLine?_ofLine (line : Line) :
    (LineRecord.ofLine line).toLine? = some line := by
  simp [toLine?, ofLine]

theorem CodeBlockRecord.read?_reread (block : CodeBlock) :
    (parts? (CodeBlockRecord.ofBlock block).toValue.reread).bind read? =
      some (.ofBlock block) := by
  simp [toValue, ofBlock, Value.reread, Value.rereadItems, parts?, read?]

theorem CodeBlockRecord.toBlock?_ofBlock (block : CodeBlock) :
    (CodeBlockRecord.ofBlock block).toBlock? = some block := by
  simp [toBlock?, ofBlock]

theorem HeadingRecord.read?_reread (heading : Heading) :
    (parts? (HeadingRecord.ofHeading heading).toValue.reread).bind read? =
      some (.ofHeading heading) := by
  simp [toValue, ofHeading, Value.reread, Value.rereadItems, parts?, read?]

theorem headingStyle?_name (style : HeadingStyle) :
    headingStyle? (.str style.name) = some style := by
  cases style <;> rfl

theorem HeadingRecord.toHeading?_ofHeading (heading : Heading) :
    (HeadingRecord.ofHeading heading).toHeading? = some heading := by
  simp [toHeading?, ofHeading, headingStyle?_name]

theorem HtmlAnchorRecord.read?_reread (anchor : HtmlAnchor) :
    (parts? (HtmlAnchorRecord.ofAnchor anchor).toValue.reread).bind read? =
      some (.ofAnchor anchor) := by
  simp [toValue, ofAnchor, Value.reread, Value.rereadItems, parts?, read?]

theorem HtmlAnchorRecord.toAnchor?_ofAnchor (anchor : HtmlAnchor) :
    (HtmlAnchorRecord.ofAnchor anchor).toAnchor? = some anchor := by
  simp [toAnchor?, ofAnchor]

theorem parse?_originName (origin : AnchorOrigin) :
    AnchorOrigin.parse? origin.name = some origin := by
  cases origin <;> rfl

theorem AnchorRecord.read?_reread (anchor : Anchor) :
    (parts? (AnchorRecord.ofAnchor anchor).toValue.reread).bind read? =
      some (.ofAnchor anchor) := by
  simp [toValue, ofAnchor, Value.reread, Value.rereadItems, parts?, read?,
    parse?_originName, isAtom, Value.isScalar]

theorem AnchorRecord.toAnchor?_ofAnchor (anchor : Anchor) :
    (AnchorRecord.ofAnchor anchor).toAnchor? = some anchor := by
  simp [toAnchor?, ofAnchor, bool?]

theorem FootnoteRecord.read?_reread (footnote : Footnote) :
    (parts? (FootnoteRecord.ofFootnote footnote).toValue.reread).bind read? =
      some (.ofFootnote footnote) := by
  simp [toValue, ofFootnote, Value.reread, Value.rereadItems, parts?, read?]

theorem FootnoteRecord.toFootnote?_ofFootnote (footnote : Footnote) :
    (FootnoteRecord.ofFootnote footnote).toFootnote? = some footnote := by
  simp [toFootnote?, ofFootnote]

theorem parse?_kindName (kind : LinkKind) :
    LinkKind.parse? kind.name = some kind := by
  cases kind <;> rfl

theorem LinkRecord.read?_reread (link : Link) :
    (parts? (LinkRecord.ofLink link).toValue.reread).bind read? =
      some (.ofLink link) := by
  simp [toValue, ofLink, Value.reread, Value.rereadItems, parts?, read?,
    parse?_kindName, Value.isTruthy]

theorem linkStyle?_name (style : LinkStyle) :
    linkStyle? (.str style.name) = some style := by
  cases style <;> rfl

theorem LinkRecord.toLink?_ofLink (link : Link) :
    (LinkRecord.ofLink link).toLink? = some link := by
  simp [toLink?, ofLink, linkStyle?_name]

theorem DefinitionRecord.read?_reread (definition : ReferenceDefinition) :
    (parts? (DefinitionRecord.ofDefinition definition).toValue.reread).bind
      read? = some (.ofDefinition definition) := by
  simp [toValue, ofDefinition, Value.reread, Value.rereadItems, parts?, read?]

theorem DefinitionRecord.toDefinition?_ofDefinition
    (definition : ReferenceDefinition) :
    (DefinitionRecord.ofDefinition definition).toDefinition? =
      some definition := by
  simp [toDefinition?, ofDefinition]

theorem parse?_sourceName (source : RegionSource) :
    RegionSource.parse? source.name = some source := by
  cases source <;> rfl

theorem RegionRecord.read?_reread (region : Region) :
    (parts? (RegionRecord.ofRegion region).toValue.reread).bind read? =
      some (.ofRegion region) := by
  simp [toValue, ofRegion, Value.reread, Value.rereadItems, parts?, read?,
    parse?_sourceName, isAtom, Value.isScalar]

theorem RegionRecord.toRegion?_ofRegion (region : Region) :
    (RegionRecord.ofRegion region).toRegion? = some region := by
  simp [toRegion?, ofRegion]

/-! ## Whole records -/

def Record.fields (record : Record) : Entries Text Value :=
  [ ("hash".toList, record.digest),
    ("lines".toList, .list (record.lines.map (·.toValue))),
    ("code_blocks".toList, .list (record.codeBlocks.map (·.toValue))),
    ("headings".toList, .list (record.headings.map (·.toValue))),
    ("html_anchors".toList, .list (record.htmlAnchors.map (·.toValue))),
    ("anchors".toList, .list (record.anchors.map (·.toValue))),
    ("footnote_refs".toList, .list (record.footnoteRefs.map (·.toValue))),
    ("footnote_defs".toList, .list (record.footnoteDefs.map (·.toValue))),
    ("links".toList, .list (record.links.map (·.toValue))),
    ("reference_definitions".toList, .map (named (record.definitions.map
      fun entry => (entry.1, entry.2.toValue)))),
    ("regions".toList, .list (record.regions.map (·.toValue))),
    ("front_matter".toList, .map record.frontMatter),
    ("front_matter_range".toList,
      match record.frontMatterSpan with
      | some (start, stop) => .list [start, stop]
      | none => .null),
    ("front_matter_error".toList, record.frontMatterError),
    ("file_config".toList, .map record.configuration) ]

theorem Record.toValue_eq (record : Record) :
    record.toValue = .map (named record.fields) := by
  have definitions : (record.definitions.map fun entry =>
        (Value.str entry.1, entry.2.toValue)) =
      named (record.definitions.map fun entry =>
        (entry.1, entry.2.toValue)) := by
    rw [named, List.map_map]
    rfl
  rw [toValue, definitions]
  rfl

theorem Record.nodup_fields (record : Record) : record.fields.keys.Nodup := by
  have names : record.fields.keys =
      ["hash", "lines", "code_blocks", "headings", "html_anchors", "anchors",
        "footnote_refs", "footnote_defs", "links", "reference_definitions",
        "regions", "front_matter", "front_matter_range", "front_matter_error",
        "file_config"].map String.toList := rfl
  rw [names]
  decide

theorem Record.field?_reread (record : Record) (name : String) :
    record.toValue.reread.field? name =
      (record.fields.lookup name.toList).map Value.reread := by
  rw [toValue_eq, Value.reread_named record.nodup_fields, Value.field?_named]
  exact Entries.lookup_map_value record.fields (fun _ => Value.reread) _

theorem entries?_map (entries : List (Value × Value)) :
    entries? (.map entries) = some entries := by
  cases entries <;> rfl

theorem textEntries?_named (entries : Entries Text Value) :
    textEntries? (.map (named entries)) = some entries := by
  have each : ∀ entry ∈ entries, (fun entry : Value × Value =>
      (text? entry.1).map fun key => (key, entry.2))
        (.str entry.1, entry.2) = some entry := fun _ _ => rfl
  rw [textEntries?, named, List.mapM_map]
  exact (mapM_eq_some each).trans (congrArg some (List.map_id _))

theorem textEntries?_reread {entries : Entries Text Value}
    (nodup : entries.keys.Nodup) :
    textEntries? (Value.map (named entries)).reread =
      some (entries.map fun entry => (entry.1, entry.2.reread)) := by
  rw [Value.reread_named nodup, textEntries?_named]

theorem spanOf?_reread (span : Option Span) :
    spanOf? (match span.map fun span : Span =>
        (ofNat span.start, ofNat span.stop) with
      | some (start, stop) => Value.list [start, stop]
      | none => Value.null).reread =
      some (span.map fun span => (ofNat span.start, ofNat span.stop)) := by
  cases span <;> rfl

end Cache

theorem FrontMatterError.text_ofText (text : Text) :
    (ofText text).text = text := by
  unfold ofText
  split
  · rename_i same
    exact same.symm
  · rfl

/-- A document as it reads back from a cache file. -/
def Document.reread (document : Document) : Document :=
  { document with
    text := []
    frontMatter := Value.rereadEntries [] document.frontMatter
    frontMatterError := document.frontMatterError.map fun error =>
      .ofText error.text
    configuration := document.configuration.map fun entry =>
      (entry.1, entry.2.reread) }

namespace Cache

open Value (named)

variable {document : Document}

theorem bind_of_eq {α β : Type} {first : Option α} {next : α → Option β}
    {middle : α} {result : β} (found : first = some middle)
    (later : next middle = some result) : first >>= next = some result := by
  rw [found]
  exact later

theorem Record.ofValue?_reread (definitions : document.definitions.keys.Nodup)
    (configuration : document.configuration.keys.Nodup) :
    Record.ofValue? (Record.ofDocument document).toValue.reread =
      some (.ofDocument document.reread) := by
  have field (name : String) (content : Value)
      (held : (Record.ofDocument document).fields.lookup name.toList =
        some content) :
      (Record.ofDocument document).toValue.reread.field? name =
        some content.reread := by
    rw [field?_reread, held]
    rfl
  have list {α β : Type} {items : List α} {record : α → β} {write : β → Value}
      {read : List Value → Option β}
      (each : ∀ item, (parts? (write (record item)).reread).bind read =
        some (record item)) :
      each? read (Value.list ((items.map record).map write)).reread =
        some (items.map record) := by
    rw [List.map_map]
    exact each?_reread items each
  have definitionRecords : List.mapM (fun entry : Text × Value => do
      return (entry.1, ← DefinitionRecord.read? (← parts? entry.2)))
        ((((document.definitions.map fun entry =>
            (entry.1, DefinitionRecord.ofDefinition entry.2)).map
          fun entry => (entry.1, entry.2.toValue))).map
            fun entry => (entry.1, entry.2.reread)) =
      some (document.definitions.map fun entry =>
        (entry.1, DefinitionRecord.ofDefinition entry.2)) := by
    rw [List.map_map, List.map_map, List.mapM_map]
    refine mapM_eq_some fun entry _ => ?_
    obtain ⟨parts, found, read⟩ := Option.bind_eq_some_iff.mp
      (DefinitionRecord.read?_reread entry.2)
    exact bind_of_eq found (bind_of_eq read rfl)
  have settings : entries? (Value.map (named document.configuration)).reread =
      some (named document.reread.configuration) := by
    rw [Value.reread_named configuration, entries?_map]
    rfl
  refine bind_of_eq (field "front_matter_range" _ rfl) ?_
  refine bind_of_eq (spanOf?_reread document.frontMatterSpan) ?_
  refine bind_of_eq (field "reference_definitions" _ rfl) ?_
  refine bind_of_eq (textEntries?_reread ?_) ?_
  · simpa only [ofDocument, Entries.keys_map_value] using definitions
  refine bind_of_eq (field "hash" _ rfl) ?_
  refine bind_of_eq (field "lines" _ rfl) ?_
  refine bind_of_eq (list LineRecord.read?_reread) ?_
  refine bind_of_eq (field "code_blocks" _ rfl) ?_
  refine bind_of_eq (list CodeBlockRecord.read?_reread) ?_
  refine bind_of_eq (field "headings" _ rfl) ?_
  refine bind_of_eq (list HeadingRecord.read?_reread) ?_
  refine bind_of_eq (field "html_anchors" _ rfl) ?_
  refine bind_of_eq (list HtmlAnchorRecord.read?_reread) ?_
  refine bind_of_eq (field "anchors" _ rfl) ?_
  refine bind_of_eq (list AnchorRecord.read?_reread) ?_
  refine bind_of_eq (field "footnote_refs" _ rfl) ?_
  refine bind_of_eq (list FootnoteRecord.read?_reread) ?_
  refine bind_of_eq (field "footnote_defs" _ rfl) ?_
  refine bind_of_eq (list FootnoteRecord.read?_reread) ?_
  refine bind_of_eq (field "links" _ rfl) ?_
  refine bind_of_eq (list LinkRecord.read?_reread) ?_
  refine bind_of_eq definitionRecords ?_
  refine bind_of_eq (field "regions" _ rfl) ?_
  refine bind_of_eq (list RegionRecord.read?_reread) ?_
  rw [field "front_matter" _ rfl, field "front_matter_error" _ rfl,
    field "file_config" _ rfl]
  refine bind_of_eq (entries?_map _) ?_
  refine bind_of_eq settings ?_
  have error : document.frontMatterError.map FrontMatterError.text =
      document.reread.frontMatterError.map FrontMatterError.text := by
    simp only [Document.reread, Option.map_map, Function.comp_def,
      FrontMatterError.text_ofText]
  simp only [Option.getD_some, ofDocument, reread_ofText?, error]
  rfl

theorem Record.toDocument?_reread (document : Document) :
    (Record.ofDocument document.reread).toDocument? =
      some document.reread := by
  have list {α β : Type} {items : List α} {record : α → β}
      {make : β → Option α}
      (each : ∀ item, make (record item) = some item) :
      (items.map record).mapM make = some items := by
    rw [List.mapM_map]
    exact (mapM_eq_some fun item _ => each item).trans
      (congrArg some (List.map_id items))
  have span : spanBetween? (document.frontMatterSpan.map fun span =>
      (ofNat span.start, ofNat span.stop)) = some document.frontMatterSpan := by
    cases document.frontMatterSpan with
    | none => rfl
    | some span => exact congrArg (Option.map some) (span?_ofNat span)
  refine bind_of_eq span ?_
  refine bind_of_eq (orNull?_ofText? _) ?_
  refine bind_of_eq (list LineRecord.toLine?_ofLine) ?_
  refine bind_of_eq (list CodeBlockRecord.toBlock?_ofBlock) ?_
  refine bind_of_eq (list HeadingRecord.toHeading?_ofHeading) ?_
  refine bind_of_eq (list HtmlAnchorRecord.toAnchor?_ofAnchor) ?_
  refine bind_of_eq (list AnchorRecord.toAnchor?_ofAnchor) ?_
  refine bind_of_eq (list FootnoteRecord.toFootnote?_ofFootnote) ?_
  refine bind_of_eq (list FootnoteRecord.toFootnote?_ofFootnote) ?_
  refine bind_of_eq (list LinkRecord.toLink?_ofLink) ?_
  refine bind_of_eq (list fun entry => ?_) ?_
  · exact congrArg (Option.map _)
      (DefinitionRecord.toDefinition?_ofDefinition entry.2)
  refine bind_of_eq (list RegionRecord.toRegion?_ofRegion) ?_
  refine bind_of_eq (list fun entry => rfl) ?_
  refine bind_of_eq rfl ?_
  have error : (document.reread.frontMatterError.map
      FrontMatterError.text).map FrontMatterError.ofText =
        document.reread.frontMatterError := by
    simp only [Document.reread, Option.map_map, Function.comp_def,
      FrontMatterError.text_ofText]
  rw [error]
  rfl

end Cache

end AnchorLint
