import AnchorLint.Lint.Rules
import AnchorLint.Proofs.Cache.Record
import AnchorLint.Proofs.Document.Harvest
import AnchorLint.Proofs.Rule.Replay

/-!
# Documents that have been kept

A document that comes back from a cache file lacks its text, and the values of
its front matter and its configuration may have changed their kind.  No rule looks
at the text or the front matter, and of the configuration the rules ask only
which options are true.  So whatever is asked about a document, one that has been
kept gives the same answer.
-/

namespace AnchorLint

namespace Value

theorem IsJson.reread {value : Value} (isJson : value.IsJson) :
    value.reread.IsJson := by
  induction isJson with
  | null => exact .null
  | bool value => exact .bool value
  | int value => exact .int value
  | str value => exact .str value
  | @float number _ =>
      have written : Json.compact.write (.float number) =
          .ok (Json.numberLayout.write number) := rfl
      exact Json.isJson_of_read (Json.read_write written)
  | @list items _ each =>
      rw [Value.reread, rereadItems_eq_map]
      refine .list fun item member => ?_
      obtain ⟨old, inItems, rfl⟩ := List.mem_map.mp member
      exact each old inItems
  | @map entries nodup _ each =>
      rw [reread_named nodup]
      refine .map (by rwa [Entries.keys_map_value]) fun entry member => ?_
      obtain ⟨old, inEntries, rfl⟩ := List.mem_map.mp member
      exact each old inEntries

end Value

/-! ## Configurations -/

/-- Whether a configuration gives each rule one value, as JSON knows them. -/
structure IsConfiguration (configuration : Entries Text Value) : Prop where
  nodup : configuration.keys.Nodup
  isJson : ∀ entry ∈ configuration, entry.2.IsJson

namespace IsConfiguration

variable {configuration : Entries Text Value}

theorem put (isConfiguration : IsConfiguration configuration) (key : Text)
    {value : Value} (isJson : value.IsJson) :
    IsConfiguration (configuration.put key value) where
  nodup := Entries.nodup_keys_put isConfiguration.nodup key value
  isJson := Entries.forall_mem_put isConfiguration.isJson isJson key

theorem foldl_put (isConfiguration : IsConfiguration configuration)
    (key : Value → Text) {contents : List (Value × Value)}
    (each : ∀ entry ∈ contents, entry.2.IsJson) :
    IsConfiguration (contents.foldl (fun known entry =>
      known.put (key entry.1) entry.2) configuration) := by
  induction contents generalizing configuration with
  | nil => exact isConfiguration
  | cons entry contents ih =>
      obtain ⟨here, later⟩ := List.forall_mem_cons.mp each
      exact ih (isConfiguration.put (key entry.1) here) later

theorem reread (isConfiguration : IsConfiguration configuration) :
    IsConfiguration (configuration.map fun entry =>
      (entry.1, entry.2.reread)) where
  nodup := by
    rw [Entries.keys_map_value]
    exact isConfiguration.nodup
  isJson := by
    intro entry member
    obtain ⟨old, inOld, rfl⟩ := List.mem_map.mp member
    exact (isConfiguration.isJson old inOld).reread

end IsConfiguration

namespace Replay

theorem isConfiguration_configure {replay : Replay}
    (before : IsConfiguration replay.configuration) (payload : Text) :
    IsConfiguration (replay.configure payload).configuration := by
  unfold configure
  split
  · exact before
  · split
    · exact before
    · exact before
    · rename_i contents read
      cases Json.isJson_of_read read with
      | @map entries _ each =>
          refine before.foldl_put (fun key => Rule.normalize key.display) ?_
          intro entry member
          obtain ⟨named, inEntries, rfl⟩ := List.mem_map.mp member
          exact each named inEntries
    · exact before

theorem isConfiguration_feed {replay : Replay}
    (before : IsConfiguration replay.configuration) (line : Nat)
    (directive : Directive) :
    IsConfiguration (replay.feed line directive).configuration := by
  unfold feed
  cases directive.action with
  | disable => simpa only [configuration_moveTo] using before
  | enable => simpa only [configuration_moveTo] using before
  | capture => exact before
  | restore =>
      dsimp only
      split <;> simpa only [configuration_moveTo] using before
  | disableLine => exact before
  | disableNextLine => exact before
  | disableFile => exact before
  | enableFile => exact before
  | configureFile => exact isConfiguration_configure before _

end Replay

/-! ## Documents -/

namespace Document

/-- Whether the labels of definitions and the rules of the configuration stand
there once. -/
structure IsTidy (document : Document) : Prop where
  definitions : document.definitions.keys.Nodup
  configuration : IsConfiguration document.configuration

end Document

namespace Scan

/-- Whether what a scan records by name stands there once. -/
def IsTidy (harvest : Harvest) : Prop :=
  harvest.definitions.keys.Nodup ∧
    IsConfiguration harvest.replay.configuration

theorem keeps_isTidy : Keeps IsTidy where
  addLine _ _ _ _ tidy := tidy
  addCodeBlock _ _ tidy := tidy
  addHeading _ _ tidy := tidy
  nameHeading harvest custom tidy := by
    unfold Harvest.nameHeading
    repeat' split
    all_goals exact tidy
  addDefinition harvest line definition tidy := by
    refine ⟨?_, tidy.2⟩
    unfold Harvest.addDefinition
    dsimp only
    unfold Entries.putNew
    split
    · exact tidy.1
    · rename_i missing
      rw [Entries.isSome_lookup_iff] at missing
      rw [← Entries.put_of_not_mem missing]
      exact Entries.nodup_keys_put tidy.1 _ _
  addFootnote _ _ tidy := tidy
  addElements _ _ _ tidy := tidy
  addComment harvest comment tidy := by
    unfold Harvest.addComment
    split
    · exact ⟨tidy.1, Replay.isConfiguration_feed tidy.2 _ _⟩
    · exact tidy

end Scan

namespace Document

theorem isTidy_of_index {dialect : Dialect} {text : Text} {document : Document}
    (indexed : index dialect text = .ok document) : document.IsTidy := by
  have scanned := Scan.keeps_isTidy.run
    ⟨List.nodup_nil, ⟨List.nodup_nil, by simp⟩⟩
  have isFrom := isFrom_of_index indexed
  refine ⟨?_, ?_⟩
  · rw [isFrom.definitions]
    exact (scanned _ _ _).1
  · rw [isFrom.configuration]
    exact (scanned _ _ _).2

theorem IsTidy.reread {document : Document} (tidy : document.IsTidy) :
    document.reread.IsTidy where
  definitions := tidy.definitions
  configuration := tidy.configuration.reread

/-! ## What rules ask about documents -/

/-- Whether two documents answer all questions of the rules alike. -/
structure Alike (first second : Document) : Prop where
  lines : first.lines = second.lines
  anchors : first.anchors = second.anchors
  footnoteRefs : first.footnoteRefs = second.footnoteRefs
  footnoteDefs : first.footnoteDefs = second.footnoteDefs
  links : first.links = second.links
  regions : first.regions = second.regions
  digest : first.digest = second.digest
  options : ∀ options, Rule.footnoteOptionsFor first options =
    Rule.footnoteOptionsFor second options

namespace Alike

variable {first second third : Document}

theorem refl (document : Document) : document.Alike document where
  lines := rfl
  anchors := rfl
  footnoteRefs := rfl
  footnoteDefs := rfl
  links := rfl
  regions := rfl
  digest := rfl
  options _ := rfl

theorem trans (left : first.Alike second) (right : second.Alike third) :
    first.Alike third where
  lines := left.lines.trans right.lines
  anchors := left.anchors.trans right.anchors
  footnoteRefs := left.footnoteRefs.trans right.footnoteRefs
  footnoteDefs := left.footnoteDefs.trans right.footnoteDefs
  links := left.links.trans right.links
  regions := left.regions.trans right.regions
  digest := left.digest.trans right.digest
  options options := (left.options options).trans (right.options options)

theorem hasAnchor (alike : first.Alike second) (fragment : Text) :
    first.hasAnchor fragment = second.hasAnchor fragment := by
  unfold Document.hasAnchor
  rw [alike.anchors]

theorem crossFileLinks (alike : first.Alike second) :
    first.crossFileLinks = second.crossFileLinks := by
  unfold Document.crossFileLinks
  rw [alike.links]

theorem visible (alike : first.Alike second) (findings : List Finding) :
    first.visible findings = second.visible findings := by
  unfold Document.visible Document.isDisabledAt
  rw [alike.regions]

theorem lint (alike : first.Alike second) (rules : RuleSet) :
    Document.lint rules first = Document.lint rules second := by
  have fragments : Rule.checkFragments first = Rule.checkFragments second := by
    have broken : Rule.isBrokenLocal first = Rule.isBrokenLocal second := by
      funext link
      simp only [Rule.isBrokenLocal, alike.hasAnchor]
    rw [Rule.checkFragments, Rule.checkFragments, alike.links, broken]
  have column (line offset : Nat) :
      first.columnAt line offset = second.columnAt line offset := by
    unfold Document.columnAt
    rw [alike.lines]
  have finding : Rule.footnoteFinding first = Rule.footnoteFinding second := by
    funext severity footnote what ending
    simp only [Rule.footnoteFinding, column]
  have definitions :
      Rule.checkDefinitions first = Rule.checkDefinitions second := by
    unfold Rule.checkDefinitions
    rw [alike.footnoteDefs, finding]
  have references :
      Rule.checkReferences first = Rule.checkReferences second := by
    unfold Rule.checkReferences
    rw [alike.footnoteRefs, finding]
  have footnotes (options : FootnoteOptions) :
      Rule.checkFootnotes options first =
        Rule.checkFootnotes options second := by
    unfold Rule.checkFootnotes
    rw [alike.options, definitions, references]
  unfold Document.lint
  simp only [fragments, footnotes, alike.visible]

end Alike

/-- The options that a table of JSON changes are the same once the table has
been kept. -/
theorem override_reread {entries : Entries Text Value}
    (nodup : entries.keys.Nodup)
    (each : ∀ entry ∈ entries, entry.2.IsJson) (options : FootnoteOptions) :
    options.override (Value.map (Value.named entries)).reread =
      options.override (.map (Value.named entries)) := by
  have option (name : String) :
      ((Value.map (Value.named entries)).reread.field? name).map
          Value.isTruthy =
        ((Value.map (Value.named entries)).field? name).map
          Value.isTruthy := by
    rw [Value.reread_named nodup, Value.field?_named, Value.field?_named,
      Entries.lookup_map_value entries fun _ => Value.reread]
    cases found : entries.lookup name.toList with
    | none => rfl
    | some value =>
        have isJson := each _ (Entries.mem_of_lookup found)
        exact congrArg some isJson.isTruthy_reread
  simp only [FootnoteOptions.override, option]

/-- A document that has been kept gives the answers of the document. -/
theorem IsTidy.alike {document : Document} (tidy : document.IsTidy) :
    document.reread.Alike document where
  lines := rfl
  anchors := rfl
  footnoteRefs := rfl
  footnoteDefs := rfl
  links := rfl
  regions := rfl
  digest := rfl
  options := by
    intro options
    have held : document.reread.configuration.lookup Rule.duplicateFootnotes =
        (document.configuration.lookup Rule.duplicateFootnotes).map
          Value.reread :=
      Entries.lookup_map_value document.configuration (fun _ => Value.reread) _
    unfold Rule.footnoteOptionsFor
    rw [held]
    cases found : document.configuration.lookup Rule.duplicateFootnotes with
    | none => rfl
    | some value =>
        have isJson := tidy.configuration.isJson _ (Entries.mem_of_lookup found)
        cases isJson with
        | @map entries nodup each =>
            have same := override_reread nodup each options
            rw [Value.reread_named nodup] at same
            rw [Option.map_some, Value.reread_named nodup]
            exact same
        | null => rfl
        | bool value => rfl
        | int value => rfl
        | float inRange => rfl
        | str value => rfl
        | list each => rfl

end Document

end AnchorLint
