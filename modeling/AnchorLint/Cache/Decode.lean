import AnchorLint.Cache.Encode
import AnchorLint.Data.Json.Read

/-!
# Reading cache files

A cache file is usable if it has the right header, holds a record of the right
shape for every document, and was made for the same dialect.
-/

namespace AnchorLint

namespace Cache

/-- Why a cache file is of no use. -/
inductive CacheError where
  | notCache
  | version (found : Text)
  | corrupt
  | dialect (found : Value)

def CacheError.message : CacheError → Text
  | notCache => "not a lintmark workspace cache".toList
  | version found =>
    "cache format ".toList ++ found ++ " (expected ".toList ++ formatVersion
      ++ [')']
  | corrupt => "corrupt cache payload".toList
  | dialect found => "cache built for dialect ".toList ++ found.quote

/-- The parts that a value can be taken apart into: the items of a list, the
characters of a text, or the keys of a map. -/
def parts? : Value → Option (List Value)
  | .list items => some items
  | .str text => some (text.map fun character => .str [character])
  | .map entries => some (entries.map Prod.fst)
  | _ => none

/-- Whether a value can be looked up in a set. -/
def isAtom (value : Value) : Bool :=
  value.isScalar

/-- Reads every part of a value. -/
def each? {α : Type} (read : List Value → Option α) (value : Value) :
    Option (List α) := do
  (← parts? value).mapM fun item => do read (← parts? item)

def LineRecord.read? : List Value → Option LineRecord
  | [start, stop, inCode, inFrontMatter] =>
    some ⟨start, stop, inCode.isTruthy, inFrontMatter.isTruthy⟩
  | _ => none

def CodeBlockRecord.read? : List Value → Option CodeBlockRecord
  | [firstLine, lastLine, fence] =>
    some ⟨firstLine, lastLine, fence, .str []⟩
  | [firstLine, lastLine, fence, info] =>
    some ⟨firstLine, lastLine, fence, info⟩
  | _ => none

/-- Reads a heading, which may lack its own anchor and its style. -/
def HeadingRecord.read? : List Value → Option HeadingRecord
  | level :: text :: line :: autoAnchor :: rest =>
    let standard : Value := .str HeadingStyle.atx.name
    match rest with
    | [] => some ⟨level, text, line, autoAnchor, .null, standard⟩
    | [customAnchor] =>
      some ⟨level, text, line, autoAnchor, customAnchor, standard⟩
    | [customAnchor, style] =>
      some ⟨level, text, line, autoAnchor, customAnchor, style⟩
    | _ => none
  | _ => none

def HtmlAnchorRecord.read? : List Value → Option HtmlAnchorRecord
  | [id, line, start, stop, tag] => some ⟨id, line, start, stop, tag⟩
  | _ => none

/-- Reads an anchor.  It must be possible to look it up. -/
def AnchorRecord.read? : List Value → Option AnchorRecord
  | [value, caseSensitive, origin, line] => do
    let origin ← AnchorOrigin.parse? (← text? origin)
    if if caseSensitive.isTruthy then isAtom value
        else (text? value).isSome then
      return ⟨value, caseSensitive, origin, line⟩
    else none
  | _ => none

def FootnoteRecord.read? : List Value → Option FootnoteRecord
  | [id, line, start, stop] => some ⟨id, line, start, stop⟩
  | _ => none

def LinkRecord.read? : List Value → Option LinkRecord
  | [target, fragment, line, column, start, stop, kind, path, text, style,
      reference, isImage] => do
    let kind ← LinkKind.parse? (← text? kind)
    return ⟨target, fragment, line, column, start, stop, kind, path, text,
      style, reference, isImage.isTruthy⟩
  | _ => none

def DefinitionRecord.read? : List Value → Option DefinitionRecord
  | [label, target, title, line] => some ⟨label, target, title, line⟩
  | _ => none

/-- Reads a region.  It must be possible to look up its rule. -/
def RegionRecord.read? : List Value → Option RegionRecord
  | [rule, firstLine, lastLine, source] => do
    let source ← RegionSource.parse? (← text? source)
    if isAtom rule then return ⟨rule, firstLine, lastLine, source⟩ else none
  | _ => none

/-- Reads a map, which may also be written as a list of pairs; all that counts
as false is an empty one. -/
def entries? (value : Value) : Option (List (Value × Value)) :=
  if !value.isTruthy then some []
  else
    match value with
    | .map entries => some entries
    | _ => do
      let pairs ← each? (fun parts =>
        match parts with
        | [key, value] => if isAtom key then some (key, value) else none
        | _ => none) value
      return pairs.foldl (fun known entry =>
        Value.putEntry known entry.1 entry.2) []

/-- Reads the span of the front matter; all that counts as false means that
there is none. -/
def spanOf? (value : Value) : Option (Option (Value × Value)) :=
  if !value.isTruthy then some none
  else do
    match ← parts? value with
    | [start, stop] => return some (start, stop)
    | _ => none

/-- The entries of a map with textual keys. -/
def textEntries? : Value → Option (Entries Text Value)
  | .map entries => entries.mapM fun entry =>
    (text? entry.1).map fun key => (key, entry.2)
  | _ => none

def Record.ofValue? (value : Value) : Option Record := do
  let frontMatterSpan ← spanOf? (← value.field? "front_matter_range")
  let definitions ← textEntries? (← value.field? "reference_definitions")
  return {
    digest := ← value.field? "hash"
    lines := ← each? LineRecord.read? (← value.field? "lines")
    codeBlocks := ← each? CodeBlockRecord.read? (← value.field? "code_blocks")
    headings := ← each? HeadingRecord.read? (← value.field? "headings")
    htmlAnchors :=
      ← each? HtmlAnchorRecord.read? (← value.field? "html_anchors")
    anchors := ← each? AnchorRecord.read? (← value.field? "anchors")
    footnoteRefs :=
      ← each? FootnoteRecord.read? (← value.field? "footnote_refs")
    footnoteDefs :=
      ← each? FootnoteRecord.read? (← value.field? "footnote_defs")
    links := ← each? LinkRecord.read? (← value.field? "links")
    definitions := ← definitions.mapM fun entry => do
      return (entry.1, ← DefinitionRecord.read? (← parts? entry.2))
    regions := ← each? RegionRecord.read? (← value.field? "regions")
    frontMatter := ← entries? ((value.field? "front_matter").getD .null)
    frontMatterSpan := frontMatterSpan
    frontMatterError := (value.field? "front_matter_error").getD .null
    configuration := ← entries? ((value.field? "file_config").getD .null) }

/-- The dialect and the records in the data of a cache file. -/
def readPayload? (value : Value) : Option (Value × List (Text × Record)) := do
  let dialect ← value.field? "dialect"
  let files ← textEntries? (← value.field? "files")
  let records ← files.mapM fun entry => do
    return (entry.1, ← Record.ofValue? entry.2)
  return (dialect, records)

/-- The records in a cache file that was made for a dialect. -/
def decode (dialect raw : Text) : Except CacheError (List (Text × Record)) :=
  let (header, body) := Text.splitFirst (· == '\n') raw
  match Text.words header with
  | [word, version] =>
    if word ≠ magic then .error .notCache
    else if version ≠ formatVersion then .error (.version version)
    else
      match Json.read (body.getD []) with
      | .error _ => .error .corrupt
      | .ok value =>
        match readPayload? value with
        | none => .error .corrupt
        | some (found, records) =>
          match found with
          | .str name =>
            if name = dialect then .ok records else .error (.dialect found)
          | _ => .error (.dialect found)
  | _ => .error .notCache

end Cache

end AnchorLint
