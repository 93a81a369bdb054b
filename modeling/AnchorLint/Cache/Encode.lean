import AnchorLint.Cache.Record
import AnchorLint.Data.Json.Write

/-!
# Writing cache files

A cache file begins with a line that names the format and its version.  The
rest is one JSON object with the dialect and the records of all documents by
path.
-/

namespace AnchorLint

namespace Cache

/-- The word that begins a cache file. -/
def magic : Text := "LMWI".toList

def formatVersion : Text := "2".toList

/-- A truth value as one or zero. -/
def flag (value : Bool) : Value :=
  .int (if value then 1 else 0)

def LineRecord.toValue (record : LineRecord) : Value :=
  .list [record.start, record.stop, flag record.inCode,
    flag record.inFrontMatter]

def CodeBlockRecord.toValue (record : CodeBlockRecord) : Value :=
  .list [record.firstLine, record.lastLine, record.fence, record.info]

def HeadingRecord.toValue (record : HeadingRecord) : Value :=
  .list [record.level, record.text, record.line, record.autoAnchor,
    record.customAnchor, record.style]

def HtmlAnchorRecord.toValue (record : HtmlAnchorRecord) : Value :=
  .list [record.id, record.line, record.start, record.stop, record.tag]

def AnchorRecord.toValue (record : AnchorRecord) : Value :=
  .list [record.value, record.caseSensitive, .str record.origin.name,
    record.line]

def FootnoteRecord.toValue (record : FootnoteRecord) : Value :=
  .list [record.id, record.line, record.start, record.stop]

def LinkRecord.toValue (record : LinkRecord) : Value :=
  .list [record.target, record.fragment, record.line, record.column,
    record.start, record.stop, .str record.kind.name, record.path,
    record.text, record.style, record.reference, .bool record.isImage]

def DefinitionRecord.toValue (record : DefinitionRecord) : Value :=
  .list [record.label, record.target, record.title, record.line]

def RegionRecord.toValue (record : RegionRecord) : Value :=
  .list [record.rule, record.firstLine, record.lastLine,
    .str record.source.name]

def fieldName (name : String) : Value :=
  .str name.toList

def Record.toValue (record : Record) : Value :=
  .map
    [ (fieldName "hash", record.digest),
      (fieldName "lines", .list (record.lines.map (·.toValue))),
      (fieldName "code_blocks", .list (record.codeBlocks.map (·.toValue))),
      (fieldName "headings", .list (record.headings.map (·.toValue))),
      (fieldName "html_anchors", .list (record.htmlAnchors.map (·.toValue))),
      (fieldName "anchors", .list (record.anchors.map (·.toValue))),
      (fieldName "footnote_refs",
        .list (record.footnoteRefs.map (·.toValue))),
      (fieldName "footnote_defs",
        .list (record.footnoteDefs.map (·.toValue))),
      (fieldName "links", .list (record.links.map (·.toValue))),
      (fieldName "reference_definitions", .map (record.definitions.map
        fun entry => (.str entry.1, entry.2.toValue))),
      (fieldName "regions", .list (record.regions.map (·.toValue))),
      (fieldName "front_matter", .map record.frontMatter),
      (fieldName "front_matter_range",
        match record.frontMatterSpan with
        | some (start, stop) => .list [start, stop]
        | none => .null),
      (fieldName "front_matter_error", record.frontMatterError),
      (fieldName "file_config", .map record.configuration) ]

def payload (dialect : Text) (records : List (Text × Record)) : Value :=
  let sorted := records.mergeSort fun first second =>
    Text.le first.1 second.1
  .map
    [ (fieldName "dialect", .str dialect),
      (fieldName "files", .map (sorted.map fun entry =>
        (.str entry.1, entry.2.toValue))) ]

/-- Cache files keep all characters and have no line breaks. -/
def style : Json.Style := ⟨false, none⟩

/-- The text of a cache file, or why some front matter cannot be written. -/
def encodeRecords (dialect : Text) (records : List (Text × Record)) :
    Except Json.WriteError Text := do
  let body ← style.write (payload dialect records)
  return magic ++ ' ' :: formatVersion ++ '\n' :: body

/-- The text of a cache file for some documents. -/
def encode (dialect : Text) (documents : List (Text × Document)) :
    Except Json.WriteError Text :=
  encodeRecords dialect (documents.map fun entry =>
    (entry.1, Record.ofDocument entry.2))

end Cache

end AnchorLint
