import AnchorLint.Lint.Rules

/-!
# Rules on cached documents

The rules look at the record of a cached document in the same way as at the
index of a document.  They compute with its atoms as found and fail where one
of them is of the wrong kind.
-/

namespace AnchorLint

namespace ReportedFinding

/-- The finding that a rule makes about the characters between two atoms. -/
def make (severity : Severity) (rule message : Text)
    (line column start stop : Value) : Except Mismatch ReportedFinding := do
  let endColumn ← (← column.plus stop).minus start
  return {
    severity := severity
    message := message
    rule := rule
    line := line
    column := column
    endColumn := endColumn
    start := start
    stop := stop }

def inside (path : Text) (finding : ReportedFinding) : ReportedFinding :=
  { finding with path := some path }

/-- Whether a finding comes before another, by line, column, rule and
message. -/
def isLess (first second : ReportedFinding) : Except Mismatch Bool :=
  if !first.line.same second.line then first.line.isLess second.line
  else if !first.column.same second.column then
    first.column.isLess second.column
  else if first.rule ≠ second.rule then .ok (Text.le first.rule second.rule)
  else
    .ok (first.message ≠ second.message
      && Text.le first.message second.message)

def sort (findings : List ReportedFinding) :
    Except Mismatch (List ReportedFinding) :=
  Sorting.sort isLess findings

end ReportedFinding

namespace Rule

open Cache

def fragmentRecordFinding (link : LinkRecord) (ending : Text) :
    Except Mismatch ReportedFinding :=
  ReportedFinding.make .warn linkFragments
    ("Link fragment '#".toList ++ link.fragment.display
      ++ "' does not exist".toList ++ ending)
    link.line link.column link.start link.stop

/-- The links to missing anchors of the same document. -/
def checkRecordFragments (record : Record) :
    Except Mismatch (List ReportedFinding) :=
  record.links.filterMapM fun link => do
    if !link.isLocal || !link.fragment.isTruthy then return none
    else if ← record.resolves link.fragment then return none
    else return some (← fragmentRecordFinding link [])

/-- The links of a document to missing anchors of other documents. -/
def checkRecordFragmentsAcross (workspace : Workspace) (path : Text)
    (record : Record) : Except Mismatch (List ReportedFinding) := do
  (← workspace.unresolvedRecords path record).mapM fun unresolved => do
    let finding ← fragmentRecordFinding unresolved.link
      (" in '".toList ++ unresolved.link.path.display ++ "'".toList)
    return finding.inside path

def footnoteRecordFinding (record : Record) (severity : Severity)
    (footnote : FootnoteRecord) (what ending : Text) :
    Except Mismatch ReportedFinding := do
  let column ← record.columnAt footnote.line footnote.start
  ReportedFinding.make severity duplicateFootnotes
    ("Duplicate footnote ".toList ++ what ++ " '[^".toList
      ++ footnote.id.display ++ "]'".toList ++ ending)
    footnote.line column footnote.start footnote.stop

/-- The findings about footnotes that have been seen before; `report` makes one
from a footnote and the line of the first one, and `seen` holds the identifiers
so far. -/
def repeatedRecords
    (report : FootnoteRecord → Value → Except Mismatch ReportedFinding) :
    (seen : List (Value × Value)) → List FootnoteRecord →
      Except Mismatch (List ReportedFinding)
  | _, [] => .ok []
  | seen, footnote :: rest => do
    checkKey footnote.id
    match seen.find? fun entry => entry.1.sameKey footnote.id with
    | none =>
      repeatedRecords report (seen ++ [(footnote.id, footnote.line)]) rest
    | some (_, line) =>
      let finding ← report footnote line
      return finding :: (← repeatedRecords report seen rest)

/-- The options for a document, which its comments may change. -/
def footnoteRecordOptions (record : Record) (options : FootnoteOptions) :
    FootnoteOptions :=
  let name : Value := .str duplicateFootnotes
  match record.configuration.find? fun entry => entry.1.sameKey name with
  | some (_, .map entries) => options.override (.map entries)
  | _ => options

def checkRecordFootnotes (options : FootnoteOptions) (record : Record) :
    Except Mismatch (List ReportedFinding) := do
  let options := footnoteRecordOptions record options
  let definitions ←
    if options.checkDefinitions then
      repeatedRecords (fun footnote line =>
        footnoteRecordFinding record .error footnote "definition".toList
          (" (first defined on line ".toList ++ line.display
            ++ ")".toList)) [] record.footnoteDefs
    else pure []
  let references ←
    if options.checkReferences then
      repeatedRecords (fun footnote _ =>
        footnoteRecordFinding record .warn footnote "reference".toList [])
        [] record.footnoteRefs
    else pure []
  return definitions ++ references

end Rule

namespace Cache.Record

def visible (record : Record) (findings : List ReportedFinding) :
    Except Mismatch (List ReportedFinding) :=
  findings.filterM fun finding => do
    return !(← record.isDisabledAt finding.rule finding.line)

/-- The findings of the rules that need the record only, in order. -/
def lint (rules : RuleSet) (record : Record) :
    Except Mismatch (List ReportedFinding) := do
  let links ←
    if rules.linkFragments then Rule.checkRecordFragments record else pure []
  let footnotes ←
    match rules.footnotes with
    | some options => Rule.checkRecordFootnotes options record
    | none => pure []
  ReportedFinding.sort (← record.visible (links ++ footnotes))

end Cache.Record

end AnchorLint
