import AnchorLint.Lint.Linter

/-!
# Reports

How results are shown: findings and anchors line by line or as JSON, and the
exit code that says whether there are findings of some severity.
-/

namespace AnchorLint

namespace Report

def allFindings (results : LintResults) : List ReportedFinding :=
  results.flatMap Prod.snd

/-- Reports for other programs are indented and have no characters outside
ASCII. -/
def indented : Json.Style := ⟨true, some 2⟩

def findingsJson (results : LintResults) : Except Json.WriteError Text :=
  indented.write (.list ((allFindings results).map ReportedFinding.toValue))

/-- How many documents were checked and what was found. -/
def summary (results : LintResults) : Text :=
  Text.ofNat results.length ++ " file(s) checked, ".toList
    ++ Text.ofNat (allFindings results).length ++ " finding(s)".toList

/-- Whether a finding is at least as bad as a severity. -/
def counts (lowest : Severity) (finding : ReportedFinding) : Bool :=
  finding.severity == .error || lowest == .warn

/-- The exit code of a run: one if there is a finding at least as bad as a
severity, and zero otherwise. -/
def exitCode (lowest : Severity) (results : LintResults) : Nat :=
  if (allFindings results).any (counts lowest) then 1 else 0

def key (name : String) : Value :=
  .str name.toList

def headingValue (heading : Cache.HeadingRecord) : Value :=
  .map
    [ (key "line", heading.line),
      (key "level", heading.level),
      (key "text", heading.text),
      (key "auto_anchor", heading.autoAnchor),
      (key "custom_anchor", heading.customAnchor) ]

def htmlAnchorValue (anchor : Cache.HtmlAnchorRecord) : Value :=
  .map
    [ (key "line", anchor.line),
      (key "id", anchor.id),
      (key "tag", anchor.tag) ]

/-- Lists of anchors keep all characters. -/
def indentedUnicode : Json.Style := ⟨false, some 2⟩

def anchorsJson (path : Text) (record : Cache.Record) :
    Except Json.WriteError Text :=
  indentedUnicode.write (.map
    [ (key "path", .str path),
      (key "headings", .list (record.headings.map headingValue)),
      (key "html_anchors",
        .list (record.htmlAnchors.map htmlAnchorValue)) ])

def headingAnchor (heading : Cache.HeadingRecord) : Text :=
  if heading.customAnchor.isTruthy then
    '#' :: heading.customAnchor.display ++ " (custom)".toList
  else '#' :: heading.autoAnchor.display

def levelSigns (level : Value) : Except Mismatch Text :=
  match level.quantity? with
  | some (.whole number) =>
    if Nat.pow 2 63 ≤ number.natAbs then .error .tooLargeForCount
    else .ok (List.replicate number.toNat '#')
  | _ => .error (.notCount level.kindName)

def headingLine (heading : Cache.HeadingRecord) : Except Mismatch Text := do
  let signs ← levelSigns heading.level
  return heading.line.display ++ '\t' :: signs ++ ' ' :: heading.text.display
    ++ '\t' :: headingAnchor heading

def htmlAnchorLine (anchor : Cache.HtmlAnchorRecord) : Text :=
  anchor.line.display ++ "\t<".toList ++ anchor.tag.display
    ++ ">\t#".toList ++ anchor.id.display ++ " (html)".toList

def anchorLines (record : Cache.Record) : List (Except Mismatch Text) :=
  record.headings.map headingLine
    ++ record.htmlAnchors.map fun anchor => .ok (htmlAnchorLine anchor)

end Report

end AnchorLint
