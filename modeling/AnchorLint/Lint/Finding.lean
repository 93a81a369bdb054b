import AnchorLint.Data.Json.Write
import AnchorLint.Document.Line

/-!
# Findings

A finding says which rule a place in a document breaks.  Findings are reported
in the order of their places.
-/

namespace AnchorLint

inductive Severity where
  | warn
  | error
deriving DecidableEq

def Severity.name : Severity → Text
  | warn => "warn".toList
  | error => "error".toList

/-- A place in a document that breaks a rule.  Columns are counted from one. -/
structure Finding where
  severity : Severity
  message : Text
  span : Span
  rule : Text
  line : Nat
  column : Int
  endColumn : Int
  path : Option Text := none
deriving DecidableEq

namespace Finding

/-- The finding that a rule makes about a span. -/
def make (severity : Severity) (rule message : Text) (line : Nat)
    (column : Int) (span : Span) : Finding :=
  { severity := severity
    message := message
    span := span
    rule := rule
    line := line
    column := column
    endColumn := column + span.stop - span.start }

def inside (path : Text) (finding : Finding) : Finding :=
  { finding with path := some path }

/-- Findings are ordered by line, column, rule and message. -/
def le (first second : Finding) : Bool :=
  if first.line ≠ second.line then first.line < second.line
  else if first.column ≠ second.column then first.column < second.column
  else if first.rule ≠ second.rule then Text.le first.rule second.rule
  else Text.le first.message second.message

def sort (findings : List Finding) : List Finding :=
  findings.mergeSort le

end Finding

/-- A finding as it is reported.  Its numbers are those of the document, which
are values of any kind if the document comes from a cache file. -/
structure ReportedFinding where
  severity : Severity
  message : Text
  rule : Text
  line : Value
  column : Value
  endColumn : Value
  start : Value
  stop : Value
  path : Option Text := none

def Finding.report (finding : Finding) : ReportedFinding :=
  { severity := finding.severity
    message := finding.message
    rule := finding.rule
    line := .int finding.line
    column := .int finding.column
    endColumn := .int finding.endColumn
    start := .int finding.span.start
    stop := .int finding.span.stop
    path := finding.path }

namespace ReportedFinding

/-- A column in a report.  One that was computed from the numbers of a cache
file may have too many digits. -/
def writeColumn : Value → Except Json.WriteError Text
  | .int column => Json.writeInteger column
  | column => .ok column.display

/-- A finding on one line of a report, unless its column cannot be written. -/
def write (finding : ReportedFinding) : Except Json.WriteError Text := do
  let column ← writeColumn finding.column
  return finding.path.getD "None".toList ++ ':' :: finding.line.display
    ++ ':' :: column ++ ": ".toList ++ finding.rule
    ++ " [".toList ++ finding.severity.name ++ "] ".toList ++ finding.message

def optionalText : Option Text → Value
  | some text => .str text
  | none => .null

def toValue (finding : ReportedFinding) : Value :=
  let key (name : String) : Value := .str name.toList
  .map
    [ (key "path", optionalText finding.path),
      (key "rule", .str finding.rule),
      (key "severity", .str finding.severity.name),
      (key "message", .str finding.message),
      (key "line", finding.line),
      (key "column", finding.column),
      (key "end_column", finding.endColumn),
      (key "range", .map
        [ (key "start", finding.start), (key "end", finding.stop) ]) ]

end ReportedFinding

end AnchorLint
