import AnchorLint.Cache.Record
import AnchorLint.Data.Quantity
import AnchorLint.Data.Sorting

/-!
# Questions about cached documents

A record answers the same questions as the index of a document.  Its atoms are
taken as found, so a question may come upon one that is of the wrong kind; it
fails then, but only if it looks at that atom at all.
-/

namespace AnchorLint

namespace Cache

/-- Whether a link leads to another file or an absolute path. -/
def LinkRecord.leavesPage (record : LinkRecord) : Bool :=
  record.kind == .crossFile || record.kind == .absolutePath

/-- Whether a link may lead to an anchor of its own page. -/
def LinkRecord.isLocal (record : LinkRecord) : Bool :=
  record.kind == .ambiguousLocal

def hasPercent (values : List Value) : Bool :=
  values.any fun value => value == .str ['%']

/-- Why a value that is not a text cannot be percent-decoded.  What is found
without a percent sign is passed on as it is, and the next step `refuses` it. -/
def undecodable (refuses : Text → Mismatch) (value : Value) : Mismatch :=
  match value with
  | .list items =>
    if hasPercent items then .notText value.kindName
    else refuses value.kindName
  | .map entries =>
    if hasPercent (entries.map Prod.fst) then .notText value.kindName
    else refuses value.kindName
  | _ => .notSearchable value.kindName

/-- Whether a value can be looked up among others. -/
def checkKey (value : Value) : Except Mismatch Unit :=
  if value.isScalar then .ok () else .error (.notKey value.kindName)

namespace Record

def hasAnchor (record : Record) (fragment : Text) : Bool :=
  let fragment := Percent.decodeFragment fragment
  record.anchors.any (fun anchor =>
      anchor.caseSensitive.isTruthy && anchor.value == .str fragment)
    || record.anchors.any fun anchor =>
      !anchor.caseSensitive.isTruthy
        && (text? anchor.value).any fun value =>
          Text.lower value == Text.lower fragment

def answersTo (fragment : Text) (heading : HeadingRecord) :
    Except Mismatch Bool :=
  if heading.customAnchor == .str fragment then .ok true
  else if !heading.autoAnchor.isTruthy then .ok false
  else
    match heading.autoAnchor with
    | .str anchor => .ok (Text.lower anchor == Text.lower fragment)
    | anchor => .error (.noMember anchor.kindName "lower".toList)

def headingByAnchor? (record : Record) (fragment : Text) :
    Except Mismatch (Option HeadingRecord) :=
  record.headings.findM? (answersTo (Percent.decodeFragment fragment))

/-- Whether a line lies in a region.  No line at all lies in every region. -/
def covers (line : Value) (region : RegionRecord) : Except Mismatch Bool := do
  if line == .null then return true
  else if ← line.isLess region.firstLine then return false
  else if region.lastLine == .null then return true
  else line.isAtMost region.lastLine

/-- Whether a region for `rule` from one of the sources touches a line. -/
def touched (record : Record) (rule : Text) (line : Value)
    (sources : List RegionSource) : Except Mismatch Bool :=
  (record.regions.filter fun region =>
    region.rule == .str rule && sources.contains region.source).anyM
      (covers line)

/-- Whether a rule is switched off for the whole document. -/
def isDisabled (record : Record) (rule : Text) : Except Mismatch Bool := do
  if ← record.touched Rule.all .null [.disableFile] then
    return !(← record.touched rule .null [.enableFile])
  else record.touched rule .null [.disableFile]

def isDisabledAt (record : Record) (rule : Text) (line : Value) :
    Except Mismatch Bool := do
  let rule := Rule.normalize rule
  let lineSources := [RegionSource.disableLine, .disableNextLine]
  if ← record.isDisabled rule then return true
  else if ← record.touched rule line lineSources then return true
  else if ← record.touched Rule.all line lineSources then return true
  else if ← record.touched Rule.all line [.disable] then
    return !(← record.touched rule line [.enable])
  else record.touched rule line [.disable]

/-- The rules that are switched off for the whole document, in order. -/
def fileDisabledRules (record : Record) : Except Mismatch (List Value) :=
  let rules := (record.regions.filter fun region =>
    region.source = .disableFile).map RegionRecord.rule
  let once := rules.foldl (fun known rule =>
    if known.any (Value.sameKey rule) then known else known ++ [rule]) []
  Sorting.sort Value.isLess once

/-- Halves the interval of line indexes that may hold an offset until one is
left. -/
def searchLine (record : Record) (offset : Value) (low high : Nat) :
    Except Mismatch Nat :=
  if low < high then
    let middle := (low + high + 1) / 2
    let start := (record.lines[middle]?.map LineRecord.start).getD .null
    match start.isAtMost offset with
    | .error mismatch => .error mismatch
    | .ok true => searchLine record offset middle high
    | .ok false => searchLine record offset low (middle - 1)
  else .ok low
termination_by high - low

def lineAt (record : Record) (offset : Value) : Except Mismatch Nat :=
  (record.searchLine offset 0 (record.lines.length - 1)).map (· + 1)

/-- The links to other files or absolute paths that carry a fragment. -/
def crossFileLinks (record : Record) : List LinkRecord :=
  record.links.filter fun link => link.leavesPage && link.fragment.isTruthy

def resolves (record : Record) (fragment : Value) : Except Mismatch Bool :=
  match fragment with
  | .str fragment => .ok (record.hasAnchor fragment)
  | _ => .error (undecodable .notKey fragment)

/-- The column of an offset in a line, counted from one. -/
def columnAt (record : Record) (line offset : Value) :
    Except Mismatch Value := do
  let count : Value := .int record.lines.length
  if !(← (Value.int 0).isLess line) then return .int 1
  else if !(← line.isAtMost count) then return .int 1
  else
    match line.quantity? with
    | some (.whole number) =>
      let found := record.lines[number.toNat - 1]?
      let start := (found.map LineRecord.start).getD .null
      (← offset.minus start).plus (.int 1)
    | _ => .error (.notPosition line.kindName)

end Record

end Cache

end AnchorLint
