import AnchorLint.Lint.RecordRules

/-!
# Linting workspaces

Linting goes in two phases.  First all documents are indexed into the
workspace; documents that have not changed are not read again, and if one of
them cannot be indexed the workspace stays as it was.  Then the rules are
checked, so that links across documents see all of them.

A linter has no dialect of its own.  It indexes in the dialect of its workspace;
one that indexes in another dialect than its workspace has is not modelled.
-/

namespace AnchorLint

/-- The rules to check, how to index, and the documents indexed so far. -/
structure Linter where
  rules : RuleSet := {}
  crossFile : Bool := true
  workspace : Workspace

abbrev LintResults := Entries Text (List ReportedFinding)

namespace Linter

/-- The index of a text, unless the workspace holds it already. -/
def indexIfStale (workspace : Workspace) (key text : Text) :
    Except IndexError (Option Document) :=
  if workspace.isStale key (Digest.ofText text) then
    (Document.index workspace.dialect text).map some
  else .ok none

/-- The new index of each of several texts that is not up to date. -/
def indexAll (workspace : Workspace) (sources : Entries Text Text) :
    Except IndexError (List (Text × Option Document)) :=
  sources.mapM fun (path, text) => do
    let key := Path.normalize path
    let document ← indexIfStale workspace key text
    return (key, document)

/-- Puts a new index into a workspace. -/
def store (workspace : Workspace) (entry : Text × Option Document) :
    Workspace :=
  match entry.2 with
  | some document => workspace.insert entry.1 (.indexed document)
  | none => workspace

/-- Indexes texts by path, and returns the normalized paths. -/
def index (linter : Linter) (sources : Entries Text Text) :
    Except IndexError (List Text × Linter) := do
  let entries ← indexAll linter.workspace sources
  return (entries.map Prod.fst,
    { linter with workspace := entries.foldl store linter.workspace })

def findings (linter : Linter) (key : Text) (document : Document) :
    List Finding :=
  let inDocument := (document.lint linter.rules).map (Finding.inside key)
  if linter.crossFile then
    let across :=
      if linter.rules.linkFragments then
        Rule.checkFragmentsAcross linter.workspace key document
      else []
    Finding.sort (inDocument ++ document.visible across)
  else inDocument

def recordFindings (linter : Linter) (key : Text) (record : Cache.Record) :
    Except Mismatch (List ReportedFinding) := do
  let inDocument :=
    (← record.lint linter.rules).map (ReportedFinding.inside key)
  if linter.crossFile then
    let across ←
      if linter.rules.linkFragments then
        Rule.checkRecordFragmentsAcross linter.workspace key record
      else pure []
    ReportedFinding.sort (inDocument ++ (← record.visible across))
  else return inDocument

def reports (linter : Linter) (key : Text) :
    Stored → Except Mismatch (List ReportedFinding)
  | .indexed document =>
    .ok ((linter.findings key document).map Finding.report)
  | .cached record => linter.recordFindings key record

/-- The findings in the indexed documents among some keys. -/
def check (linter : Linter) (keys : List Text) :
    Except Mismatch LintResults :=
  keys.foldlM (fun results key => do
    match linter.workspace.get? key with
    | some stored => return results.put key (← linter.reports key stored)
    | none => return results) []

/-- Indexes texts and checks them.  The new indexes stay, whatever the check
comes to. -/
def lint (linter : Linter) (sources : Entries Text Text) :
    Except IndexError (Except Mismatch LintResults × Linter) := do
  let (keys, linter) ← linter.index sources
  return (linter.check keys, linter)

end Linter

end AnchorLint
