import AnchorLint.Workspace.Basic

/-!
# Questions about workspaces

Which anchors exist in which documents, which of them change with the wording
of their headings, and which links between documents do not resolve.
-/

namespace AnchorLint

namespace Workspace

/-- Whether a fragment resolves in the document at a path.  The empty fragment
resolves in every document. -/
def hasAnchor (workspace : Workspace) (path fragment : Text) : Bool :=
  (workspace.get? path).any fun stored =>
    fragment.isEmpty || stored.hasAnchor fragment

/-- Whether a rule is switched off at a line of the document at a path. -/
def isDisabledAt (workspace : Workspace) (path rule : Text) (line : Value) :
    Except Mismatch Bool :=
  match workspace.get? path with
  | some stored => stored.isDisabledAt rule line
  | none => .ok false

def headings (workspace : Workspace) : List (Text × Cache.HeadingRecord) :=
  workspace.sorted.flatMap fun (key, stored) =>
    stored.toRecord.headings.map fun heading => (key, heading)

/-- The anchor that changes with the text of a heading, if it is its only
one. -/
def vulnerableAnchor? (heading : Cache.HeadingRecord) :
    Except Mismatch (Option Text) :=
  match heading.customAnchor, heading.autoAnchor with
  | .null, .str anchor =>
    .ok (if anchor.isEmpty then none else some (Text.lower anchor))
  | .null, anchor =>
    if anchor.isTruthy then
      .error (.noMember anchor.kindName "lower".toList)
    else .ok none
  | _, _ => .ok none

/-- The headings whose anchors change with their texts, by anchor. -/
def vulnerableAnchors (workspace : Workspace) :
    Except Mismatch (Entries Text (List (Text × Cache.HeadingRecord))) :=
  workspace.headings.foldlM (fun known entry => do
    match ← vulnerableAnchor? entry.2 with
    | some anchor =>
      return known.put anchor ((known.lookup anchor).getD [] ++ [entry])
    | none => return known) []

/-- A link to an indexed document in which its fragment does not resolve. -/
structure UnresolvedLink (α : Type) where
  source : Text
  link : α
  target : Text

/-- The links of a document with a path that do not resolve.  Links to
documents outside the workspace are not checked. -/
def unresolvedLinks (workspace : Workspace) (path : Text)
    (document : Document) : List (UnresolvedLink Link) :=
  let key := Path.normalize path
  document.crossFileLinks.filterMap fun link =>
    let target := Path.resolveTarget key link.kind link.path
    match workspace.get? target with
    | none => none
    | some found =>
      if found.hasAnchor (link.fragment.getD []) then none
      else some ⟨key, link, target⟩

/-- The links of a cached document with a path that do not resolve. -/
def unresolvedRecords (workspace : Workspace) (path : Text)
    (record : Cache.Record) :
    Except Mismatch (List (UnresolvedLink Cache.LinkRecord)) :=
  let key := Path.normalize path
  record.crossFileLinks.filterMapM fun link => do
    let target := Path.resolveTarget key link.kind (Cache.text? link.path)
    match workspace.get? target with
    | none => return none
    | some found =>
      if ← found.toRecord.resolves link.fragment then return none
      else return some ⟨key, link, target⟩

def UnresolvedLink.toRecord (unresolved : UnresolvedLink Link) :
    UnresolvedLink Cache.LinkRecord :=
  ⟨unresolved.source, .ofLink unresolved.link, unresolved.target⟩

/-- The links that do not resolve in the document at a path. -/
def unresolvedAt (workspace : Workspace) (path : Text) :
    Except Mismatch (List (UnresolvedLink Cache.LinkRecord)) :=
  match workspace.get? path with
  | none => .ok []
  | some (.indexed document) =>
    .ok ((workspace.unresolvedLinks path document).map (·.toRecord))
  | some (.cached record) => workspace.unresolvedRecords path record

end Workspace

end AnchorLint
