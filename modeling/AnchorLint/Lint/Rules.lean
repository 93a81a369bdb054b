import AnchorLint.Lint.Finding
import AnchorLint.Workspace.Query

/-!
# Rules

Two rules look at documents.  The first one demands that the fragments of links
name anchors that exist, in the same document or, across a workspace, in
others.  The second one demands that footnotes are defined once; references to
the same footnote may be reported too.
-/

namespace AnchorLint

/-- The options with those that a table gives in place of the old ones. -/
def FootnoteOptions.override (options : FootnoteOptions) (table : Value) :
    FootnoteOptions :=
  let option (name : String) (default : Bool) : Bool :=
    ((table.field? name).map Value.isTruthy).getD default
  { checkDefinitions := option "check_definitions" options.checkDefinitions
    checkReferences := option "check_references" options.checkReferences }

namespace Rule

def fragmentFinding (link : Link) (ending : Text) : Finding :=
  Finding.make .warn linkFragments
    ("Link fragment '#".toList ++ link.fragment.getD []
      ++ "' does not exist".toList ++ ending)
    link.line link.column link.span

/-- Whether a link names an anchor of its own page that does not exist. -/
def isBrokenLocal (document : Document) (link : Link) : Bool :=
  link.isLocal && link.fragment.any fun fragment =>
    !fragment.isEmpty && !document.hasAnchor fragment

/-- The links to missing anchors of the same document. -/
def checkFragments (document : Document) : List Finding :=
  (document.links.filter (isBrokenLocal document)).map fun link =>
    fragmentFinding link []

/-- The links of a document to missing anchors of other documents. -/
def checkFragmentsAcross (workspace : Workspace) (path : Text)
    (document : Document) : List Finding :=
  (workspace.unresolvedLinks path document).map fun unresolved =>
    (fragmentFinding unresolved.link
      (" in '".toList ++ unresolved.link.path.getD "None".toList
        ++ "'".toList)).inside path

/-- The footnotes that have been seen before, each with the line of the first
one; `seen` holds the identifiers so far. -/
def repeated : (seen : List (Text × Nat)) → List Footnote →
    List (Footnote × Nat)
  | _, [] => []
  | seen, footnote :: rest =>
    match seen.lookup footnote.id with
    | some line => (footnote, line) :: repeated seen rest
    | none => repeated ((footnote.id, footnote.line) :: seen) rest

def footnoteFinding (document : Document) (severity : Severity)
    (footnote : Footnote) (what ending : Text) : Finding :=
  Finding.make severity duplicateFootnotes
    ("Duplicate footnote ".toList ++ what ++ " '[^".toList ++ footnote.id
      ++ "]'".toList ++ ending)
    footnote.line (document.columnAt footnote.line footnote.span.start)
    footnote.span

/-- The options for a document, which its comments may change. -/
def footnoteOptionsFor (document : Document) (options : FootnoteOptions) :
    FootnoteOptions :=
  match document.configuration.lookup duplicateFootnotes with
  | some (.map entries) => options.override (.map entries)
  | _ => options

/-- The definitions of footnotes that are defined already. -/
def checkDefinitions (document : Document) : List Finding :=
  (repeated [] document.footnoteDefs).map fun (footnote, line) =>
    footnoteFinding document .error footnote "definition".toList
      (" (first defined on line ".toList ++ Text.ofNat line ++ ")".toList)

/-- The references to footnotes that are referred to already. -/
def checkReferences (document : Document) : List Finding :=
  (repeated [] document.footnoteRefs).map fun (footnote, _) =>
    footnoteFinding document .warn footnote "reference".toList []

/-- The footnotes that should be unique and are not. -/
def checkFootnotes (options : FootnoteOptions) (document : Document) :
    List Finding :=
  let options := footnoteOptionsFor document options
  (if options.checkDefinitions then checkDefinitions document else [])
    ++ (if options.checkReferences then checkReferences document else [])

end Rule

namespace Document

def visible (document : Document) (findings : List Finding) : List Finding :=
  findings.filter fun finding =>
    !document.isDisabledAt finding.rule finding.line

/-- The findings of the rules that need the document only, in order. -/
def lint (rules : RuleSet) (document : Document) : List Finding :=
  let links :=
    if rules.linkFragments then Rule.checkFragments document else []
  let footnotes :=
    (rules.footnotes.map fun options =>
      Rule.checkFootnotes options document).getD []
  Finding.sort (document.visible (links ++ footnotes))

end Document

end AnchorLint
