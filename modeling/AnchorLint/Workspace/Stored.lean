import AnchorLint.Cache.Query
import AnchorLint.Document.Basic
import AnchorLint.Link.Path

/-!
# What a workspace holds

A workspace holds the indexes of documents.  A document that comes from a cache
file is kept as its record if some atoms of the record are of unusual kinds;
all questions can be asked about either, and only records may fail to answer.
-/

namespace AnchorLint

/-- The index of a document, or the record of one in a cache file. -/
inductive Stored where
  | indexed (document : Document)
  | cached (record : Cache.Record)

namespace Stored

/-- What a cache file says about a document. -/
def toRecord : Stored → Cache.Record
  | indexed document => .ofDocument document
  | cached record => record

def ofRecord (record : Cache.Record) : Stored :=
  match record.toDocument? with
  | some document => .indexed document
  | none => .cached record

/-- Whether the document was made from a text with a digest. -/
def hasDigest (digest : Text) : Stored → Bool
  | indexed document => document.digest == digest
  | cached record => record.digest == .str digest

def hasAnchor (fragment : Text) : Stored → Bool
  | indexed document => document.hasAnchor fragment
  | cached record => record.hasAnchor fragment

/-- The links to other documents as they have to be resolved: their kinds and
their paths, which must not be empty. -/
def outgoing : Stored → List (LinkKind × Text)
  | indexed document =>
    (document.links.filter Link.leavesPage).filterMap fun link =>
      (link.path.filter fun path => !path.isEmpty).map fun path =>
        (link.kind, path)
  | cached record =>
    (record.links.filter (·.leavesPage)).filterMap fun link =>
      ((Cache.text? link.path).filter fun path => !path.isEmpty).map
        fun path => (link.kind, path)

/-- Whether all links to other documents have texts as paths. -/
def checkPaths : Stored → Except Mismatch Unit
  | indexed _ => .ok ()
  | cached record => record.links.forM fun link =>
    match link.path with
    | .str _ => .ok ()
    | path =>
      if link.leavesPage && path.isTruthy then
        .error (Cache.undecodable
          (fun kind => .noMember kind "split".toList) path)
      else .ok ()

def isDisabledAt (rule : Text) (line : Value) :
    Stored → Except Mismatch Bool
  | indexed document =>
    match Cache.nat? line with
    | some number => .ok (document.isDisabledAt rule number)
    | none => (Cache.Record.ofDocument document).isDisabledAt rule line
  | cached record => record.isDisabledAt rule line

def lineAt (offset : Value) : Stored → Except Mismatch Nat
  | indexed document =>
    match offset with
    | .int number => .ok (document.lineAt number)
    | _ => (Cache.Record.ofDocument document).lineAt offset
  | cached record => record.lineAt offset

/-- The number of bytes before an offset.  The text of a record is not known. -/
def byteOffset (offset : Int) : Stored → Nat
  | indexed document => document.byteOffset offset
  | cached _ => 0

def headingByAnchor? (fragment : Text) :
    Stored → Except Mismatch (Option Cache.HeadingRecord)
  | indexed document =>
    .ok ((document.headingByAnchor? fragment).map .ofHeading)
  | cached record => record.headingByAnchor? fragment

/-- The rules that are switched off for the whole document, in order. -/
def fileDisabledRules : Stored → Except Mismatch (List Value)
  | indexed document =>
    .ok ((Text.sort (Region.fileDisabledRules document.regions)).map .str)
  | cached record => record.fileDisabledRules

end Stored

end AnchorLint
