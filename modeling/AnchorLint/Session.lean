import AnchorLint.Cache.File
import AnchorLint.Lint.Linter
import AnchorLint.Settings

/-!
# Sessions

A session joins what a run needs: the settings, the storage that finds
documents, the linter with its workspace, and the directory in which the
workspace is kept between runs.
-/

namespace AnchorLint

/-- Everything that a run works with. -/
structure Session where
  settings : Settings
  storage : Storage
  linter : Linter
  /-- Where the workspace is kept between runs, if it is. -/
  cacheDirectory : Option FilePath := none

/-- Why a session cannot begin. -/
inductive SessionError where
  | settings (error : SettingsError)
  /-- Something is asked for without saying what. -/
  | missingValue
  | cacheFile (fault : FileFault)
  | cachedDocument (mismatch : Mismatch)

/-- Why documents cannot be linted. -/
inductive LintFault where
  | file (fault : FileFault)
  | index (error : IndexError)
  | record (mismatch : Mismatch)

def LintFault.message : LintFault → Text
  | file fault => fault.message
  | index error => error.message
  | record mismatch => mismatch.message

/-- The settings with the dialect that is asked for in place of their own. -/
def Settings.withDialect (settings : Settings) (name : Text) :
    Except SettingsError Settings :=
  match Dialect.parse? name with
  | some dialect => .ok { settings with dialect := dialect }
  | none => .error (.unknownDialect name)

/-- The directory for the cache of documents below a root. -/
def Settings.cacheDirectoryIn? (settings : Settings) (root : FilePath) :
    Option FilePath :=
  if settings.cacheEnabled then some (root.append settings.cacheDirectory)
  else none

namespace Session

def workspace (session : Session) : Workspace :=
  session.linter.workspace

/-- The workspace at the beginning of a session: the one that was kept, or an
empty one. -/
def firstWorkspace (tree : FileTree) (dialect : Dialect) :
    Option FilePath →
      Except SessionError (Workspace × FileTree × List LogEntry)
  | none => .ok ({ dialect := dialect }, tree, [])
  | some directory =>
    match Cache.load tree directory dialect.name with
    | .error fault => .error (.cacheFile fault)
    | .ok .nothing => .ok ({ dialect := dialect }, tree, [])
    | .ok (.discarded tree remark) =>
      .ok ({ dialect := dialect }, tree, [remark])
    | .ok (.records records) =>
      match Workspace.ofRecords dialect records with
      | .ok workspace => .ok (workspace, tree, [])
      | .error mismatch => .error (.cachedDocument mismatch)

/-- The value that is asked for, if anything is. -/
def askedFor {α : Type} : Option (Option α) → Except SessionError (Option α)
  | none => .ok none
  | some none => .error .missingValue
  | some (some value) => .ok (some value)

/-- The settings of a session, where a dialect that is asked for counts more
than the one in the settings file. -/
def loadSettings (tree : FileTree) (root : FilePath)
    (file : Option (Option FilePath)) (dialect : Option (Option Text)) :
    Except SessionError Settings := do
  let path ← askedFor file
  let settings ←
    (Settings.load tree path (some root)).mapError SessionError.settings
  match ← askedFor dialect with
  | none => return settings
  | some name => (settings.withDialect name).mapError SessionError.settings

def make (root : FilePath) (settings : Settings) (workspace : Workspace) :
    Session :=
  { settings := settings
    storage := ⟨root, settings.includes, settings.excludes⟩
    linter :=
      { rules := RuleSet.select settings.footnotes settings.disabled
        crossFile := settings.crossFile
        workspace := workspace }
    cacheDirectory := settings.cacheDirectoryIn? root }

/-- Begins a session with given settings for the documents below a root.  A
cache file that is of no use is removed. -/
def startWith (tree : FileTree) (root : FilePath) (settings : Settings) :
    Except SessionError (Session × FileTree × List LogEntry) := do
  let (workspace, tree, log) ← firstWorkspace tree settings.dialect
    (settings.cacheDirectoryIn? root)
  return (make root settings workspace, tree, log)

/-- Begins a session for the documents below a root with the settings that are
found there. -/
def start (tree : FileTree) (root : FilePath)
    (file : Option (Option FilePath)) (dialect : Option (Option Text)) :
    Except SessionError (Session × FileTree × List LogEntry) := do
  startWith tree root (← loadSettings tree root file dialect)

/-- The texts of the documents that some paths stand for, by key. -/
def read (session : Session) (tree : FileTree) (paths : List FilePath) :
    Logged FileFault (Entries Text Text) := do
  let found ← session.storage.discover tree paths
  let texts ← session.storage.readAll tree found
  return Storage.sources texts

def lint (session : Session) (sources : Entries Text Text) :
    Except LintFault (LintResults × Session) := do
  let (results, linter) ←
    (session.linter.lint sources).mapError LintFault.index
  let results ← results.mapError LintFault.record
  return (results, { session with linter := linter })

/-- Forgets all documents but those with given keys. -/
def retain (session : Session) (keys : List Text) : Session :=
  { session with
    linter :=
      { session.linter with workspace := session.workspace.retain keys } }

/-- Lints some texts and forgets all other documents. -/
def lintOnly (session : Session) (sources : Entries Text Text) :
    Except LintFault (LintResults × Session) := do
  let (results, session) ← session.lint sources
  return (results, session.retain (sources.map Prod.fst))

/-- Keeps the workspace for later runs, if there is a directory for it. -/
def save (session : Session) (tree : FileTree) :
    Except Cache.SaveError Unit × FileTree :=
  match session.cacheDirectory with
  | none => (.ok (), tree)
  | some directory =>
    let (result, tree) := session.workspace.save tree directory
    (result.map fun _ => (), tree)

end Session

end AnchorLint
