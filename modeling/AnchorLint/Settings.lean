import AnchorLint.Data.Toml.Read
import AnchorLint.FileTree.Basic
import AnchorLint.Lint.Rules
import AnchorLint.Storage

/-!
# Settings

Settings are read from a TOML file: the one that is asked for, or the first
one found in the working directory and the root of the documents.  Every value
must be of the right kind.
-/

namespace AnchorLint

/-- How documents are found, indexed, checked and cached. -/
structure Settings where
  dialect : Dialect := .github
  disabled : List Text := []
  crossFile : Bool := true
  includes : List Text := Storage.standardIncludes
  excludes : List Text := []
  footnotes : FootnoteOptions := {}
  cacheEnabled : Bool := false
  cacheDirectory : FilePath := ⟨[], [".lintmark_cache".toList]⟩
  /-- The number of threads; a truth value counts as one or zero. -/
  threads : Value := .int 0
  source : Option FilePath := none

inductive SettingsError where
  | notFound (path : FilePath)
  | malformed (path : FilePath)
  | wrongType (name : Text) (value : Value)
  | unknownDialect (name : Text)
  | negativeThreads
  | notTable
  | unreadable (fault : FileFault)
  | notUtf8
  | integerTooLong (digits : Nat)

namespace SettingsError

/-- The complaint about settings, unless reading them failed in a way that has
nothing to do with what they say. -/
def message? : SettingsError → Option Text
  | notFound path => some ("Config file not found: ".toList ++ path.write)
  | malformed path => some (path.write ++ ": invalid TOML".toList)
  | wrongType name value =>
    some (Quoted.apostrophe :: name ++ "' has the wrong type (".toList
      ++ value.kindName ++ [')'])
  | unknownDialect name => some (Dialect.unknownMessage name)
  | negativeThreads => some "'workers.threads' must not be negative".toList
  | notTable | unreadable _ | notUtf8 | integerTooLong _ => none

end SettingsError

namespace Settings

def fileName : FilePath :=
  ⟨[], ["lintmark.toml".toList]⟩

/-- The name of the project file, which may hold settings among other things. -/
def projectName : Text :=
  "pyproject.toml".toList

def readTable (tree : FileTree) (path : FilePath) :
    Except SettingsError Value := do
  let bytes ←
    match tree.read path with
    | .ok bytes => .ok bytes
    | .error error => .error (.unreadable ⟨path, error⟩)
  match Utf8.decode? bytes with
  | none => .error .notUtf8
  | some text =>
    match Toml.read text with
    | .ok table => return .map table
    | .error .malformed => .error (.malformed path)
    | .error (.integerTooLong digits) => .error (.integerTooLong digits)

def entry? (value : Value) (name : String) :
    Except SettingsError (Option Value) :=
  match value with
  | .map _ => .ok (value.field? name)
  | _ => .error .notTable

def projectTable? (value : Value) : Except SettingsError (Option Value) := do
  match ← entry? value "tool" with
  | some tool => entry? tool "lintmark"
  | none => return none

def isThere (tree : FileTree) (path : FilePath) : Except SettingsError Bool :=
  match tree.contains path with
  | .ok found => .ok found
  | .error fault => .error (.unreadable fault)

/-- The first settings file that exists: in the working directory, then in the
root of the documents. -/
def candidate? (tree : FileTree) (root : Option FilePath) :
    Except SettingsError (Option FilePath) :=
  let here := FilePath.ofSegments tree.workingDirectory
  let candidates := (here :: root.toList).map fun directory =>
    directory.append fileName
  candidates.findM? (isThere tree)

/-- The settings in the project file of the working directory. -/
def findInProject (tree : FileTree) :
    Except SettingsError (Option FilePath × Value) := do
  let here := FilePath.ofSegments tree.workingDirectory
  let project := here.append ⟨[], [projectName]⟩
  if ← isThere tree project then
    match ← projectTable? (← readTable tree project) with
    | some table => return (some project, table)
    | none => return (none, .map [])
  else return (none, .map [])

/-- The settings file and its contents.  A file that is asked for must exist. -/
def find (tree : FileTree) (asked root : Option FilePath) :
    Except SettingsError (Option FilePath × Value) := do
  match asked with
  | some path =>
    if !(← isThere tree path) then .error (.notFound path)
    else
      let table ← readTable tree path
      if path.name = projectName then
        return (some path, (← projectTable? table).getD (.map []))
      else return (some path, table)
  | none =>
    match ← candidate? tree root with
    | some path => return (some path, ← readTable tree path)
    | none => findInProject tree

def asTable (name : Text) (value : Value) : Except SettingsError Value :=
  match value with
  | .map _ => .ok value
  | _ => .error (.wrongType name value)

def asBool (name : Text) (value : Value) : Except SettingsError Bool :=
  match value with
  | .bool truth => .ok truth
  | _ => .error (.wrongType name value)

def asText (name : Text) (value : Value) : Except SettingsError Text :=
  match value with
  | .str text => .ok text
  | _ => .error (.wrongType name value)

def asTexts (name : Text) (value : Value) : Except SettingsError (List Text) :=
  match value with
  | .list items => items.mapM (asText name)
  | _ => .error (.wrongType name value)

/-- An entry of a section read in some way, or a value in its place. -/
def option {α : Type} (sectionName : String) (table : Value) (name : String)
    (read : Text → Value → Except SettingsError α) (default : α) :
    Except SettingsError α :=
  match table.field? name with
  | some value => read (sectionName ++ "." ++ name).toList value
  | none => .ok default

/-- A section of the settings; a missing one is empty. -/
def tableOf (settings : Value) (name : String) :
    Except SettingsError Value := do
  match ← entry? settings name with
  | some table => asTable name.toList table
  | none => return .map []

/-- The options of the footnote rule, which may go by any of its names.  The
last table of that rule counts. -/
def footnoteTable (rules : Value) : Except SettingsError Value :=
  match rules with
  | .map entries =>
    entries.foldlM (fun known entry =>
      match entry.1 with
      | .str name =>
        if Rule.normalize name = Rule.duplicateFootnotes then
          asTable ("rules.".toList ++ name) entry.2
        else .ok known
      | _ => .ok known) (.map [])
  | _ => .ok (.map [])

def readThreads (name : Text) (value : Value) : Except SettingsError Value :=
  match value with
  | .bool _ => .ok value
  | .int number => if number < 0 then .error .negativeThreads else .ok value
  | _ => .error (.wrongType name value)

def readDialect (name : Text) (value : Value) :
    Except SettingsError Dialect := do
  let text ← asText name value
  match Dialect.parse? text with
  | some dialect => return dialect
  | none => .error (.unknownDialect text)

def ofTable (source : Option FilePath) (table : Value) :
    Except SettingsError Settings := do
  let standard : Settings := {}
  let anchors ← tableOf table "anchors"
  let dialect ← option "anchors" anchors "dialect" readDialect standard.dialect
  let lint ← tableOf table "lint"
  let disabled ← option "lint" lint "disable" asTexts []
  let crossFile ← option "lint" lint "cross_file" asBool standard.crossFile
  let includes ← option "lint" lint "include" asTexts standard.includes
  let excludes ← option "lint" lint "exclude" asTexts standard.excludes
  let rules ← tableOf table "rules"
  let footnotes ← footnoteTable rules
  let definitions ← option "rules.MD063" footnotes "check_definitions" asBool
    standard.footnotes.checkDefinitions
  let references ← option "rules.MD063" footnotes "check_references" asBool
    standard.footnotes.checkReferences
  let cache ← tableOf table "cache"
  let enabled ← option "cache" cache "enabled" asBool standard.cacheEnabled
  let directory ← option "cache" cache "dir"
    (fun name value => (asText name value).map FilePath.parse)
    standard.cacheDirectory
  let workers ← tableOf table "workers"
  let threads ← option "workers" workers "threads" readThreads standard.threads
  return {
    dialect := dialect
    disabled := disabled.map Rule.normalize
    crossFile := crossFile
    includes := includes
    excludes := excludes
    footnotes := ⟨definitions, references⟩
    cacheEnabled := enabled
    cacheDirectory := directory
    threads := threads
    source := source }

def load (tree : FileTree) (asked root : Option FilePath) :
    Except SettingsError Settings := do
  let (source, table) ← find tree asked root
  ofTable source table

end Settings

end AnchorLint
