import AnchorLint.Session

/-!
# The console

What a run can see and change: the files, and what it prints as results and as
remarks.  A job changes the console and may fail; what it has printed and
written before it fails stays.
-/

namespace AnchorLint

namespace CommandLine

/-- The files and the two streams of a run. -/
structure Console where
  tree : FileTree
  output : Text := []
  errors : Text := []
  /-- What is said about the environment together with the version. -/
  environment : Text := []
  /-- Whether there is a way to learn about changes of files. -/
  canObserve : Bool := true

namespace Console

def root (console : Console) : FilePath :=
  FilePath.ofSegments console.tree.workingDirectory

def print (console : Console) (line : Text) : Console :=
  { console with output := console.output ++ line ++ ['\n'] }

def printAll (console : Console) (lines : List Text) : Console :=
  { console with
    output := console.output ++ lines.flatMap fun line => line ++ ['\n'] }

def remark (console : Console) (line : Text) : Console :=
  { console with errors := console.errors ++ line ++ ['\n'] }

def complain (console : Console) (complaint : Text) : Console :=
  console.remark ("Error: ".toList ++ complaint)

def log (console : Console) (entries : List LogEntry) : Console :=
  entries.foldl (fun console entry => console.remark entry.write) console

end Console

/-- Why a command fails. -/
inductive Fault where
  | session (error : SessionError)
  | unreadable (path : FilePath)
  | lint (fault : LintFault)
  | listing (mismatch : Mismatch)
  | save (error : Cache.SaveError)
  | report (error : Json.WriteError)
  /-- Nobody can tell when the window of a watch is over. -/
  | noWindow

namespace Fault

/-- The complaint about a mistake of the user.  Other faults have none. -/
def complaint? : Fault → Option Text
  | session (.settings error) => error.message?
  | unreadable path => some ("cannot read ".toList ++ path.write)
  | _ => none

def message : Fault → Text
  | session (.settings (.unreadable fault)) => fault.message
  | session (.settings .notTable) =>
    "the settings are not in a table".toList
  | session (.settings .notUtf8) => "the settings are not UTF-8".toList
  | session (.settings (.integerTooLong digits)) =>
    ReadError.tooLongMessage digits
  | session (.settings error) => error.message?.getD []
  | session .missingValue => "an option has no value".toList
  | session (.cacheFile fault) => fault.message
  | session (.cachedDocument mismatch) => mismatch.message
  | unreadable path => "cannot read ".toList ++ path.write
  | lint fault => fault.message
  | listing mismatch => mismatch.message
  | save error => error.message
  | report error => error.message
  | noWindow => "there is no window of time".toList

end Fault

/-- A computation on a console that may fail. -/
abbrev Job (α : Type) := ExceptT Fault (StateM Console) α

namespace Job

def ofExcept {ε α : Type} (fault : ε → Fault) : Except ε α → Job α
  | .ok value => pure value
  | .error error => throw (fault error)

def change (change : Console → Console) : Job Unit :=
  modify change

def print {ε : Type} (fault : ε → Fault) (line : Except ε Text) : Job Unit := do
  let line ← ofExcept fault line
  change fun console => console.print line

/-- The values before the first failure, and the failure. -/
def untilFailure {ε α : Type} : List (Except ε α) → List α × Option ε
  | [] => ([], none)
  | .error error :: _ => ([], some error)
  | .ok value :: rest =>
    let (values, error) := untilFailure rest
    (value :: values, error)

/-- Prints lines of results until one of them cannot be made. -/
def printAll {ε : Type} (fault : ε → Fault) (lines : List (Except ε Text)) :
    Job Unit := do
  let (printed, failure) := untilFailure lines
  change fun console => console.printAll printed
  match failure with
  | some error => throw (fault error)
  | none => return ()

def enter
    (begun : Except SessionError (Session × FileTree × List LogEntry)) :
    Job Session := do
  let (session, tree, log) ← ofExcept .session begun
  change fun console => { console with tree := tree }.log log
  return session

def beginSession (settingsFile : Option (Option FilePath))
    (dialect : Option (Option Text)) : Job Session := do
  let console ← get
  enter (Session.start console.tree console.root settingsFile dialect)

/-- Carries out a computation on files and prints its remarks. -/
def ofLogged {α : Type} (computation : Logged FileFault α) : Job α := do
  let (result, log) := computation.result
  change fun console => console.log log
  ofExcept (fun fault => .lint (.file fault)) result

def read (session : Session) (paths : List FilePath) :
    Job (Entries Text Text) := do
  let console ← get
  ofLogged (session.read console.tree paths)

def save (session : Session) : Job Unit := do
  let console ← get
  let (result, tree) := session.save console.tree
  set { console with tree := tree }
  ofExcept .save result

end Job

end CommandLine

end AnchorLint
