import AnchorLint.Anchor.Generate
import AnchorLint.CommandLine.Command
import AnchorLint.CommandLine.Watch

/-!
# Running commands

A command line is read, and its command is carried out on a console.  Every
command but one finishes with an exit code; to watch a directory is to begin
something that goes on.
-/

namespace AnchorLint

namespace CommandLine

/-- How far a command line has been carried out. -/
inductive Progress where
  | finished (exitCode : Nat)
  | watching (watch : Watch)

def version : Text := "0.3.0".toList

def summaryRemark (results : LintResults) : LogEntry :=
  ⟨.info, "cli".toList, Report.summary results⟩

/-- Prints findings in the way that the options ask for. -/
def showFindings (options : CommonOptions) (results : LintResults) :
    Job Unit :=
  if options.json then Job.print .report (Report.findingsJson results)
  else if options.quiet then return ()
  else do
    Job.printAll .report
      ((Report.allFindings results).map ReportedFinding.write)
    Job.change fun console => console.log [summaryRemark results]

/-- Lints the documents that some paths stand for, and keeps their index. -/
def lintPaths (session : Session) (paths : List FilePath) :
    Job LintResults := do
  let sources ← Job.read session paths
  let (results, session) ← Job.ofExcept .lint (session.lintOnly sources)
  Job.save session
  return results

/-- Lints the documents that some paths stand for, and shows the findings. -/
def runLint (options : CommonOptions) (session : Session)
    (paths : List FilePath) (failOn : Severity) : Job Progress := do
  let results ← lintPaths session paths
  showFindings options results
  return .finished (Report.exitCode failOn results)

/-- The text of a file, which must be readable. -/
def readDocument (path : FilePath) : Job Text := do
  let console ← get
  match ← Job.ofLogged (Storage.readText console.tree path) with
  | some text => return text
  | none => throw (.unreadable path)

def runAnchors (options : CommonOptions) (session : Session)
    (path : FilePath) : Job Progress := do
  let text ← readDocument path
  let console ← get
  let key := session.storage.key console.tree path
  let (_, linter) ← Job.ofExcept (fun error => .lint (.index error))
    (session.linter.index [(key, text)])
  match linter.workspace.get? key with
  | none => throw (.unreadable path)
  | some stored =>
    if options.json then
      Job.print .report (Report.anchorsJson key stored.toRecord)
    else Job.printAll .listing (Report.anchorLines stored.toRecord)
    return .finished 0

def runSlug (session : Session) (text : Text) : Job Progress := do
  Job.change fun console =>
    console.print (Anchor.generate session.settings.dialect text)
  return .finished 0

def CommonOptions.tone (options : CommonOptions) : Tone :=
  if options.json then .events
  else if options.quiet then .silent
  else .plain

def runWatch (options : CommonOptions) (session : Session) (path : FilePath)
    (window : Option Int) : Job Progress := do
  let console ← get
  if !console.canObserve then
    set (console.complain ("watchdog library not installed. ".toList
      ++ "Install with: pip install lintmark[watch]".toList))
    return .finished 1
  else if !(← Job.ofExcept (fun fault => .lint (.file fault))
      (console.tree.isDirectory path)) then
    set (console.complain ("Directory not found: ".toList ++ path.write))
    return .finished 1
  else
    let watch ← Watch.start session path window options.tone
    return .watching watch

def Request.run (request : Request) : Job Progress := do
  let options := request.options
  let session ← Job.beginSession options.settingsFile options.dialect
  match request.command with
  | .lint paths failOn => runLint options session paths failOn
  | .anchors path => runAnchors options session path
  | .slug text => runSlug session text
  | .watch path window => runWatch options session path window

def helpLines : List Text :=
  [ "usage: lintmark [options] command ...".toList,
    [],
    "Structural Markdown linter".toList,
    [],
    "commands:".toList,
    "  lint [--fail-on error|warn] [paths]  Lint Markdown files".toList,
    "  anchors path                         List anchors of a file".toList,
    "  slug text                            Print the anchor for a heading"
      |>.toList,
    "  watch [--debounce ms] [path]         Re-lint files on change".toList,
    [],
    "options:".toList,
    "  -h, --help       Show this help and exit".toList,
    "  --version        Show version information and exit".toList,
    "  --config FILE    Path to settings file".toList,
    "  --dialect NAME   github, kramdown or kramdown-gfm".toList,
    "  -q, --quiet      Minimize output".toList,
    "  -v, --verbose    More remarks".toList,
    "  --json           Machine-readable output".toList ]

/-- Answers a command line that asks for no command. -/
def refuse (refusal : Refusal) (console : Console) : Nat × Console :=
  match refusal.stop with
  | .help => (0, console.printAll helpLines)
  | .version =>
    (0, console.print (programName ++ ' ' :: version ++ " (".toList
      ++ console.environment ++ [')']))
  | .usage error =>
    (2, console.remark (refusal.speaker ++ ": error: ".toList
      ++ error.message))

/-- Carries out a command line.  Mistakes of the user are complained about;
other faults are left to the caller. -/
def run (texts : List Text) (console : Console) :
    Except Fault Progress × Console :=
  match Request.read texts with
  | .error refusal =>
    let (exitCode, console) := refuse refusal console
    (.ok (.finished exitCode), console)
  | .ok request =>
    match request.run.run console with
    | (.ok progress, console) => (.ok progress, console)
    | (.error fault, console) =>
      match fault.complaint? with
      | some complaint => (.ok (.finished 2), console.complain complaint)
      | none => (.error fault, console)

end CommandLine

end AnchorLint
