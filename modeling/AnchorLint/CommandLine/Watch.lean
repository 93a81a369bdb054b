import AnchorLint.CommandLine.Console
import AnchorLint.CommandLine.Report
import AnchorLint.Watch.Relint

/-!
# Watching a directory

A watch waits for changes in a directory and lints what they affect.  Its
texts are for people, its events for other programs.
-/

namespace AnchorLint

namespace CommandLine

/-- How a watch reports: with texts, with events as JSON, or not at all. -/
inductive Tone where
  | plain
  | events
  | silent
deriving DecidableEq

/-- A directory that is watched. -/
structure Watch where
  session : Session
  path : FilePath
  /-- The time in milliseconds that must pass without changes. -/
  window : Option Int
  tone : Tone
  pending : Pending := {}

namespace Watch

/-- Prints lines if a watch reports with texts. -/
def say (tone : Tone) (lines : List Text) (console : Console) : Console :=
  if tone = .plain then console.printAll lines else console

def windowText : Option Int → Text
  | some window => Text.ofInt window
  | none => "[]".toList

/-- Lints all documents in a directory, so that the links between them are
known when changes come. -/
def start (session : Session) (path : FilePath) (window : Option Int)
    (tone : Tone) : Job Watch := do
  let sources ← Job.read session [path]
  let (_, session) ← Job.ofExcept .lint (session.lintOnly sources)
  Job.change (say tone
    [ "Indexed ".toList ++ Text.ofNat sources.length ++ " files".toList,
      "Watching ".toList ++ path.write ++ " (debounce: ".toList
        ++ windowText window ++ "ms)".toList,
      "Press Ctrl+C to stop".toList ])
  return { session := session, path := path, window := window, tone := tone }

def observe (tree : FileTree) (now : Instant) (event : FileEvent)
    (watch : Watch) : Watch :=
  { watch with
    pending := watch.pending.observe (watch.session.storage.wants tree) now
      event }

/-- Takes the pending changes if it is time to. -/
def poll (now : Instant) (watch : Watch) :
    Except Fault (Option Batch × Watch) :=
  match watch.pending.poll watch.window now with
  | some (batch, pending) => .ok (batch, { watch with pending := pending })
  | none => .error .noWindow

def flush (watch : Watch) : Option Batch × Watch :=
  let (batch, pending) := watch.pending.flush
  (batch, { watch with pending := pending })

/-- Lints what a batch affects and keeps the workspace for later runs. -/
def relint (batch : Batch) (watch : Watch) (console : Console) :
    Except Fault LintResults × Watch × Console :=
  let (result, session, log) := watch.session.relint console.tree batch
  let console := console.log log
  let watch := { watch with session := session }
  match result with
  | .error fault => (.error (.lint fault), watch, console)
  | .ok results =>
    let (saved, tree) := session.save console.tree
    let console := { console with tree := tree }
    match saved with
    | .error error => (.error (.save error), watch, console)
    | .ok () => (.ok results, watch, console)

/-- Events are on one line each. -/
def eventStyle : Json.Style := ⟨true, none⟩

def keysValue (watch : Watch) (tree : FileTree) (paths : List FilePath) :
    Value :=
  .list ((Text.sort (paths.map (watch.session.storage.key tree))).map .str)

def batchEvent (watch : Watch) (tree : FileTree) (batch : Batch)
    (results : LintResults) (duration : Nat) : Value :=
  .map
    [ (Report.key "type", .str "batch".toList),
      (Report.key "changed", watch.keysValue tree batch.changed),
      (Report.key "deleted", watch.keysValue tree batch.deleted),
      (Report.key "findings",
        .list ((Report.allFindings results).map ReportedFinding.toValue)),
      (Report.key "duration_ms", .int duration) ]

def failureEvent (fault : Fault) : Value :=
  .map
    [ (Report.key "type", .str "error".toList),
      (Report.key "message", .str fault.message) ]

def batchLines (results : LintResults) (duration : Nat) :
    List (Except Json.WriteError Text) :=
  let findings := Report.allFindings results
  findings.map ReportedFinding.write
    ++ [.ok ("Re-linted ".toList ++ Text.ofNat results.length
      ++ " files: ".toList ++ Text.ofNat findings.length
      ++ " findings (".toList ++ Text.ofNat duration ++ "ms)".toList)]

def printEvent (event : Value) : Job Unit :=
  Job.print .report (eventStyle.write event)

def report (watch : Watch) (batch : Batch)
    (outcome : Except Fault LintResults) (duration : Nat) : Job Unit := do
  match outcome, watch.tone with
  | .error fault, .events => printEvent (failureEvent fault)
  | .error fault, _ =>
    Job.change fun console => console.complain fault.message
  | .ok results, .events =>
    let console ← get
    printEvent (watch.batchEvent console.tree batch results duration)
  | .ok results, .plain => Job.printAll .report (batchLines results duration)
  | .ok _, .silent => return ()

/-- Lints what a batch affects and reports it.  `duration` is the time in
milliseconds that this takes. -/
def handle (duration : Nat) (batch : Option Batch) (watch : Watch)
    (console : Console) : Except Fault Unit × Watch × Console :=
  match batch with
  | none => (.ok (), watch, console)
  | some batch =>
    let (outcome, watch, console) := watch.relint batch console
    let (result, console) :=
      (watch.report batch outcome duration).run console
    (result, watch, console)

/-- Handles the pending changes if it is time to. -/
def tick (now : Instant) (duration : Nat) (watch : Watch)
    (console : Console) : Except Fault Unit × Watch × Console :=
  match watch.poll now with
  | .ok (batch, watch) => watch.handle duration batch console
  | .error fault => (.error fault, watch, console)

/-- Handles the pending changes before a watch ends with a result.  A fault on
the way takes the place of the result. -/
def finish (result : Except Fault Unit) (duration : Nat) (watch : Watch)
    (console : Console) : Except Fault Unit × Console :=
  let (batch, watch) := watch.flush
  match watch.handle duration batch console with
  | (.ok (), _, console) => (result, console)
  | (.error fault, _, console) => (.error fault, console)

def stop (now : Instant) (duration : Nat) (watch : Watch)
    (console : Console) : Except Fault Unit × Console :=
  let console := say watch.tone [[], "Shutting down...".toList] console
  let (result, watch, console) := watch.tick now duration console
  match watch.finish result duration console with
  | (.ok (), console) =>
    (.ok (), say watch.tone ["Watch stopped".toList] console)
  | failed => failed

end Watch

end CommandLine

end AnchorLint
