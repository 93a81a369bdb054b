import AnchorLint.CommandLine.Run

/-!
# The program

The program reads the files that a run may look at, carries out the command
line on them, and writes back what has changed.  While a directory is watched,
the files are read again from time to time, and the differences are the events.
-/

namespace AnchorLint

namespace Program

/-- The files and directories that were found. -/
abbrev Nodes := Entries (List Text) FileNode

/-- The path of the file system to a place. -/
def nativePath (place : List Text) : String :=
  String.ofList (FilePath.ofSegments place).write

/-- What a path of the file system leads to.  A link to a directory is nothing
to enter. -/
def kindOf (path : String) : IO IO.FS.FileType := do
  let full := (← IO.currentDir) / path
  match (← full.symlinkMetadata).type with
  | .symlink =>
    let kind := (← full.metadata).type
    return if kind == .dir then .other else kind
  | kind => return kind

def readBytes (path : String) : IO Bytes := do
  let content ← IO.FS.readBinFile path
  return content.toList

/-- Adds what is at a place and below it.  Directories without documents are
not entered. -/
partial def collect (place : List Text) (nodes : Nodes) : IO Nodes := do
  let path := nativePath place
  match ← (kindOf path).toBaseIO with
  | .ok .dir =>
    let nodes := (place, FileNode.directory) :: nodes
    if Storage.skippedDirectories.contains (place.getLast?.getD []) then
      return nodes
    else
      let entries ← ((← IO.currentDir) / path).readDir
      entries.foldlM (fun nodes entry =>
        collect (place ++ [entry.fileName.toList]) nodes) nodes
  | .ok .file => return (place, FileNode.file (← readBytes path)) :: nodes
  | _ => return nodes

def addAncestors (place : List Text) (nodes : Nodes) : Nodes :=
  (List.range place.length).foldl (fun nodes length =>
    if nodes.any fun entry => entry.1 == place.take length then nodes
    else (place.take length, .directory) :: nodes) nodes

/-- Adds what a path leads to, unless it is among the nodes. -/
def addPath (tree : FileTree) (path : FilePath) : IO FileTree := do
  let place := tree.resolve path
  if tree.nodes.any fun entry => entry.1 == place then return tree
  else
    let nodes ← collect place tree.nodes
    return { tree with nodes := addAncestors place nodes }

/-- The paths that arguments may mean: the arguments themselves, and what
stands behind an equals sign. -/
def pathsIn (arguments : List Text) : List FilePath :=
  arguments.flatMap fun argument =>
    let (name, value) := Text.splitFirst (· == '=') argument
    FilePath.parse name :: (value.map FilePath.parse).toList

/-- The place where the workspace is kept, if the settings say so. -/
def cachePath? (tree : FileTree) (arguments : List Text) :
    Option FilePath := do
  let request ← (CommandLine.Request.read arguments).toOption
  let root := FilePath.ofSegments tree.workingDirectory
  let settings ←
    (Settings.load tree request.options.settingsFile.join (some root)).toOption
  settings.cacheDirectoryIn? root

def snapshot (arguments : List Text) : IO FileTree := do
  let current ← IO.currentDir
  let place := (FilePath.parse current.toString.toList).parts
  let empty : FileTree := ⟨[], place⟩
  let around ← addPath empty (FilePath.ofSegments place)
  let tree ← (pathsIn arguments).foldlM addPath around
  (cachePath? tree arguments).toList.foldlM addPath tree

/-- Writes what differs between the files before and after a run, directories
first. -/
def writeBack (old new : FileTree) : IO Unit := do
  let changed := new.nodes.filter fun entry =>
    old.nodeAt? entry.1 != some entry.2
  for (place, node) in changed do
    if node == .directory then IO.FS.createDirAll (nativePath place)
  for (place, node) in changed do
    if let .file content := node then
      IO.FS.writeBinFile (nativePath place) ⟨content.toArray⟩
  for (place, _) in old.nodes do
    if (new.nodeAt? place).isNone then IO.FS.removeFile (nativePath place)

def printOut (console : CommandLine.Console) : IO Unit := do
  let stdout ← IO.getStdout
  let stderr ← IO.getStderr
  stdout.putStr (String.ofList console.output)
  stdout.flush
  stderr.putStr (String.ofList console.errors)
  stderr.flush

/-- Writes back what has changed since `old`, prints what a console holds, and
empties it. -/
def settle (old : FileTree) (console : CommandLine.Console) :
    IO CommandLine.Console := do
  writeBack old console.tree
  printOut console
  return { console with output := [], errors := [] }

/-- The path from the working directory to a place, if it is inside. -/
def shownPath (tree : FileTree) (place : List Text) : FilePath :=
  match tree.workingDirectory.isPrefixOf? place with
  | some parts => ⟨[], parts⟩
  | none => FilePath.ofSegments place

/-- What happened to files between two readings. -/
def changes (old new : FileTree) : List FileEvent :=
  let gone := old.nodes.filter fun entry => (new.nodeAt? entry.1).isNone
  let touched := new.nodes.filter fun entry =>
    old.nodeAt? entry.1 != some entry.2
  let event (place : List Text) (node : FileNode)
      (change : FilePath → FileChange) : FileEvent :=
    ⟨change (shownPath new place), node == .directory⟩
  (gone.map fun (place, node) => event place node .deleted)
    ++ touched.map fun (place, node) =>
      event place node
        (if (old.nodeAt? place).isSome then .modified else .created)

/-- The time between two readings in milliseconds. -/
def pause : UInt32 := 100

/-- Complains about a fault that ends the program. -/
def giveUp (fault : CommandLine.Fault) : IO UInt32 := do
  (← IO.getStderr).putStrLn (String.ofList fault.message)
  return 1

/-- Watches until the program is stopped from outside. -/
partial def watchLoop (arguments : List Text) (watch : CommandLine.Watch)
    (console : CommandLine.Console) : IO UInt32 := do
  IO.sleep pause
  let tree ← snapshot arguments
  let now ← IO.monoMsNow
  let instant := Instant.ofMilliseconds (.ofNat now)
  let events := changes console.tree tree
  let watch := events.foldl (fun watch event =>
    watch.observe tree instant event) watch
  let console := { console with tree := tree }
  match watch.poll instant with
  | .error fault =>
    let (_, console) := watch.finish (.error fault) 0 console
    let _ ← settle tree console
    giveUp fault
  | .ok (none, watch) => watchLoop arguments watch console
  | .ok (some batch, watch) =>
    let (outcome, watch, console) := watch.relint batch console
    let console ← settle tree console
    let later ← IO.monoMsNow
    let (result, console) :=
      (watch.report batch outcome (later - now)).run console
    let console ← settle console.tree console
    match result with
    | .ok () => watchLoop arguments watch console
    | .error fault => giveUp fault

end Program

end AnchorLint

open AnchorLint in
def main (arguments : List String) : IO UInt32 := do
  let texts := arguments.map String.toList
  let tree ← Program.snapshot texts
  let console : CommandLine.Console :=
    { tree := tree, environment := "commit unknown".toList }
  let (result, console) := CommandLine.run texts console
  let console ← Program.settle tree console
  match result with
  | .ok (.finished exitCode) => return exitCode.toUInt32
  | .ok (.watching watch) => Program.watchLoop texts watch console
  | .error fault => Program.giveUp fault
