import AnchorLint.CommandLine.Grammar
import AnchorLint.FileTree.Path
import AnchorLint.Lint.Finding
import AnchorLint.Number.Numeral

/-!
# Commands

What can be asked for on the command line: to lint documents, to list the
anchors of one document, to show the anchor of a heading, and to watch a
directory.  Options before the command hold for every command.
-/

namespace AnchorLint

namespace CommandLine

/-- The options that every command has.  A settings file or a dialect may be
asked for without saying which. -/
structure CommonOptions where
  settingsFile : Option (Option FilePath) := none
  dialect : Option (Option Text) := none
  quiet : Bool := false
  verbose : Bool := false
  json : Bool := false
deriving DecidableEq

/-- What is asked for.  A directory may be watched without a window of time. -/
inductive Command where
  | lint (paths : List FilePath) (failOn : Severity)
  | anchors (path : FilePath)
  | slug (text : Text)
  | watch (path : FilePath) (window : Option Int)
deriving DecidableEq

/-- A command with its options. -/
structure Request where
  options : CommonOptions
  command : Command
deriving DecidableEq

/-- Why a command line asks for no command, and the name of the program or
command that says so. -/
structure Refusal where
  speaker : Text
  stop : Stop
deriving DecidableEq

def programName : Text := "lintmark".toList

def flagOption {σ : Type} (names : List String) (apply : σ → σ) : Choice σ :=
  ⟨names.map String.toList, .flag fun result => .ok (apply result)⟩

def textOption {σ : Type} (name : String) (apply : Option Text → σ → σ) :
    Choice σ :=
  ⟨[name.toList], .value fun value result => .ok (apply value result)⟩

def helpOption {σ : Type} : Choice σ :=
  ⟨["-h".toList, "--help".toList], .flag fun _ => .error .help⟩

def commonGrammar : Grammar CommonOptions :=
  { choices :=
      [ helpOption,
        ⟨["--version".toList], .flag fun _ => .error .version⟩,
        textOption "--config" fun value options =>
          { options with settingsFile := some (value.map FilePath.parse) },
        textOption "--dialect" fun value options =>
          { options with dialect := some value },
        flagOption ["-q", "--quiet"] fun options =>
          { options with quiet := true },
        flagOption ["-v", "--verbose"] fun options =>
          { options with verbose := true },
        flagOption ["--json"] fun options => { options with json := true } ]
    arity := .rest }

/-- The names of the lowest severities that make a run fail. -/
def severityNames : List Text :=
  ["error".toList, "warn".toList]

def readSeverity (value : Text) : Except Stop Severity :=
  if value = Severity.error.name then .ok .error
  else if value = Severity.warn.name then .ok .warn
  else
    .error (.usage (.invalidChoice "--fail-on".toList value severityNames))

/-- The option for the lowest severity that makes a run fail. -/
def failOnOption : Choice Severity :=
  ⟨["--fail-on".toList], .value fun value _ =>
    match value with
    | none => .ok .warn
    | some value => readSeverity value⟩

def lintGrammar : Grammar Severity :=
  ⟨[helpOption, failOnOption], .many⟩

/-- The grammar of commands that have one operand and no options. -/
def plainGrammar : Grammar Unit :=
  ⟨[helpOption], .one⟩

/-- A numeral without the single underscores between its digits. -/
def dropUnderscores : Text → Text
  | first :: '_' :: second :: rest =>
    if Unicode.isDigit first ∧ Unicode.isDigit second then
      first :: dropUnderscores (second :: rest)
    else first :: '_' :: dropUnderscores (second :: rest)
  | character :: rest => character :: dropUnderscores rest
  | [] => []

def readWindow (value : Text) : Except Stop Int :=
  match Numeral.integer 10 (dropUnderscores value) with
  | .ok window => .ok window
  | .error _ => .error (.usage (.invalidInteger "--debounce".toList value))

/-- The option for the time that must pass without changes. -/
def windowOption : Choice (Option Int) :=
  ⟨["--debounce".toList], .value fun value _ =>
    match value with
    | none => .ok none
    | some value => (readWindow value).map some⟩

def watchGrammar : Grammar (Option Int) :=
  ⟨[helpOption, windowOption], .optional⟩

/-- The time in milliseconds that must pass without changes if none is given. -/
def standardWindow : Int := 150

/-- The paths that operands denote, or the working directory. -/
def pathsOr (operands : Option (List Text)) : List FilePath :=
  match operands with
  | some (path :: paths) => (path :: paths).map FilePath.parse
  | _ => [FilePath.parse ['.']]

def operandOf (name : String) (operands : Option (List Text)) :
    Except Stop Text :=
  match operands with
  | some (operand :: _) => .ok operand
  | _ => .error (.usage (.missingOperand name.toList))

/-- Reads what follows the word for a command: the command, and the arguments
that mean nothing. -/
def readCommand (word : Text) (texts : List Text) :
    Option (Except Stop (Command × List Text)) :=
  if word = "lint".toList then some do
    let reading ← lintGrammar.read .warn texts
    return (.lint (pathsOr reading.operands) reading.result, reading.extras)
  else if word = "anchors".toList then some do
    let reading ← plainGrammar.read () texts
    let path ← operandOf "path" reading.operands
    return (.anchors (FilePath.parse path), reading.extras)
  else if word = "slug".toList then some do
    let reading ← plainGrammar.read () texts
    let text ← operandOf "text" reading.operands
    return (.slug text, reading.extras)
  else if word = "watch".toList then some do
    let reading ← watchGrammar.read (some standardWindow) texts
    let path := (reading.operands.bind List.head?).getD ['.']
    return (.watch (FilePath.parse path) reading.result, reading.extras)
  else none

def commandWords : List Text :=
  ["lint".toList, "anchors".toList, "slug".toList, "watch".toList]

/-- A result, where the program or a command says why there is none. -/
def saidBy {α : Type} (speaker : Text) : Except Stop α → Except Refusal α
  | .ok value => .ok value
  | .error stop => .error ⟨speaker, stop⟩

def Request.read (texts : List Text) : Except Refusal Request := do
  let reading ← saidBy programName (commonGrammar.read {} texts)
  let refuse (error : UsageError) : Refusal := ⟨programName, .usage error⟩
  match reading.operands with
  | some (word :: rest) =>
    match readCommand word rest with
    | none => .error (refuse (.invalidChoice "cmd".toList word commandWords))
    | some result =>
      let (command, extras) ← saidBy (programName ++ ' ' :: word) result
      let unknown := reading.extras ++ extras
      if unknown.isEmpty then return ⟨reading.result, command⟩
      else .error (refuse (.unrecognized unknown))
  | _ => .error (refuse (.missingOperand "cmd".toList))

end CommandLine

end AnchorLint
