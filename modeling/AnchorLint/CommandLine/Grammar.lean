import AnchorLint.Text.Quoted
import AnchorLint.Unicode.Number

/-!
# The grammar of command lines

Arguments are options or operands.  Options have long names, which may be
shortened as long as they stay unique, and names of one letter, which may be
written together behind one dash.  A value follows its option in the next
argument or behind an equals sign, where two dashes stand for no value at all.
After two dashes as an argument there are only operands.

A grammar has the meaning of its options and one place for operands.  Reading
goes from left to right and stops at the first error.
-/

namespace AnchorLint

namespace CommandLine

/-- What is wrong with a command line. -/
inductive UsageError where
  | ambiguous (argument : Text) (candidates : List Text)
  | unusedValue (option value : Text)
  | missingValue (option : Text)
  | invalidChoice (name value : Text) (choices : List Text)
  | invalidInteger (option value : Text)
  | missingOperand (name : Text)
  | unrecognized (arguments : List Text)
deriving DecidableEq

namespace UsageError

def about (name complaint : Text) : Text :=
  "argument ".toList ++ name ++ ": ".toList ++ complaint

def message : UsageError → Text
  | ambiguous argument candidates =>
    "ambiguous option: ".toList ++ argument ++ " could match ".toList
      ++ Text.join ", ".toList candidates
  | unusedValue option value =>
    about option ("ignored explicit argument ".toList ++ Quoted.ofText value)
  | missingValue option => about option "expected one argument".toList
  | invalidChoice name value choices =>
    about name ("invalid choice: ".toList ++ Quoted.ofText value
      ++ " (choose from ".toList
      ++ Text.join ", ".toList (choices.map Quoted.ofText) ++ [')'])
  | invalidInteger option value =>
    about option ("invalid int value: ".toList ++ Quoted.ofText value)
  | missingOperand name =>
    "the following arguments are required: ".toList ++ name
  | unrecognized arguments =>
    "unrecognized arguments: ".toList ++ Text.join [' '] arguments

end UsageError

/-- Why reading a command line ends early: an error, or an option that asks for
information only. -/
inductive Stop where
  | usage (error : UsageError)
  | help
  | version
deriving DecidableEq

/-- What an option does to the result `σ`.  An option that takes a value may be
given `none`, by two dashes in place of the value. -/
inductive Effect (σ : Type) where
  | flag (apply : σ → Except Stop σ)
  | value (apply : Option Text → σ → Except Stop σ)

/-- An option with its names, dashes included. -/
structure Choice (σ : Type) where
  names : List Text
  effect : Effect σ

/-- How many operands there may be. -/
inductive Arity where
  | one
  | optional
  | many
  /-- One operand, and then all arguments whatever they are. -/
  | rest
deriving DecidableEq

/-- The options, and the place for operands. -/
structure Grammar (σ : Type) where
  choices : List (Choice σ)
  arity : Arity

/-- The part that an argument plays.  A text may be attached to the name of an
option in the same argument. -/
inductive Role (σ : Type) where
  | operand
  | separator
  | option (choice : Choice σ) (name : Text) (attached : Option Text)
  | unknown

/-- An argument and the part that it plays. -/
structure Argument (σ : Type) where
  text : Text
  role : Role σ

variable {σ : Type}

/-- All names of an option, for complaints. -/
def Choice.title (choice : Choice σ) : Text :=
  Text.join ['/'] choice.names

/-- The argument after which there are only operands. -/
def separatorText : Text := ['-', '-']

def Role.isOperand : Role σ → Bool
  | operand | separator => true
  | option _ _ _ | unknown => false

namespace Grammar

def named (grammar : Grammar σ) : List (Text × Choice σ) :=
  grammar.choices.flatMap fun choice =>
    choice.names.map fun name => (name, choice)

def find? (grammar : Grammar σ) (name : Text) : Option (Choice σ) :=
  grammar.named.lookup name

def isLong (name : Text) : Bool :=
  Text.startsWith name separatorText

/-- The options that a shortened long name may stand for. -/
def longCandidates (grammar : Grammar σ) (argument : Text) :
    List (Text × Choice σ × Option Text) :=
  let (start, attached) := Text.splitFirst (· == '=') argument
  (grammar.named.filter fun entry => Text.startsWith entry.1 start).map
    fun (name, choice) => (name, choice, attached)

/-- The options that an argument with a single dash may stand for. -/
def shortCandidates (grammar : Grammar σ) (argument : Text) :
    List (Text × Choice σ × Option Text) :=
  grammar.named.filterMap fun (name, choice) =>
    if name = argument.take 2 then
      some (name, choice, some (argument.drop 2))
    else if Text.startsWith name argument then some (name, choice, none)
    else none

/-- Whether an argument is a negative number: a dash and digits, with or
without a fraction. -/
def isNegativeNumber (argument : Text) : Bool :=
  match argument with
  | '-' :: number =>
    let number :=
      if Text.endsWith number ['\n'] then number.dropLast else number
    let places := number.dropWhile Unicode.isDigit
    match places with
    | [] => !number.isEmpty
    | '.' :: places => !places.isEmpty && places.all Unicode.isDigit
    | _ => false
  | _ => false

/-- The part of an argument with a dash if no option has exactly its name. -/
def classifyOption (grammar : Grammar σ) (argument : Text) :
    Except Stop (Role σ) :=
  let candidates :=
    if isLong argument then grammar.longCandidates argument
    else grammar.shortCandidates argument
  match candidates with
  | [(name, choice, attached)] => .ok (.option choice name attached)
  | [] =>
    if isNegativeNumber argument || argument.contains ' ' then .ok .operand
    else .ok .unknown
  | _ =>
    .error (.usage (.ambiguous argument
      (candidates.map fun candidate => candidate.1)))

/-- The part of an argument before any separator. -/
def classify (grammar : Grammar σ) (argument : Text) :
    Except Stop (Role σ) :=
  match grammar.find? argument with
  | some choice => .ok (.option choice argument none)
  | none =>
    if argument.head? ≠ some '-' ∨ argument.length = 1 then .ok .operand
    else
      let (name, attached) := Text.splitFirst (· == '=') argument
      match grammar.find? name with
      | some choice => .ok (.option choice name attached)
      | none => grammar.classifyOption argument

def assign (grammar : Grammar σ) :
    List Text → Except Stop (List (Argument σ))
  | [] => .ok []
  | text :: texts =>
    if text = separatorText then
      .ok (⟨text, .separator⟩ :: texts.map fun text => ⟨text, .operand⟩)
    else do
      let role ← grammar.classify text
      let arguments ← grammar.assign texts
      return ⟨text, role⟩ :: arguments

end Grammar

/-- What has been read: the effects of the options so far, the operands once
they have been found, and the arguments that mean nothing. -/
structure Reading (σ : Type) where
  result : σ
  operands : Option (List Text) := none
  extras : List Text := []

namespace Reading

/-- Adds arguments that mean nothing. -/
def ignore (arguments : List Text) (reading : Reading σ) : Reading σ :=
  { reading with extras := reading.extras ++ arguments }

/-- Carries out effects, one after the other. -/
def apply (effects : List (σ → Except Stop σ)) (reading : Reading σ) :
    Except Stop (Reading σ) := do
  let result ← effects.foldlM (fun result effect => effect result)
    reading.result
  return { reading with result := result }

end Reading

/-- What the letters behind one dash mean: their effects, and an option that
needs a value from the next argument. -/
structure Cluster (σ : Type) where
  effects : List (σ → Except Stop σ) := []
  waiting : Option (Choice σ × (Option Text → σ → Except Stop σ)) := none

def Cluster.before (effect : σ → Except Stop σ) (cluster : Cluster σ) :
    Cluster σ :=
  { cluster with effects := effect :: cluster.effects }

def Choice.alone (choice : Choice σ) : Cluster σ :=
  match choice.effect with
  | .flag apply => { effects := [apply] }
  | .value apply => { waiting := some (choice, apply) }

namespace Grammar

def valueOf (text : Text) : Option Text :=
  if text = separatorText then none else some text

/-- An option with a text attached.  Behind a letter that takes no value there
may be more letters, each of them the name of an option. -/
def cluster (grammar : Grammar σ) (choice : Choice σ) (long : Bool)
    (text : Text) : Except Stop (Cluster σ) :=
  match choice.effect with
  | .value apply => .ok { effects := [apply (valueOf text)] }
  | .flag apply =>
    let unused := .error (.usage (.unusedValue choice.title text))
    match text with
    | [] => unused
    | letter :: rest =>
      match if long then none else grammar.find? ['-', letter] with
      | none => unused
      | some next =>
        let others : Except Stop (Cluster σ) :=
          if rest.isEmpty then .ok next.alone
          else cluster grammar next false rest
        others.map (Cluster.before apply)

def attach (grammar : Grammar σ) (choice : Choice σ) (name : Text) :
    Option Text → Except Stop (Cluster σ)
  | none => .ok choice.alone
  | some text => grammar.cluster choice (isLong name) text

/-- How many of the arguments from some point on make up the operands, if they
can be there. -/
def operandCount? (arity : Arity) (roles : List (Role σ)) : Option Nat :=
  match arity, roles with
  | .one, .separator :: .operand :: _ => some 2
  | .one, .operand :: .separator :: _ => some 2
  | .one, .operand :: _ => some 1
  | .one, _ => none
  | .optional, .separator :: .operand :: _ => some 2
  | .optional, .operand :: .separator :: _ => some 2
  | .optional, role :: _ => some (if role.isOperand then 1 else 0)
  | .optional, [] => some 0
  | .many, roles => some (roles.takeWhile Role.isOperand).length
  | .rest, .operand :: _ => some roles.length
  | .rest, .separator :: _ :: _ => some roles.length
  | .rest, _ => none

/-- The operands among the arguments that make them up: the first separator is
not one of them, unless all arguments are kept. -/
def operandTexts (arity : Arity) (arguments : List (Argument σ)) :
    List Text :=
  let texts := arguments.map Argument.text
  if arity = .rest then texts else texts.erase separatorText

def readFrom (grammar : Grammar σ) (reading : Reading σ)
    (arguments : List (Argument σ)) : Except Stop (Reading σ) :=
  match arguments with
  | [] => .ok reading
  | argument :: rest =>
    match argument.role with
    | .unknown => grammar.readFrom (reading.ignore [argument.text]) rest
    | .option choice name attached => do
      let cluster ← grammar.attach choice name attached
      match cluster.waiting, rest with
      | none, rest =>
        let reading ← reading.apply cluster.effects
        grammar.readFrom reading rest
      | some (_, apply), ⟨value, .operand⟩ :: rest =>
        let reading ← reading.apply
          (cluster.effects ++ [apply (valueOf value)])
        grammar.readFrom reading rest
      | some (waiting, _), _ =>
        .error (.usage (.missingValue waiting.title))
    | .operand | .separator =>
      match reading.operands,
          operandCount? grammar.arity (arguments.map Argument.role) with
      | none, some count =>
        let taken := arguments.take count
        grammar.readFrom
          { reading with operands := some (operandTexts grammar.arity taken) }
          (rest.drop (count - 1))
      | _, _ => grammar.readFrom (reading.ignore [argument.text]) rest
termination_by arguments.length

/-- Reads a command line, with `start` as the result before any option. -/
def read (grammar : Grammar σ) (start : σ) (texts : List Text) :
    Except Stop (Reading σ) := do
  let arguments ← grammar.assign texts
  grammar.readFrom { result := start } arguments

end Grammar

end CommandLine

end AnchorLint
