import AnchorLint.Data.Toml.Scalar
import AnchorLint.Data.Toml.Table

/-!
# Reading TOML

Configuration files and some front matter are TOML documents.  A document is a
list of statements, one a line: a table header, an array header, or a key with
its value.  The functions below take a `limit` that is greater than the number
of characters of the document.  It bounds no nesting: a reader that gives up on
deep values is not modelled.
-/

namespace AnchorLint

namespace Toml

/-- Whether a character may stand in a key without quotes. -/
def isBareKey (character : Char) : Bool :=
  character.isAlphanum || character == '-' || character == '_'

def keyPart (limit : Nat) (text : Text) : Except ReadError (Text × Text) :=
  match text with
  | [] => .error .malformed
  | first :: rest =>
    if isBareKey first then
      .ok (text.takeWhile isBareKey, text.dropWhile isBareKey)
    else if first = Quoted.apostrophe then demand (literal? rest)
    else if first = '"' then demand (basic? false limit rest)
    else .error .malformed

/-- A dotted key and the space behind it.  `steps` bounds the number of
parts. -/
def keyFrom (limit : Nat) : (steps : Nat) → Text → Except ReadError (Key × Text)
  | 0, _ => .error .malformed
  | steps + 1, text => do
    let (name, rest) ← keyPart limit text
    match skipSpace rest with
    | '.' :: rest =>
      let (more, rest) ← keyFrom limit steps (skipSpace rest)
      return (name :: more, rest)
    | rest => return ([name], rest)

/-- A dotted key and the space behind it. -/
def key (limit : Nat) (text : Text) : Except ReadError (Key × Text) :=
  keyFrom limit limit text

/-- What follows the space, line breaks and comments between the items of an
array.  `steps` bounds the number of comments. -/
def skipLines : (steps : Nat) → Text → Except ReadError Text
  | 0, text => .ok text
  | steps + 1, text =>
    match text.dropWhile isSpaceOrBreak with
    | '#' :: rest => do
      let rest ← skipComment ('#' :: rest)
      skipLines steps rest
    | rest => .ok rest

/-- What follows the space, line breaks and comments at the start of a text. -/
def skipAll (limit : Nat) (text : Text) : Except ReadError Text :=
  skipLines limit text

/-- An inline table under construction: its entries, and the keys whose values
may not be extended. -/
structure InlineDraft where
  table : Table := []
  frozen : List Key := []

/-- Gives a key of an inline table a value. -/
def InlineDraft.assign? (draft : InlineDraft) (key : Key) (value : Value) :
    Option InlineDraft := do
  let name ← key.getLast?
  if draft.frozen.any fun root => root.isPrefixOf key then none
  else
    let table ← draft.table.change? false (Table.addNew? name value)
      key.dropLast
    return ⟨table,
      if Draft.isContainer value then key :: draft.frozen else draft.frozen⟩

mutual

/-- A value at the start of a text.  `steps` bounds the nesting and the number
of items. -/
def value (limit : Nat) : (steps : Nat) → Text → Except ReadError (Value × Text)
  | 0, _ => .error .malformed
  | steps + 1, text =>
    match text with
    | '[' :: rest => do
      let (items, rest) ← items limit steps rest
      return (.list items, rest)
    | '{' :: rest =>
      match skipSpace rest with
      | '}' :: rest => .ok (.map [], rest)
      | rest => do
        let (table, rest) ← inlineTable limit steps {} rest
        return (.map table, rest)
    | _ => scalar limit text

def items (limit : Nat) :
    (steps : Nat) → Text → Except ReadError (List Value × Text)
  | 0, _ => .error .malformed
  | steps + 1, text => do
    let text ← skipAll limit text
    match text with
    | ']' :: rest => return ([], rest)
    | _ =>
      let (item, rest) ← value limit steps text
      let rest ← skipAll limit rest
      match rest with
      | ']' :: rest => return ([item], rest)
      | ',' :: rest =>
        let (more, rest) ← items limit steps rest
        return (item :: more, rest)
      | _ => .error .malformed

/-- The entries of an inline table up to its closing brace, behind the ones
read so far. -/
def inlineTable (limit : Nat) : (steps : Nat) → InlineDraft → Text →
    Except ReadError (Table × Text)
  | 0, _, _ => .error .malformed
  | steps + 1, draft, text => do
    let (name, rest) ← key limit text
    match rest with
    | '=' :: rest =>
      let (content, rest) ← value limit steps (skipSpace rest)
      match draft.assign? name content with
      | none => .error .malformed
      | some draft =>
        match skipSpace rest with
        | '}' :: rest => return (draft.table, rest)
        | ',' :: rest => inlineTable limit steps draft (skipSpace rest)
        | _ => .error .malformed
    | _ => .error .malformed

end

/-- The draft after a change that may be refused, and what follows it. -/
def changed (draft : Option Draft) (rest : Text) :
    Except ReadError (Draft × Text) :=
  match draft with
  | some draft => .ok (draft, rest)
  | none => .error .malformed

def header (limit : Nat) (declare : Key → Draft → Option Draft)
    (closing : Text) (draft : Draft) (text : Text) :
    Except ReadError (Draft × Text) := do
  let (name, rest) ← key limit (skipSpace text)
  let (draft, rest) ← changed (declare name draft.startSection) rest
  match Text.after? closing rest with
  | some rest => return (draft, rest)
  | none => .error .malformed

def assignment (limit : Nat) (draft : Draft) (text : Text) :
    Except ReadError (Draft × Text) := do
  let (name, rest) ← key limit text
  match rest with
  | '=' :: rest =>
    let (content, rest) ← value limit limit (skipSpace rest)
    changed (draft.assign? name content) rest
  | _ => .error .malformed

def startsKey (character : Char) : Bool :=
  isBareKey character || character == '"' || character == Quoted.apostrophe

/-- A statement, which may be empty, at the start of a line. -/
def statement (limit : Nat) (draft : Draft) (text : Text) :
    Except ReadError (Draft × Text) :=
  match text with
  | [] => .ok (draft, [])
  | '[' :: '[' :: rest => header limit Draft.declareArray? [']', ']'] draft rest
  | '[' :: rest => header limit Draft.declareTable? [']'] draft rest
  | first :: _ =>
    if startsKey first then assignment limit draft text
    else if first = '#' ∨ first = '\n' then .ok (draft, text)
    else .error .malformed

/-- The draft after all statements of a text.  `steps` bounds the number of
lines. -/
def statements (limit : Nat) :
    (steps : Nat) → Draft → Text → Except ReadError Draft
  | 0, draft, _ => .ok draft
  | steps + 1, draft, text => do
    let (draft, rest) ← statement limit draft (skipSpace text)
    let rest ← skipComment (skipSpace rest)
    match rest with
    | [] => return draft
    | '\n' :: rest => statements limit steps draft rest
    | _ => .error .malformed

/-- The text with every pair of a carriage return and a line feed replaced by
a line feed. -/
def unifyBreaks : Text → Text
  | '\r' :: '\n' :: rest => '\n' :: unifyBreaks rest
  | character :: rest => character :: unifyBreaks rest
  | [] => []

def read (text : Text) : Except ReadError Table := do
  let source := unifyBreaks text
  let limit := source.length + 1
  let draft ← statements limit limit {} source
  return draft.table

end Toml

end AnchorLint
