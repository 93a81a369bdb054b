import AnchorLint.Text.Scan
import AnchorLint.Text.Quoted
import AnchorLint.Unicode.Word

/-!
# Attribute lists

A heading may carry an attribute list in braces at its end or on the line
below it.  The list holds identifiers `#id`, classes `.class` and assignments
`key=value`; its first identifier is the custom anchor of the heading.
-/

namespace AnchorLint

/-- Skips characters that satisfy `plain` and backslash escapes. -/
def skipEscaped (plain : Char → Bool) : Text → Text
  | [] => []
  | [character] => if plain character then [] else [character]
  | character :: next :: rest =>
    if character = '\\' then
      if next = '\n' then character :: next :: rest
      else skipEscaped plain rest
    else if plain character then skipEscaped plain (next :: rest)
    else character :: next :: rest

def isIndent (character : Char) : Bool :=
  character == ' ' || character == '\t'

namespace Attribute

/-- Whether a character may stand in an identifier or a class. -/
def isNamePart (character : Char) : Bool :=
  !Unicode.isBlank character && character != '{' && character != '}'
    && character != '#' && character != '.' && character != '"'
    && character != Quoted.apostrophe && character != '='

/-- Whether a character may stand in a value without quotes. -/
def isBareValuePart (character : Char) : Bool :=
  !Unicode.isBlank character && character != '{' && character != '}'
    && character != '"' && character != Quoted.apostrophe

def isKeyPart (character : Char) : Bool :=
  Unicode.isWordCharacter character || character == '-'

/-- What follows a value in double quotes, in apostrophes, or without
quotes. -/
def afterValue? (text : Text) : Option Text :=
  match text with
  | [] => none
  | first :: rest =>
    if first = '"' then
      match skipEscaped (fun c => c != '"' && c != '\\') rest with
      | '"' :: after => some after
      | _ => none
    else if first = Quoted.apostrophe then
      match rest.dropWhile (· != Quoted.apostrophe) with
      | _ :: after => some after
      | [] => none
    else if isBareValuePart first then some (rest.dropWhile isBareValuePart)
    else none

/-- What follows one token of an attribute list, and the identifier if the
token is one. -/
def token? (text : Text) : Option (Option Text × Text) :=
  match text with
  | [] => none
  | first :: rest =>
    if first = '#' ∨ first = '.' then
      let name := rest.takeWhile isNamePart
      if name.isEmpty then none
      else
        some (if first = '#' then some name else none, rest.drop name.length)
    else
      let key := text.takeWhile isKeyPart
      if key.isEmpty then none
      else
        match text.drop key.length with
        | '=' :: value => (afterValue? value).map fun after => (none, after)
        | _ => none

/-- The first identifier among the tokens that occur in a text. -/
def customId? (body : Text) : Option Text :=
  (Pattern.findAll (fun _ text => token? text) body).findSome? Found.value

/-- What follows the tokens of a list, if at least one is there.  Tokens are
separated by spaces or tabs; `steps` bounds their number. -/
def tokens? : (steps : Nat) → Text → Option Text
  | 0, _ => none
  | steps + 1, text => do
    let (_, rest) ← token? text
    let next := rest.dropWhile isIndent
    if next.length < rest.length then
      match tokens? steps next with
      | some after => some after
      | none => some rest
    else some rest

/-- The body of an attribute list in braces, and what follows the list. -/
def block? (text : Text) : Option (Text × Text) :=
  match text with
  | '{' :: inside =>
    let inside := if Text.startsWith inside [':'] then inside.drop 1 else inside
    let body := inside.dropWhile isIndent
    match tokens? (body.length + 1) body with
    | none => none
    | some rest =>
      match rest.dropWhile isIndent with
      | '}' :: after => some (body.take (body.length - rest.length), after)
      | _ => none
  | _ => none

/-- Whether nothing but spaces and tabs is left before the end of a text or
before a line feed that ends it. -/
def atEnd (text : Text) : Bool :=
  let rest := text.dropWhile isIndent
  rest.isEmpty || rest == ['\n']

/-- The body of an attribute list that makes up a whole line. -/
def line? (text : Text) : Option Text := do
  let indent := text.takeWhile isIndent
  if 3 < indent.length then none
  else
    let (body, after) ← block? (text.drop indent.length)
    if atEnd after then return body else none

/-- The attribute list at the end of a text: the position at which it starts,
spaces before it included, and its body.  `position` is where the text
begins. -/
def suffixFrom? (position : Nat) : Text → Option (Nat × Text)
  | [] => none
  | character :: rest =>
    match block? ((character :: rest).dropWhile isIndent) with
    | some (body, after) =>
      if atEnd after then some (position, body)
      else suffixFrom? (position + 1) rest
    | none => suffixFrom? (position + 1) rest

/-- The text without an attribute list at its end, and the identifier that the
list gives. -/
def splitSuffix (text : Text) : Text × Option Text :=
  if Text.endsWith (Text.trimRight text) ['}'] then
    match suffixFrom? 0 text with
    | some (position, body) => (text.take position, customId? body)
    | none => (text, none)
  else (text, none)

end Attribute

end AnchorLint
