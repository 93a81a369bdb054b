import AnchorLint.Markup.Run
import AnchorLint.Text.Scan
import AnchorLint.Unicode.Word

/-!
# Visible text

The visible text of a heading is its source without inline markup.  Links
keep their text, images their alternative text and code spans their content;
comments, tags and paired underscores vanish, and a backslash before a
punctuation character is dropped.  Asterisks and tildes stay: they vanish with
the other punctuation when an anchor is formed.
-/

namespace AnchorLint

namespace Markup

def backtick : Char :=
  Char.ofNat 0x60

/-- A closed comment, replaced by nothing. -/
def comment (text : Text) : Option (Text × Text) :=
  match text with
  | '<' :: '!' :: '-' :: '-' :: inside =>
    (Text.find? ['-', '-', '>'] inside).map fun position =>
      ([], inside.drop (position + 3))
  | _ => none

def isAsciiLetter (character : Char) : Bool :=
  character.isAlpha

/-- A tag, replaced by nothing. -/
def tag (text : Text) : Option (Text × Text) :=
  let inside (name : Text) : Option (Text × Text) :=
    match name with
    | first :: rest =>
      if isAsciiLetter first then
        match rest.dropWhile fun c => c != '<' && c != '>' with
        | '>' :: after => some ([], after)
        | _ => none
      else none
    | [] => none
  match text with
  | '<' :: '/' :: name => inside name
  | '<' :: name => inside name
  | _ => none

/-- A text without brackets between `[` and `]`, and what follows it. -/
def bracketed (text : Text) : Option (Text × Text) :=
  match text with
  | '[' :: inside =>
    match inside.span fun c => c != '[' && c != ']' with
    | (label, ']' :: after) => some (label, after)
    | _ => none
  | _ => none

/-- What follows a text without parentheses between `(` and `)`. -/
def afterParenthesized (text : Text) : Option Text :=
  match text with
  | '(' :: inside =>
    match inside.dropWhile fun c => c != '(' && c != ')' with
    | ')' :: after => some after
    | _ => none
  | _ => none

/-- An inline link, replaced by its text. -/
def inlineLink (text : Text) : Option (Text × Text) := do
  let (label, after) ← bracketed text
  let after ← afterParenthesized after
  return (label, after)

/-- An image, replaced by its alternative text. -/
def image (text : Text) : Option (Text × Text) :=
  match text with
  | '!' :: link => inlineLink link
  | _ => none

/-- A reference link, replaced by its text. -/
def referenceLink (text : Text) : Option (Text × Text) := do
  let (label, after) ← bracketed text
  let (_, after) ← bracketed after
  return (label, after)

/-- Whether a character is ASCII punctuation, so that a backslash before it is
an escape. -/
def isPunctuation (character : Char) : Bool :=
  33 ≤ character.toNat && character.toNat ≤ 126 && !character.isAlphanum

/-- A backslash escape, replaced by the escaped character. -/
def escape (text : Text) : Option (Text × Text) :=
  match text with
  | '\\' :: character :: after =>
    if isPunctuation character then some ([character], after) else none
  | _ => none

/-- An underscore run opens emphasis unless it follows a word character or a
backslash or comes before a blank. -/
def opensEmphasis (run : Run) : Bool :=
  !(run.before.any fun c => Unicode.isAlphanumeric c || c == '\\') &&
    run.after.any fun c => !Unicode.isBlank c

/-- An underscore run closes emphasis if it follows a visible character and no
word character follows it. -/
def closesEmphasis (run : Run) : Bool :=
  (run.before.any fun c => !Unicode.isBlank c) &&
    !(run.after.any Unicode.isAlphanumeric)

/-- The text from `position` on without the given delimiter pairs; `outside`
treats what lies between the pairs. -/
def unwrapFrom (outside : Text → Text) (text : Text) :
    (position : Nat) → List (Run × Run) → Text
  | position, [] => outside (text.drop position)
  | position, (opener, closer) :: rest =>
    outside (text.slice position opener.start)
      ++ text.slice opener.stop closer.start
      ++ unwrapFrom outside text closer.stop rest

/-- The text without the underscores that delimit emphasis. -/
def stripEmphasis (text : Text) : Text :=
  unwrapFrom id text 0
    (Run.pairs (Run.collect '_' text) opensEmphasis closesEmphasis)

/-- The visible text of a source without code spans. -/
def stripProse (text : Text) : Text :=
  let text := Pattern.replaceAll comment text
  let text := Pattern.replaceAll tag text
  let text := Pattern.replaceAll image text
  let text := Pattern.replaceAll inlineLink text
  let text := Pattern.replaceAll referenceLink text
  let text := stripEmphasis text
  Pattern.replaceAll escape text

def visible (text : Text) : Text :=
  let runs := Run.collect backtick text
  unwrapFrom stripProse text 0
    (Run.pairs runs (fun _ => true) fun _ => true)

end Markup

end AnchorLint
