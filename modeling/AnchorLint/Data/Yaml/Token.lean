import AnchorLint.Data.Yaml.Scalar

/-!
# YAML tokens

A YAML text is cut into tokens.  Besides the marks and scalars that are written
out there are tokens for the structure that only the layout shows: the start
and end of indented blocks, and the keys in front of a colon.  Whether a token
is a key is known only when the colon behind it is reached; until then it is a
candidate, and the key mark is put before it afterwards.
-/

namespace AnchorLint

namespace Yaml

/-- A token.  A tag has the handle in front of it, if there is one. -/
inductive Token where
  | version (major : Nat)
  | tagHandle (handle replacement : Text)
  | otherDirective
  | documentStart
  | documentEnd
  | blockSequenceStart
  | blockMappingStart
  | blockEnd
  | flowSequenceStart
  | flowSequenceEnd
  | flowMappingStart
  | flowMappingEnd
  | blockEntry
  | flowEntry
  | key
  | value
  | alias (name : Text)
  | anchor (name : Text)
  | tag (handle : Option Text) (suffix : Text)
  | scalar (text : Text) (isPlain : Bool)
deriving DecidableEq

/-- The tokens of a text in order.  If the text insists on a character or a
number that does not exist, these are the tokens that are known before that
fault is met. -/
structure TokenStream where
  tokens : List Token
  fault : Option Fault

def isNameCharacter (character : Char) : Bool :=
  character.isAlphanum || character == '-' || character == '_'

/-! ## Tags -/

def isTagCharacter (character : Char) : Bool :=
  character.isAlphanum
    || "-;/?:@&=+$,_.!~*()[]%".toList.contains character
    || character == Quoted.apostrophe

/-- The bytes of percent escapes in a row.  `steps` bounds their number. -/
def escapedBytes : (steps : Nat) → Cursor → Option (Bytes × Cursor)
  | 0, cursor => some ([], cursor)
  | steps + 1, cursor =>
    if cursor.peek = '%' then do
      let high ← Text.hexValue? (cursor.ahead 1)
      let low ← Text.hexValue? (cursor.ahead 2)
      let (bytes, cursor) ← escapedBytes steps (cursor.advanceBy 3)
      return (UInt8.ofNat (16 * high + low) :: bytes, cursor)
    else some ([], cursor)

/-- The characters of a tag, with escapes replaced.  `steps` bounds the number
of characters. -/
def tagCharacters : (steps : Nat) → Cursor → Option (Text × Cursor)
  | 0, cursor => some ([], cursor)
  | steps + 1, cursor =>
    if cursor.peek = '%' then do
      let (bytes, cursor) ← escapedBytes cursor.steps cursor
      let text ← Utf8.decode? bytes
      let (more, cursor) ← tagCharacters steps cursor
      return (text ++ more, cursor)
    else if isTagCharacter cursor.peek then do
      let (more, behind) ← tagCharacters steps cursor.advance
      return (cursor.peek :: more, behind)
    else some ([], cursor)

def tagName? (cursor : Cursor) : Option (Text × Cursor) :=
  if isTagCharacter cursor.peek then
    tagCharacters cursor.steps cursor
  else none

/-- The handle in front of a tag: one exclamation mark, or a name between
two. -/
def tagHandle? (cursor : Cursor) : Option (Text × Cursor) :=
  if cursor.peek ≠ '!' then none
  else if cursor.ahead 1 = ' ' then some (['!'], cursor.advance)
  else
    let (name, behind) := cursor.advance.take isNameCharacter
    if behind.peek = '!' then some ('!' :: name ++ ['!'], behind.advance)
    else none

/-- A tag: a name between angle brackets, an exclamation mark alone, or a name
with a handle. -/
def tag? (cursor : Cursor) : Option (Token × Cursor) := do
  let next := cursor.ahead 1
  let (token, behind) ←
    if next = '<' then do
      let (name, behind) ← tagName? (cursor.advanceBy 2)
      if behind.peek = '>' then some (Token.tag none name, behind.advance)
      else none
    else if isGap next then some (Token.tag none ['!'], cursor.advance)
    else do
      let word := (cursor.rest.drop 1).takeWhile fun character =>
        !isSpaceOrEnd character
      let (handle, behind) ←
        if word.contains '!' then tagHandle? cursor
        else some (['!'], cursor.advance)
      let (suffix, behind) ← tagName? behind
      some (Token.tag (some handle) suffix, behind)
  if isSpaceOrEnd behind.peek then return (token, behind) else none

/-! ## Directives and names -/

def directiveNumber (cursor : Cursor) : Except Problem (Nat × Cursor) :=
  let (digits, behind) := cursor.take Char.isDigit
  if digits.isEmpty then .error .malformed
  else if ReadError.digitLimit < digits.length then
    .error (.fault (.integerTooLong digits.length))
  else .ok (Text.digitsValue 10 digits, behind)

/-- The version that a document claims to follow. -/
def version (cursor : Cursor) : Except Problem (Token × Cursor) := do
  let (major, cursor) ← directiveNumber cursor.skipSpaces
  if cursor.peek ≠ '.' then .error .malformed
  else
    let (_, cursor) ← directiveNumber cursor.advance
    if isSpaceOrEnd cursor.peek then return (.version major, cursor)
    else .error .malformed

def handle? (cursor : Cursor) : Option (Token × Cursor) := do
  let (handle, cursor) ← tagHandle? cursor.skipSpaces
  if cursor.peek ≠ ' ' then none
  else
    let (replacement, cursor) ← tagName? cursor.skipSpaces
    if isSpaceOrEnd cursor.peek then
      return (.tagHandle handle replacement, cursor)
    else none

/-- A directive; those with unknown names are ignored. -/
def directive (cursor : Cursor) : Except Problem (Token × Cursor) := do
  let (name, cursor) := cursor.advance.take isNameCharacter
  if name.isEmpty || !isSpaceOrEnd cursor.peek then .error .malformed
  else
    let (token, cursor) ←
      if name = "YAML".toList then version cursor
      else if name = "TAG".toList then required (handle? cursor)
      else
        pure (.otherDirective,
          cursor.skip fun character => !isLineEnd character)
    let cursor ← required cursor.finishLine?
    return (token, cursor)

def anchorName? (cursor : Cursor) : Option (Text × Cursor) :=
  let (name, behind) := cursor.advance.take isNameCharacter
  let next := behind.peek
  if name.isEmpty then none
  else if isGap next || "?:,]\x7d%@".toList.contains next
      || next == Char.ofNat 0x60 then
    some (name, behind)
  else none

/-! ## Cutting a text into tokens -/

/-- A token that a colon behind it would make a key.  A required one starts a
line of a block, and must be a key. -/
structure KeyCandidate where
  position : Nat
  isRequired : Bool
  index : Nat
  line : Nat
  column : Nat

/-- Whether a candidate is too far before a cursor to be a key. -/
def KeyCandidate.isStale (cursor : Cursor) (key : KeyCandidate) : Bool :=
  key.line != cursor.line || decide (1024 < cursor.index - key.index)

/-- The tokens found so far, last one first, their number, and what is needed
to go on: the indentation of the open blocks, whether a key may stand here, and
the candidates at this level of brackets and at the ones around it. -/
structure Scanner where
  cursor : Cursor
  tokens : List Token := []
  count : Nat := 0
  indent : Int := -1
  outerIndents : List Int := []
  keyAllowed : Bool := true
  candidate : Option KeyCandidate := none
  outerCandidates : List (Option KeyCandidate) := []

namespace Scanner

def inFlow (scanner : Scanner) : Bool :=
  !scanner.outerCandidates.isEmpty

def push (token : Token) (scanner : Scanner) : Scanner :=
  { scanner with
    tokens := token :: scanner.tokens
    count := scanner.count + 1 }

def insertAt (position : Nat) (inserted : List Token) (scanner : Scanner) :
    Scanner :=
  let behind := scanner.count - position
  { scanner with
    tokens := scanner.tokens.take behind ++ inserted.reverse
      ++ scanner.tokens.drop behind
    count := scanner.count + inserted.length }

/-- Skips space, comments and line breaks.  Behind a line break in a block a
key may stand.  `steps` bounds the number of lines. -/
def skipToToken : (steps : Nat) → Scanner → Scanner
  | 0, scanner => scanner
  | steps + 1, scanner =>
    let cursor := scanner.cursor.skipSpaces.skipComment
    if isBreak cursor.peek then
      skipToToken steps
        { scanner with
          cursor := cursor.lineBreak.2
          keyAllowed := scanner.keyAllowed || !scanner.inFlow }
    else { scanner with cursor := cursor }

/-- A candidate, unless it is too far away to be a key. -/
def freshen (cursor : Cursor) (candidate : Option KeyCandidate) :
    Except Problem (Option KeyCandidate) :=
  match candidate with
  | none => .ok none
  | some key =>
    if key.isStale cursor then
      if key.isRequired then .error .malformed else .ok none
    else .ok (some key)

/-- Drops the candidates that are too far away. -/
def dropStale (scanner : Scanner) : Except Problem Scanner := do
  let candidate ← freshen scanner.cursor scanner.candidate
  let outer ← scanner.outerCandidates.mapM (freshen scanner.cursor)
  return { scanner with candidate := candidate, outerCandidates := outer }

/-- Drops the candidate at this level, which must not be a required one. -/
def dropCandidate (scanner : Scanner) : Except Problem Scanner :=
  if scanner.candidate.any KeyCandidate.isRequired then .error .malformed
  else .ok { scanner with candidate := none }

/-- Makes the next token a candidate, if a key may stand here. -/
def addCandidate (scanner : Scanner) : Except Problem Scanner :=
  if scanner.keyAllowed then do
    let scanner ← scanner.dropCandidate
    let cursor := scanner.cursor
    return { scanner with
      candidate := some
        { position := scanner.count
          isRequired := !scanner.inFlow && scanner.indent == cursor.column
          index := cursor.index
          line := cursor.line
          column := cursor.column } }
  else .ok scanner

/-- Closes the blocks that are indented more than a column. -/
def closeBlocks (column : Int) (scanner : Scanner) : Scanner :=
  if scanner.inFlow then scanner
  else
    let indents := scanner.indent :: scanner.outerIndents
    let closed := (indents.takeWhile fun indent => column < indent).length
    match indents.drop closed with
    | indent :: outer =>
      { scanner with
        tokens := List.replicate closed .blockEnd ++ scanner.tokens
        count := scanner.count + closed
        indent := indent
        outerIndents := outer }
    | [] => scanner

/-- Opens a block at a column, unless it is open already, and tells whether it
did. -/
def openBlock (column : Nat) (scanner : Scanner) : Bool × Scanner :=
  if scanner.indent < column then
    (true, { scanner with
      indent := column
      outerIndents := scanner.indent :: scanner.outerIndents })
  else (false, scanner)

/-- Opens a block at the cursor for an entry that is written out.  Inside
brackets there are no blocks. -/
def openEntry (start : Token) (scanner : Scanner) : Except Problem Scanner :=
  if scanner.inFlow then .ok scanner
  else if !scanner.keyAllowed then .error .malformed
  else
    match scanner.openBlock scanner.cursor.column with
    | (true, scanner) => .ok (scanner.push start)
    | (false, scanner) => .ok scanner

def advanceBy (count : Nat) (scanner : Scanner) : Scanner :=
  { scanner with cursor := scanner.cursor.advanceBy count }

/-- Takes over a token that was read at the cursor. -/
def accept (found : Token × Cursor) (scanner : Scanner) : Scanner :=
  { scanner.push found.1 with cursor := found.2 }

/-- Closes all blocks before a mark of a document. -/
def leaveDocument (scanner : Scanner) : Except Problem Scanner := do
  let scanner ← (scanner.closeBlocks (-1)).dropCandidate
  return { scanner with keyAllowed := false }

/-- An opening bracket. -/
def openFlow (token : Token) (scanner : Scanner) : Except Problem Scanner := do
  let scanner ← scanner.addCandidate
  return (
    { scanner.push token with
      keyAllowed := true
      candidate := none
      outerCandidates := scanner.candidate :: scanner.outerCandidates }
    : Scanner).advanceBy 1

/-- A closing bracket. -/
def closeFlow (token : Token) (scanner : Scanner) : Except Problem Scanner := do
  let scanner ← scanner.dropCandidate
  match scanner.outerCandidates with
  | candidate :: outer =>
    return (
      { scanner.push token with
        keyAllowed := false
        candidate := candidate
        outerCandidates := outer }
      : Scanner).advanceBy 1
  | [] => .error .malformed

/-- A comma between brackets. -/
def flowEntry (scanner : Scanner) : Except Problem Scanner := do
  let scanner ← scanner.dropCandidate
  return ({ scanner.push .flowEntry with keyAllowed := true }
    : Scanner).advanceBy 1

/-- The hyphen before an item of a block. -/
def blockEntry (scanner : Scanner) : Except Problem Scanner := do
  let scanner ← scanner.openEntry .blockSequenceStart
  let scanner ← scanner.dropCandidate
  return ({ scanner.push .blockEntry with keyAllowed := true }
    : Scanner).advanceBy 1

/-- The question mark before a key. -/
def explicitKey (scanner : Scanner) : Except Problem Scanner := do
  let scanner ← scanner.openEntry .blockMappingStart
  let scanner ← scanner.dropCandidate
  return ({ scanner.push .key with keyAllowed := !scanner.inFlow }
    : Scanner).advanceBy 1

/-- The colon behind a key.  It makes the candidate a key and, in a block,
may open the block at the candidate's column. -/
def colon (scanner : Scanner) : Except Problem Scanner := do
  match scanner.candidate with
  | some key =>
    let (opened, scanner) :=
      if scanner.inFlow then (false, scanner) else scanner.openBlock key.column
    let marks := if opened then [.blockMappingStart, .key] else [.key]
    let scanner := scanner.insertAt key.position marks
    return ({ scanner.push .value with
      candidate := none
      keyAllowed := false } : Scanner).advanceBy 1
  | none =>
    let scanner ← scanner.openEntry .blockMappingStart
    return ({ scanner.push .value with keyAllowed := !scanner.inFlow }
      : Scanner).advanceBy 1

/-- A token that may turn out to be a key. -/
def keyToken (found : Option (Token × Cursor)) (scanner : Scanner) :
    Except Problem Scanner := do
  let scanner ← scanner.addCandidate
  return ({ scanner with keyAllowed := false } : Scanner).accept
    (← required found)

def quotedScalar (isDouble : Bool) (scanner : Scanner) :
    Except Problem Scanner := do
  let scanner ← scanner.addCandidate
  let (text, cursor) ← quoted isDouble scanner.cursor
  return { scanner.push (.scalar text false) with
    cursor := cursor
    keyAllowed := false }

def blockScalar (isFolded : Bool) (scanner : Scanner) :
    Except Problem Scanner := do
  let scanner ← scanner.dropCandidate
  let (text, cursor) ← block isFolded scanner.indent scanner.cursor
  return { scanner.push (.scalar text false) with
    cursor := cursor
    keyAllowed := true }

def plainScalar (scanner : Scanner) : Except Problem Scanner := do
  let scanner ← scanner.addCandidate
  let (text, lineEnded, cursor) :=
    plain scanner.inFlow (scanner.indent + 1) scanner.cursor
  return { scanner.push (.scalar text true) with
    cursor := cursor
    keyAllowed := lineEnded }

/-- Whether a character can never start a plain scalar unless a visible
character follows. -/
def isIndicator (character : Char) : Bool :=
  isGap character || "-?:,[]\x7b\x7d#&*!|>\"%@".toList.contains character
    || character == Quoted.apostrophe || character == Char.ofNat 0x60

def atPlain (scanner : Scanner) : Bool :=
  let character := scanner.cursor.peek
  !isIndicator character
    || (!isGap (scanner.cursor.ahead 1)
      && (character == '-'
        || (!scanner.inFlow && (character == '?' || character == ':'))))

/-- Reads the token at the cursor, which is not the end. -/
def step (scanner : Scanner) : Except Problem Scanner :=
  let cursor := scanner.cursor
  let character := cursor.peek
  let stands := isGap (cursor.ahead 1)
  let named (make : Text → Token) : Except Problem Scanner :=
    scanner.keyToken ((anchorName? cursor).map fun found =>
      (make found.1, found.2))
  if character = '%' ∧ cursor.column = 0 then do
    return (← scanner.leaveDocument).accept (← directive cursor)
  else if cursor.column = 0 ∧ cursor.atDocumentMark then do
    let scanner ← scanner.leaveDocument
    let token := if character = '-' then Token.documentStart else .documentEnd
    return (scanner.push token).advanceBy 3
  else if character = '[' then scanner.openFlow .flowSequenceStart
  else if character = '{' then scanner.openFlow .flowMappingStart
  else if character = ']' then scanner.closeFlow .flowSequenceEnd
  else if character = '}' then scanner.closeFlow .flowMappingEnd
  else if character = ',' then scanner.flowEntry
  else if character = '-' ∧ stands then scanner.blockEntry
  else if character = '?' ∧ (scanner.inFlow ∨ stands) then scanner.explicitKey
  else if character = ':' ∧ (scanner.inFlow ∨ stands) then scanner.colon
  else if character = '*' then named .alias
  else if character = '&' then named .anchor
  else if character = '!' then scanner.keyToken (tag? cursor)
  else if character = '|' ∧ !scanner.inFlow then scanner.blockScalar false
  else if character = '>' ∧ !scanner.inFlow then scanner.blockScalar true
  else if character = Quoted.apostrophe then scanner.quotedScalar false
  else if character = '"' then scanner.quotedScalar true
  else if scanner.atPlain then scanner.plainScalar
  else .error .malformed

/-- Reads the token behind the cursor, and tells whether the text goes on
behind it. -/
def fetch (scanner : Scanner) : Except Problem (Bool × Scanner) := do
  let scanner := scanner.skipToToken scanner.cursor.steps
  let scanner ← scanner.dropStale
  let scanner := scanner.closeBlocks scanner.cursor.column
  if scanner.cursor.atEnd then return (false, ← scanner.leaveDocument)
  else return (true, ← scanner.step)

/-- The tokens that no key mark can be put before any more: those before the
first candidate that is still close enough. -/
def settled (scanner : Scanner) : List Token :=
  let candidates := (scanner.candidate :: scanner.outerCandidates).filterMap
    fun candidate => candidate.filter fun key => !key.isStale scanner.cursor
  let count := candidates.foldl (fun count key => min count key.position)
    scanner.count
  scanner.tokens.reverse.take count

/-- Reads all tokens.  `steps` bounds their number. -/
def run : (steps : Nat) → Scanner → Option TokenStream
  | 0, _ => none
  | steps + 1, scanner =>
    match scanner.fetch with
    | .ok (true, scanner) => run steps scanner
    | .ok (false, scanner) => some ⟨scanner.tokens.reverse, none⟩
    | .error (.fault fault) => some ⟨scanner.settled, some fault⟩
    | .error .malformed => none

end Scanner

/-- The number of characters that are looked at together.  The first look goes
twice as far. -/
def chunkLength : Nat := 4096

/-- The number of characters that can be read before a chunk that holds an
unreadable one is looked at. -/
def readableLength (text : Text) : Nat :=
  let readable := (text.takeWhile isReadable).length
  if readable = text.length then readable
  else if readable < 2 * chunkLength then 0
  else readable / chunkLength * chunkLength

/-- The tokens of a text.  A text with unreadable characters has none, unless a
fault is met before they are looked at. -/
def Token.scan? (text : Text) : Option TokenStream := do
  let length := readableLength text
  let start := Cursor.start (text.take length)
  let start := if start.peek = orderMark then start.advance else start
  let stream ← Scanner.run (length + 1) { cursor := start }
  if length = text.length ∨ stream.fault.isSome then some stream else none

end Yaml

end AnchorLint
