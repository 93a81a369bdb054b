import AnchorLint.Data.Yaml.Graph
import AnchorLint.Data.Yaml.Token

/-!
# YAML documents

The tokens of a YAML text make up its nodes.  Tokens are taken one by one, and
a text is malformed as soon as one of them cannot be used; only when the tokens
before a fault have all been used is the fault what is wrong with the text.  A
text holds one document at most.
-/

namespace AnchorLint

namespace Yaml

/-- The nodes of a document and the number of the one that stands for the
whole. -/
structure Document where
  graph : Graph
  root : Nat

def standardHandles : List (Text × Text) :=
  [(['!'], ['!']), (['!', '!'], Tag.standardRoot)]

/-- The tokens that are left and the fault behind them, the nodes so far, the
nodes that anchors name, and the texts that tag handles stand for. -/
structure Reader where
  tokens : List Token
  fault : Option Fault
  graph : Graph := {}
  anchors : List (Text × Nat) := []
  handles : List (Text × Text) := standardHandles

/-- A step of reading, which may fail. -/
abbrev Reading := StateT Reader (Except Problem)

namespace Reader

/-- The next token, or nothing at the end of the text. -/
def next : Reading (Option Token) := do
  let reader ← get
  match reader.tokens, reader.fault with
  | token :: _, _ => return some token
  | [], some fault => throw (.fault fault)
  | [], none => return none

def drop : Reading Unit :=
  modify fun reader => { reader with tokens := reader.tokens.drop 1 }

def nextIn (tokens : List Token) : Reading Bool := do
  return (← next).any tokens.contains

/-- Passes over the next token if it is a certain one, and tells whether it
did. -/
def take (token : Token) : Reading Bool := do
  if ← nextIn [token] then
    drop
    return true
  else return false

def addNode (node : Node) : Reading Nat :=
  modifyGet fun reader =>
    (reader.graph.size, { reader with graph := reader.graph.add node })

/-- Adds the node that stands where nothing is written. -/
def missing : Reading Nat :=
  addNode ⟨.null, .scalar []⟩

/-! ## The properties of nodes -/

/-- The properties in front of a node. -/
structure Properties where
  anchor : Option Text := none
  tag : Option Text := none

/-- The full name of a tag, whose handle must be known. -/
def tagName (handle : Option Text) (suffix : Text) : Reading Text := do
  match handle with
  | none => return suffix
  | some handle =>
    return (← required ((← get).handles.lookup handle)) ++ suffix

def anchor? : Reading (Option Text) := do
  match ← next with
  | some (.anchor name) =>
    drop
    return some name
  | _ => return none

/-- The handle and the suffix of the tag ahead, if there is one. -/
def tag? : Reading (Option (Option Text × Text)) := do
  match ← next with
  | some (.tag handle suffix) =>
    drop
    return some (handle, suffix)
  | _ => return none

/-- The anchor and the tag in front of a node, in either order. -/
def properties : Reading Properties := do
  let before ← anchor?
  match ← tag? with
  | none => return ⟨before, none⟩
  | some (handle, suffix) =>
    let anchor ← if before.isSome then pure before else anchor?
    return ⟨anchor, some (← tagName handle suffix)⟩

def collectionTag (default : Tag) (tag : Option Text) : Tag :=
  match tag with
  | none => default
  | some name => if name = ['!'] then default else Tag.ofName name

/-- The tag of a scalar.  Only plain scalars, and those with a lone exclamation
mark, are recognised by their spelling. -/
def scalarTag (tag : Option Text) (isPlain : Bool) (text : Text) : Tag :=
  match tag with
  | none => if isPlain then Tag.ofPlain text else .str
  | some name => if name = ['!'] then Tag.ofPlain text else Tag.ofName name

/-- Adds the node that an anchor names; the anchor must be a new one. -/
def addNamed (anchor : Option Text) (node : Node) : Reading Nat := do
  match anchor with
  | none => addNode node
  | some name =>
    if ((← get).anchors.lookup name).isSome then throw .malformed
    else
      let number ← addNode node
      modify fun reader =>
        { reader with anchors := (name, number) :: reader.anchors }
      return number

/-- The node that an alias stands for. -/
def resolve (name : Text) : Reading Nat := do
  required ((← get).anchors.lookup name)

def scalar (properties : Properties) (isPlain : Bool) (text : Text) :
    Reading Nat :=
  addNamed properties.anchor
    ⟨scalarTag properties.tag isPlain text, .scalar text⟩

/-- Adds a collection.  It has its number before its parts are read, so that
they can contain it. -/
def collection (properties : Properties) (default : Tag)
    (parts : Reading Content) : Reading Nat := do
  let number ← addNamed properties.anchor
    ⟨collectionTag default properties.tag, .sequence []⟩
  let content ← parts
  modify fun reader =>
    { reader with graph := reader.graph.setContent number content }
  return number

/-- Passes over the comma before an entry between brackets; there is none
before the first. -/
def separator (isFirst : Bool) : Reading Unit := do
  if isFirst then return ()
  else if ← take .flowEntry then return ()
  else throw .malformed

/-! ## Nodes -/

mutual

/-- A node.  `inBlock` says whether it may be an indented block, and
`indentless` whether it may be a sequence whose hyphens are not indented.
`steps` bounds the number of nodes and entries. -/
def node (inBlock indentless : Bool) : (steps : Nat) → Reading Nat
  | 0 => throw .malformed
  | steps + 1 => do
    match ← next with
    | some (.alias name) =>
      drop
      resolve name
    | _ =>
      let found ← properties
      let sequence (items : Reading (List Nat)) : Reading Nat :=
        collection found .seq (.sequence <$> items)
      let mapping (entries : Reading (List NodePair)) : Reading Nat :=
        collection found .map (.mapping <$> entries)
      match ← next with
      | some (.scalar text isPlain) =>
        drop
        scalar found isPlain text
      | some .flowSequenceStart =>
        sequence (drop *> flowItems true steps)
      | some .flowMappingStart =>
        mapping (drop *> flowEntries true steps)
      | token =>
        if indentless ∧ token = some .blockEntry then
          sequence (indentlessItems steps)
        else if inBlock ∧ token = some .blockSequenceStart then
          sequence (drop *> blockItems steps)
        else if inBlock ∧ token = some .blockMappingStart then
          mapping (drop *> blockEntries steps)
        else if found.anchor.isSome ∨ found.tag.isSome then
          scalar found true []
        else throw .malformed

/-- A node, unless one of a few tokens shows that it is missing. -/
def nodeUnless (inBlock indentless : Bool) (stops : List Token) :
    (steps : Nat) → Reading Nat
  | 0 => throw .malformed
  | steps + 1 => do
    if ← nextIn stops then missing else node inBlock indentless steps

def blockItems : (steps : Nat) → Reading (List Nat)
  | 0 => throw .malformed
  | steps + 1 => do
    if ← take .blockEntry then
      let item ← nodeUnless true false [.blockEntry, .blockEnd] steps
      return item :: (← blockItems steps)
    else if ← take .blockEnd then return []
    else throw .malformed

/-- The items of a sequence whose hyphens are not indented. -/
def indentlessItems : (steps : Nat) → Reading (List Nat)
  | 0 => throw .malformed
  | steps + 1 => do
    if ← take .blockEntry then
      let stops := [.blockEntry, .key, .value, .blockEnd]
      let item ← nodeUnless true false stops steps
      return item :: (← indentlessItems steps)
    else return []

/-- The value behind a colon, or a missing one if there is no colon. -/
def valueUnless (inBlock : Bool) (stops : List Token) :
    (steps : Nat) → Reading Nat
  | 0 => throw .malformed
  | steps + 1 => do
    if ← take .value then nodeUnless inBlock inBlock stops steps
    else missing

def blockEntries : (steps : Nat) → Reading (List NodePair)
  | 0 => throw .malformed
  | steps + 1 => do
    if ← take .key then
      let stops := [.key, .value, .blockEnd]
      let key ← nodeUnless true true stops steps
      let value ← valueUnless true stops steps
      return (key, value) :: (← blockEntries steps)
    else if ← take .blockEnd then return []
    else throw .malformed

/-- An entry between brackets that are closed by a given token, behind the mark
of its key. -/
def flowEntry (closing : Token) : (steps : Nat) → Reading NodePair
  | 0 => throw .malformed
  | steps + 1 => do
    let stops := [.flowEntry, closing]
    let key ← nodeUnless false false (.value :: stops) steps
    let value ← valueUnless false stops steps
    return (key, value)

/-- The items of a sequence between brackets.  A key makes an item a mapping
with one entry. -/
def flowItems (isFirst : Bool) : (steps : Nat) → Reading (List Nat)
  | 0 => throw .malformed
  | steps + 1 => do
    if ← take .flowSequenceEnd then return []
    else
      separator isFirst
      if ← take .flowSequenceEnd then return []
      else
        let item ←
          if ← take .key then
            collection {} .map (do
              return .mapping [← flowEntry .flowSequenceEnd steps])
          else node false false steps
        return item :: (← flowItems false steps)

def flowEntries (isFirst : Bool) : (steps : Nat) → Reading (List NodePair)
  | 0 => throw .malformed
  | steps + 1 => do
    if ← take .flowMappingEnd then return []
    else
      separator isFirst
      if ← take .flowMappingEnd then return []
      else
        let entry ←
          if ← take .key then flowEntry .flowMappingEnd steps
          else
            let key ← node false false steps
            pure (key, ← missing)
        return entry :: (← flowEntries false steps)

end

/-! ## Documents -/

def isDirective : Token → Bool
  | .version _ | .tagHandle _ _ | .otherDirective => true
  | _ => false

/-- The handles that the directives ahead define, behind those in `handles`.
A version may be given once and must be the first one.  `steps` bounds the
number of directives. -/
def directives : (steps : Nat) → (versionKnown : Bool) →
    (handles : List (Text × Text)) → Reading (List (Text × Text))
  | 0, _, _ => throw .malformed
  | steps + 1, versionKnown, handles => do
    match ← next with
    | some (.version major) =>
      if versionKnown ∨ major ≠ 1 then throw .malformed
      else
        drop
        directives steps true handles
    | some (.tagHandle handle replacement) =>
      if (handles.lookup handle).isSome then throw .malformed
      else
        drop
        directives steps versionKnown ((handle, replacement) :: handles)
    | some .otherDirective =>
      drop
      directives steps versionKnown handles
    | _ => return handles ++ standardHandles

/-- Passes over directives and the mark at the start of a document, which has
to follow them. -/
def start (steps : Nat) : Reading Unit := do
  let handles ← directives steps false []
  if ← take .documentStart then
    modify fun reader => { reader with handles := handles }
  else throw .malformed

/-- The node of a document behind its start mark. -/
def content (steps : Nat) : Reading Nat := do
  match ← next with
  | none => missing
  | some token =>
    if isDirective token ∨ token = .documentStart ∨ token = .documentEnd then
      missing
    else node true false steps

/-- Passes over the marks at the end of a document, behind which nothing may
follow.  `steps` bounds their number. -/
def finish : (steps : Nat) → Reading Unit
  | 0 => throw .malformed
  | steps + 1 => do
    if ← take .documentEnd then finish steps
    else if (← next).isSome then
      start steps
      throw .malformed
    else return ()

/-- The node of the only document.  `steps` bounds the number of tokens, nodes
and entries. -/
def document (steps : Nat) : Reading Nat := do
  let root ←
    match ← next with
    | none => missing
    | some token =>
      if isDirective token ∨ token = .documentStart then
        start steps
        content steps
      else node true false steps
  finish steps
  return root

end Reader

def Document.read (text : Text) : Except Problem Document := do
  let stream ← required (Token.scan? text)
  let steps := 4 * stream.tokens.length + 4
  let (root, reader) ←
    (Reader.document steps).run ⟨stream.tokens, stream.fault, {}, [],
      standardHandles⟩
  return ⟨reader.graph, root⟩

end Yaml

end AnchorLint
