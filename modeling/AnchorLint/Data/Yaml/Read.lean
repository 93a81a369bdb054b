import AnchorLint.Data.Yaml.Document
import AnchorLint.Data.Yaml.ScalarValue

/-!
# Reading YAML

The value of a YAML text is built from its nodes by their tags.  Nodes are met
level by level, starting at the root: the parts of a collection are met when
all nodes of the levels above have been.  Every node is met once, however often
it is used, and what is wrong with the first node that has no value is what is
wrong with the text.  Collections may be nested to any depth: a reader that gives
up on deep texts is not modelled.
-/

namespace AnchorLint

namespace Yaml

/-! ## Scalars -/

/-- The text of a node that has to be a scalar.  A mapping may hold its text
under the key for values.  `steps` bounds the nesting of such mappings; one
that is nested in itself has no end. -/
def textAt (graph : Graph) : (steps number : Nat) → Except Problem Text
  | 0, _ => .error (.fault .endlessText)
  | steps + 1, number =>
    match graph.contentOf number with
    | .scalar text => .ok text
    | .sequence _ => .error .malformed
    | .mapping entries =>
      match entries.find? fun entry => graph.tagOf entry.1 == .value with
      | some entry => textAt graph steps entry.2
      | none => .error .malformed

/-- A scalar as the key of a map.  An undefined number is a key of its own at
each node, `origin`, unless it is spelled by its word. -/
structure Key where
  value : Value
  origin : Option Nat := none

def Key.same (first second : Key) : Bool :=
  match first.value, second.value with
  | .float .nan, .float .nan => first.origin == second.origin
  | left, right => left.sameKey right

def scalarAt (graph : Graph) (number : Nat) : Except Problem Key := do
  let tag := graph.tagOf number
  if tag.isSpecial then .error .malformed
  else
    let text ← textAt graph (graph.size + 1) number
    if tag = .timestamp ∧ (graph.entries? number).isSome then
      .error (.fault .timestampEntries)
    else
      let value ← valueOf tag text
      return ⟨value, if isUndefinedWord text then none else some number⟩

/-! ## Collections -/

/-- The value of a node, with the numbers of its parts. -/
inductive Cell where
  | scalar (key : Key)
  | list (items : List Nat)
  | pairs (entries : List NodePair)
  | set (keys : List Key)
  | map (entries : List (Key × Nat))

/-- The nodes, a bound for the number of merge keys among them, the values of
the nodes that have been met, and the collections whose parts have not, last
one first. -/
structure Builder where
  graph : Graph
  mergeLimit : Nat
  cells : Array (Option Cell)
  waiting : List Nat := []

/-- A step of building, which may fail. -/
abbrev Building := StateT Builder (Except Problem)

namespace Builder

/-- Notes the value of a node. -/
def put (number : Nat) (cell : Cell) : Building Unit :=
  modify fun builder =>
    { builder with cells := builder.cells.setIfInBounds number (some cell) }

/-- Meets a node.  A collection is empty until its parts are met. -/
def encounter (number : Nat) : Building Cell := do
  let builder ← get
  match builder.cells[number]?.join with
  | some cell => return cell
  | none =>
    if (builder.graph.tagOf number).isCollection then
      put number (.list [])
      modify fun builder =>
        { builder with waiting := number :: builder.waiting }
      return .list []
    else
      let key ← scalarAt builder.graph number
      put number (.scalar key)
      return .scalar key

/-- Meets a node that is used as a key; a collection cannot be one. -/
def encounterKey (number : Nat) : Building Key := do
  match ← encounter number with
  | .scalar key => return key
  | _ => throw .malformed

/-- Meets the keys and values of a mapping.  A key that is already there keeps
its place and gets the new value. -/
def keyedEntries (number : Nat) : Building (Entries Key Nat) := do
  let builder ← get
  let (entries, graph) ← builder.graph.flatten builder.mergeLimit number
  set { builder with graph := graph }
  let entries ← entries.mapM fun entry => do
    let key ← encounterKey entry.1
    let _ ← encounter entry.2
    return (key, entry.2)
  return entries.foldl (fun known entry =>
    Entries.putBy Key.same known entry.1 entry.2) []

/-- Meets the key and the value of a mapping that has one entry. -/
def onlyEntry (number : Nat) : Building NodePair := do
  match (← get).graph.contentOf number with
  | .mapping [entry] =>
    let _ ← encounter entry.1
    let _ ← encounter entry.2
    return entry
  | _ => throw .malformed

/-- Meets the parts of a collection. -/
def fill (number : Nat) : Building Unit := do
  let graph := (← get).graph
  match graph.tagOf number with
  | .map => put number (.map (← keyedEntries number))
  | .set => put number (.set ((← keyedEntries number).map Prod.fst))
  | .seq =>
    let items ← required (graph.items? number)
    items.forM fun item => discard (encounter item)
    put number (.list items)
  | _ =>
    let items ← required (graph.items? number)
    put number (.pairs (← items.mapM onlyEntry))

/-- Meets the parts of the collections that wait for it, and of those among
them.  `steps` bounds the nesting. -/
def settle : (steps : Nat) → Building Unit
  | 0 => pure ()
  | steps + 1 => do
    let builder ← get
    match builder.waiting with
    | [] => pure ()
    | waiting =>
      set { builder with waiting := [] }
      waiting.reverse.forM fill
      settle steps

end Builder

/-! ## Values -/

/-- How far a node has been put together. -/
inductive Progress where
  | unseen
  | entered
  | finished (value : Value)

/-- The value of a node with the values of its parts in their places.  Inside
itself a collection is written as a cycle.  `steps` bounds the nesting. -/
def assemble (cells : Array (Option Cell)) :
    (steps number : Nat) → StateM (Array Progress) Value
  | 0, _ => return .cycle
  | steps + 1, number => do
    match (← get)[number]?.getD .unseen with
    | .finished value => return value
    | .entered => return .cycle
    | .unseen =>
      modify (·.setIfInBounds number .entered)
      let part := assemble cells steps
      let value ←
        match cells[number]?.join with
        | some (.scalar key) => pure key.value
        | some (.list items) => Value.list <$> items.mapM part
        | some (.pairs entries) =>
          Value.list <$> entries.mapM fun entry => do
            return .list [← part entry.1, ← part entry.2]
        | some (.set keys) => pure (.set (keys.map Key.value))
        | some (.map entries) =>
          Value.map <$> entries.mapM fun entry => do
            return (entry.1.value, ← part entry.2)
        | none => pure .null
      modify (·.setIfInBounds number (.finished value))
      return value

def Document.value (document : Document) : Except Problem Value := do
  let size := document.graph.size
  let start : Builder :=
    { graph := document.graph
      mergeLimit := document.graph.entryCount + 1
      cells := Array.replicate size none }
  let (_, builder) ← (do
    let _ ← Builder.encounter document.root
    Builder.settle (size + 1)).run start
  let (value, _) := (assemble builder.cells (size + 1) document.root).run
    (Array.replicate size .unseen)
  return value

def read (text : Text) : Except Problem Value := do
  (← Document.read text).value

end Yaml

end AnchorLint
