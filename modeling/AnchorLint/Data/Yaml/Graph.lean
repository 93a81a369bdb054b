import AnchorLint.Data.Yaml.Problem
import AnchorLint.Data.Yaml.Tag

/-!
# YAML nodes

The nodes of a YAML text are scalars, sequences and mappings.  An alias stands
for a node that is written elsewhere, and a collection may even contain itself.
The nodes of a text are therefore kept in one array and refer to their parts by
number.

A mapping may ask for the entries of other mappings under a merge key.
Flattening a mapping replaces its merge keys by the entries they stand for.
-/

namespace AnchorLint

namespace Yaml

/-- A key and a value by their numbers. -/
abbrev NodePair := Nat × Nat

/-- What a node is made of. -/
inductive Content where
  | scalar (text : Text)
  | sequence (items : List Nat)
  | mapping (entries : List NodePair)

/-- A node: what it is made of and what kind of value it stands for. -/
structure Node where
  tag : Tag
  content : Content

/-- The nodes of a text.  A node's number is its place in the array. -/
structure Graph where
  nodes : Array Node := #[]

namespace Graph

def size (graph : Graph) : Nat :=
  graph.nodes.size

/-- Adds a node, whose number is the number of nodes before it. -/
def add (node : Node) (graph : Graph) : Graph :=
  ⟨graph.nodes.push node⟩

def tagOf (graph : Graph) (number : Nat) : Tag :=
  (graph.nodes[number]?.map Node.tag).getD .unknown

def contentOf (graph : Graph) (number : Nat) : Content :=
  (graph.nodes[number]?.map Node.content).getD (.scalar [])

def entries? (graph : Graph) (number : Nat) : Option (List NodePair) :=
  match graph.contentOf number with
  | .mapping entries => some entries
  | _ => none

def items? (graph : Graph) (number : Nat) : Option (List Nat) :=
  match graph.contentOf number with
  | .sequence items => some items
  | _ => none

def setContent (number : Nat) (content : Content) (graph : Graph) : Graph :=
  ⟨graph.nodes.modify number fun node => { node with content := content }⟩

/-- Turns a node that stands for the value of a mapping into a text. -/
def readAsText (graph : Graph) (number : Nat) : Graph :=
  if graph.tagOf number = .value then
    ⟨graph.nodes.modify number fun node => { node with tag := .str }⟩
  else graph

/-- The total number of entries of all mappings. -/
def entryCount (graph : Graph) : Nat :=
  graph.nodes.foldl (fun count node =>
    match node.content with
    | .mapping entries => count + entries.length
    | _ => count) 0

/-- What the first merge key among some entries leads to, and the other
entries. -/
def firstMerge? (graph : Graph) :
    List NodePair → Option (Nat × List NodePair)
  | [] => none
  | entry :: rest =>
    if graph.tagOf entry.1 = .merge then some (entry.2, rest)
    else (graph.firstMerge? rest).map fun (source, others) =>
      (source, entry :: others)

/-- Replaces the merge keys of a mapping by the entries they stand for, which
are put behind those in `merged` and in front of the mapping's own.  Of a
sequence of mappings the last one comes first.  A mapping that merges itself
contributes the entries that it has at that time.  `steps` bounds the number
of merge keys. -/
def flattenFrom : (steps : Nat) → (number : Nat) → (merged : List NodePair) →
    StateT Graph (Except Problem) (List NodePair)
  | 0, _, _ => throw .malformed
  | steps + 1, number, merged => do
    let graph ← get
    let entries ← required (graph.entries? number)
    match graph.firstMerge? entries with
    | none =>
      let all := merged ++ entries
      let graph :=
        if merged.isEmpty then graph
        else graph.setContent number (.mapping all)
      set ((all.map Prod.fst).foldl readAsText graph)
      return all
    | some (source, others) =>
      set (graph.setContent number (.mapping others))
      let more ←
        match graph.items? source with
        | some items => do
          let parts ← items.mapM fun item => flattenFrom steps item []
          pure parts.reverse.flatten
        | none => flattenFrom steps source []
      flattenFrom steps number (merged ++ more)

/-- The entries of a mapping behind the entries that its merge keys stand for,
and the graph in which it has them.  `steps` bounds the number of merge keys;
flattening a mapping adds none. -/
def flatten (steps number : Nat) (graph : Graph) :
    Except Problem (List NodePair × Graph) :=
  flattenFrom steps number [] graph

end Graph

end Yaml

end AnchorLint
