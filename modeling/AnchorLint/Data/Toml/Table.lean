import AnchorLint.Data.Value

/-!
# TOML tables under construction

A TOML document fills nested tables from statements in any order, under rules
that keep a table from being written in two places.  A `Draft` holds the
tables written so far, the keys whose tables have been declared, and the keys
whose values may not be extended any more.
-/

namespace AnchorLint

namespace Toml

/-- A dotted key as the list of its parts. -/
abbrev Key := List Text

abbrev Table := List (Value × Value)

def Table.get? (table : Table) (name : Text) : Option Value :=
  (table.find? fun entry => Value.sameKey entry.1 (.str name)).map (·.2)

/-- Gives a simple key of a table a value. -/
def Table.put (table : Table) (name : Text) (value : Value) : Table :=
  Value.putEntry table (.str name) value

/-- Changes the table behind a key, which is made if it does not exist yet.
With `enterArrays`, an array stands for the last of its tables. -/
def Table.change? (enterArrays : Bool) (change : Table → Option Table) :
    Key → Table → Option Table
  | [], table => change table
  | name :: key, table =>
    match table.get? name with
    | none => do
      let inner ← change? enterArrays change key []
      return table.put name (.map inner)
    | some (.map inner) => do
      let inner ← change? enterArrays change key inner
      return table.put name (.map inner)
    | some (.list items) =>
      if enterArrays then
        match items.reverse with
        | .map inner :: before => do
          let inner ← change? enterArrays change key inner
          return table.put name (.list (before.reverse ++ [.map inner]))
        | _ => none
      else none
    | some _ => none

/-- Gives a new simple key a value; an old one cannot be given another. -/
def Table.addNew? (name : Text) (value : Value) (table : Table) :
    Option Table :=
  if (table.get? name).isSome then none else some (table.put name value)

/-- Appends an empty table to the array behind a simple key. -/
def Table.appendTable? (name : Text) (table : Table) : Option Table :=
  match table.get? name with
  | none => some (table.put name (.list [.map []]))
  | some (.list items) => some (table.put name (.list (items ++ [.map []])))
  | some _ => none

/-- A document under construction.  `header` is the table that statements
write into; `pending` are keys that count as declared from the next header
on. -/
structure Draft where
  table : Table := []
  declared : List Key := []
  pending : List Key := []
  frozen : List Key := []
  header : Key := []

namespace Draft

/-- Whether the value behind a key may not be extended. -/
def isFrozen (draft : Draft) (key : Key) : Bool :=
  draft.frozen.any fun root => root.isPrefixOf key

def isDeclared (draft : Draft) (key : Key) : Bool :=
  draft.declared.contains key

def startSection (draft : Draft) : Draft :=
  { draft with
    declared := draft.pending ++ draft.declared
    pending := [] }

/-- Declares a table and makes it the one that statements write into. -/
def declareTable? (key : Key) (draft : Draft) : Option Draft :=
  if draft.isDeclared key || draft.isFrozen key then none
  else do
    let table ← draft.table.change? true some key
    return { draft with
      table := table
      declared := key :: draft.declared
      header := key }

/-- Appends a table to an array and makes it the one that statements write
into.  What was declared inside the table before it is free again. -/
def declareArray? (key : Key) (draft : Draft) : Option Draft :=
  if draft.isFrozen key then none
  else do
    let name ← key.getLast?
    let table ← draft.table.change? true (Table.appendTable? name) key.dropLast
    let outside (other : Key) : Bool := !key.isPrefixOf other
    return { draft with
      table := table
      declared := key :: draft.declared.filter outside
      frozen := draft.frozen.filter outside
      header := key }

/-- Whether a value is a table or an array. -/
def isContainer : Value → Bool
  | .list _ | .map _ => true
  | _ => false

/-- Gives a key in the current table a value.  The tables on the way to it may
not have been declared, and cannot be declared in later sections. -/
def assign? (key : Key) (value : Value) (draft : Draft) : Option Draft := do
  let name ← key.getLast?
  let way := (List.range (key.length - 1)).map fun count =>
    draft.header ++ key.take (count + 1)
  let parent := draft.header ++ key.dropLast
  if way.any draft.isDeclared || draft.isFrozen parent then none
  else
    let table ← draft.table.change? true (Table.addNew? name value) parent
    return { draft with
      table := table
      pending := way ++ draft.pending
      frozen := if isContainer value then (draft.header ++ key) :: draft.frozen
        else draft.frozen }

end Draft

end Toml

end AnchorLint
