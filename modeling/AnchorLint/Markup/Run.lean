import AnchorLint.Text.Basic

/-!
# Delimiter runs

Code spans are delimited by equally long runs of backticks, and emphasis by
equally long runs of underscores.  Pairing goes from left to right: an opener
takes the nearest later closer of its length, and the search for the next
opener resumes behind that closer.  One walk from the right records, for every
run, the nearest closer of its length, so that the walk from the left never
has to search.
-/

namespace AnchorLint

/-- A maximal run of one delimiter character, with the characters around it. -/
structure Run where
  start : Nat
  stop : Nat
  before : Option Char
  after : Option Char
deriving DecidableEq

namespace Run

def size (run : Run) : Nat :=
  run.stop - run.start

/-- The runs of `marker` in a text that starts at `position`.  `current` holds
the start of a run that is still open and the character before it. -/
def collectFrom (marker : Char) :
    (position : Nat) → (before : Option Char) →
      (current : Option (Nat × Option Char)) → Text → List Run
  | _, _, none, [] => []
  | position, _, some (start, outer), [] => [⟨start, position, outer, none⟩]
  | position, before, none, character :: rest =>
    if character = marker then
      collectFrom marker (position + 1) (some character)
        (some (position, before)) rest
    else collectFrom marker (position + 1) (some character) none rest
  | position, _, some (start, outer), character :: rest =>
    if character = marker then
      collectFrom marker (position + 1) (some character)
        (some (start, outer)) rest
    else
      ⟨start, position, outer, some character⟩
        :: collectFrom marker (position + 1) (some character) none rest

/-- The maximal runs of `marker` in a text, from left to right. -/
def collect (marker : Char) (text : Text) : List Run :=
  collectFrom marker 0 none none text

/-- For the runs whose sizes are given, counted from `index`: the next closer
of the same size behind each of them, and the nearest closer of every size. -/
def linkFrom (closes : Nat → Bool) :
    (index : Nat) → List Nat → List (Option Nat) × List (Nat × Nat)
  | _, [] => ([], [])
  | index, size :: sizes =>
    let (links, nearest) := linkFrom closes (index + 1) sizes
    (nearest.lookup size :: links,
      if closes index then (size, index) :: nearest else nearest)

/-- The pairs chosen from left to right; runs before `resume` are inside the
pair chosen last. -/
def chooseFrom (opens : Nat → Bool) :
    (resume index : Nat) → List (Option Nat) → List (Nat × Nat)
  | _, _, [] => []
  | resume, index, link :: links =>
    if index < resume then chooseFrom opens resume (index + 1) links
    else
      match link with
      | some closer =>
        if opens index then
          (index, closer) :: chooseFrom opens (closer + 1) (index + 1) links
        else chooseFrom opens resume (index + 1) links
      | none => chooseFrom opens resume (index + 1) links

/-- The opener and closer indexes of the paired runs. -/
def pair (sizes : List Nat) (opens closes : Nat → Bool) : List (Nat × Nat) :=
  chooseFrom opens 0 0 (linkFrom closes 0 sizes).1

def pairs (runs : List Run) (opens closes : Run → Bool) : List (Run × Run) :=
  let holds (test : Run → Bool) (index : Nat) : Bool := runs[index]?.any test
  (pair (runs.map size) (holds opens) (holds closes)).filterMap fun indexes =>
    match runs[indexes.1]?, runs[indexes.2]? with
    | some opener, some closer => some (opener, closer)
    | _, _ => none

end Run

end AnchorLint
