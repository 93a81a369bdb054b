import AnchorLint.Text.Case

/-!
# Anchor dialects

Renderers disagree on which characters of a heading survive in its anchor.
A dialect names the renderer whose rules are followed.
-/

namespace AnchorLint

/-- The renderers whose anchors can be computed. -/
inductive Dialect where
  | github
  | kramdown
  | kramdownGfm
deriving DecidableEq

namespace Dialect

def name : Dialect → Text
  | github => "github".toList
  | kramdown => "kramdown".toList
  | kramdownGfm => "kramdown-gfm".toList

/-- The dialects in the order in which they are listed to the user. -/
def all : List Dialect :=
  [github, kramdown, kramdownGfm]

/-- Other spellings that are accepted, each with the name it stands for. -/
def aliases : List (Text × Text) :=
  [ ("gfm".toList, "github".toList),
    ("gh".toList, "github".toList),
    ("jekyll".toList, "kramdown-gfm".toList) ]

/-- The dialect with a given name.  Surrounding blanks and case do not matter,
and an underscore may stand for a hyphen. -/
def parse? (value : Text) : Option Dialect :=
  let key := (Text.lower (Text.trim value)).map fun c =>
    if c = '_' then '-' else c
  let key := (aliases.lookup key).getD key
  all.find? fun dialect => dialect.name == key

def unknownMessage (value : Text) : Text :=
  "Unknown anchor dialect '".toList ++ value
    ++ "' (expected one of: ".toList
    ++ Text.join ", ".toList (all.map name) ++ ")".toList

end Dialect

end AnchorLint
