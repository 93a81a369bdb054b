import AnchorLint.Text.Case

/-!
# Rule names and sets of rules

Rules are named in configuration files and in comments.  Names are compared
in upper case, and the descriptive names of the built-in rules stand for
their codes.  A set of rules says which of them are on, and with which options.
-/

namespace AnchorLint

namespace Rule

/-- Link fragments must name an anchor that exists. -/
def linkFragments : Text :=
  "MD051".toList

/-- Footnote identifiers must be unique. -/
def duplicateFootnotes : Text :=
  "MD063".toList

/-- The name that stands for every rule. -/
def all : Text :=
  ['*']

def aliases : List (Text × Text) :=
  [ ("LINK-FRAGMENTS".toList, linkFragments),
    ("DUPLICATE-FOOTNOTES".toList, duplicateFootnotes) ]

/-- The canonical form of a rule name as written by a user. -/
def normalize (name : Text) : Text :=
  let key := Text.upper (Text.trim name)
  (aliases.lookup key).getD key

end Rule

structure FootnoteOptions where
  checkDefinitions : Bool := true
  checkReferences : Bool := false
deriving DecidableEq

/-- Which rules are on, and their options. -/
structure RuleSet where
  linkFragments : Bool := true
  footnotes : Option FootnoteOptions := some {}
deriving DecidableEq

/-- The rules that are not among the disabled ones. -/
def RuleSet.select (options : FootnoteOptions) (disabled : List Text) :
    RuleSet :=
  let isOff (rule : Text) : Bool := (disabled.map Rule.normalize).contains rule
  { linkFragments := !isOff Rule.linkFragments
    footnotes := if isOff Rule.duplicateFootnotes then none else some options }

end AnchorLint
