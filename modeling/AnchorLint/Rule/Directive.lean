import AnchorLint.Rule.Name
import AnchorLint.Unicode.Word

/-!
# Rule-control comments

A comment in a document may switch rules off and on.  Its text starts with one
of two interchangeable marks and an action; names of rules follow, separated by
blanks or commas, and no names mean every rule.
-/

namespace AnchorLint

/-- What a rule-control comment asks for. -/
inductive Action where
  | disableNextLine
  | disableLine
  | disableFile
  | enableFile
  | configureFile
  | disable
  | enable
  | capture
  | restore
deriving DecidableEq

namespace Action

def word : Action → Text
  | disableNextLine => "disable-next-line".toList
  | disableLine => "disable-line".toList
  | disableFile => "disable-file".toList
  | enableFile => "enable-file".toList
  | configureFile => "configure-file".toList
  | disable => "disable".toList
  | enable => "enable".toList
  | capture => "capture".toList
  | restore => "restore".toList

def all : List Action :=
  [ disableNextLine, disableLine, disableFile, enableFile, configureFile,
    disable, enable, capture, restore ]

def parse? (word : Text) : Option Action :=
  all.find? fun action => action.word == word

end Action

/-- A rule-control comment: its action, the rules it names in their canonical
form, and for a configuration its text. -/
structure Directive where
  action : Action
  rules : List Text
  payload : Text := []
deriving DecidableEq

namespace Directive

def marks : List Text :=
  ["markdownlint-".toList, "lintmark-".toList]

/-- A comment of another tool that asks for the next line to be left alone. -/
def ignoreMark : Text :=
  "prettier-ignore".toList

def isWordPart (character : Char) : Bool :=
  Unicode.isWordCharacter character || character == '-'

def ruleNames (text : Text) : List Text :=
  (Text.fields (fun c => Unicode.isBlank c || c == ',') text).map
    Rule.normalize

/-- The directive in the inside of a comment, if it is a rule-control
comment. -/
def parse? (comment : Text) : Option Directive :=
  if Text.trim comment = ignoreMark then
    some { action := .disableNextLine, rules := [Rule.all] }
  else do
    let text ← marks.findSome? fun mark =>
      Text.after? mark (Text.trimLeft comment)
    let word := text.takeWhile isWordPart
    let rest := text.drop word.length
    let action ← Action.parse? word
    if action = .configureFile then
      return { action := action, rules := [], payload := Text.trim rest }
    else
      let names := ruleNames rest
      return { action := action
               rules := if names.isEmpty then [Rule.all] else names }

end Directive

end AnchorLint
