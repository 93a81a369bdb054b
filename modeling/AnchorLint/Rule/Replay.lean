import AnchorLint.Data.Json.Read
import AnchorLint.Rule.Directive
import AnchorLint.Rule.Region

/-!
# Turning comments into regions

The rule-control comments of a document are fed in order.  A running coverage
says which rules are off; whenever it changes, the regions that end are closed
with the line of the comment and the ones that begin are opened on the line
behind it.  So the number of regions grows with the number of comments and not
with the number of lines.
-/

namespace AnchorLint

/-- Which rules are off: the listed ones, or all but the listed ones. -/
inductive Coverage where
  | only (rules : List Text)
  | allExcept (rules : List Text)
deriving DecidableEq

/-- A rule together with whether it is switched off or on again. -/
abbrev Switch := Text × RegionSource

namespace Coverage

def union (first second : List Text) : List Text :=
  second.foldl (fun rules rule =>
    if rules.contains rule then rules else rules ++ [rule]) first

def without (first second : List Text) : List Text :=
  first.filter fun rule => !second.contains rule

def disable (rules : List Text) : Coverage → Coverage
  | only off =>
    if rules.contains Rule.all then allExcept [] else only (union off rules)
  | allExcept on =>
    if rules.contains Rule.all then allExcept []
    else allExcept (without on rules)

def enable (rules : List Text) : Coverage → Coverage
  | only off =>
    if rules.contains Rule.all then only [] else only (without off rules)
  | allExcept on =>
    if rules.contains Rule.all then only [] else allExcept (union on rules)

def switches : Coverage → List Switch
  | only off => off.map fun rule => (rule, .disable)
  | allExcept on =>
    (Rule.all, .disable) :: on.map fun rule => (rule, .enable)

end Coverage

namespace Switch

/-- Switches are ordered by rule and then by the name of their source. -/
def le (first second : Switch) : Bool :=
  if first.1 = second.1 then Text.le first.2.name second.2.name
  else Text.le first.1 second.1

/-- The switches of the first list that are not in the second, in order. -/
def difference (first second : List Switch) : List Switch :=
  (first.filter fun switch => !second.contains switch).mergeSort le

end Switch

/-- What the comments fed so far have led to. -/
structure Replay where
  coverage : Coverage := .only []
  file : Coverage := .only []
  captured : List Coverage := []
  /-- The regions that are still open, each with its first line. -/
  openSince : List (Switch × Nat) := []
  closed : List Region := []
  configuration : Entries Text Value := []
  /-- The digits of the first integer in a configuration that was too long to
  be read. -/
  oversized : Option Nat := none

namespace Replay

/-- Closes the region of a switch with a line, unless it would be empty. -/
def close (line : Nat) (replay : Replay) (switch : Switch) : Replay :=
  match replay.openSince.lookup switch with
  | none => replay
  | some first =>
    { replay with
      openSince := replay.openSince.filter fun entry => entry.1 != switch
      closed :=
        if first ≤ line then
          replay.closed ++ [⟨switch.1, first, some line, switch.2⟩]
        else replay.closed }

def openAfter (line : Nat) (replay : Replay) (switch : Switch) : Replay :=
  { replay with openSince := replay.openSince ++ [(switch, line + 1)] }

/-- Moves to another coverage on a line. -/
def moveTo (line : Nat) (coverage : Coverage) (replay : Replay) : Replay :=
  let before := replay.coverage.switches
  let after := coverage.switches
  let replay := (Switch.difference before after).foldl (close line) replay
  let replay := (Switch.difference after before).foldl (openAfter line) replay
  { replay with coverage := coverage }

/-- Adds regions of a single line. -/
def addLine (line : Nat) (source : RegionSource) (rules : List Text)
    (replay : Replay) : Replay :=
  { replay with
    closed := replay.closed ++ rules.map fun rule =>
      ⟨rule, line, some line, source⟩ }

/-- Takes over the configuration in a comment.  A text that is no map is
ignored. -/
def configure (payload : Text) (replay : Replay) : Replay :=
  if payload.isEmpty then replay
  else
    match Json.read payload with
    | .error .malformed => replay
    | .error (.integerTooLong digits) =>
      { replay with oversized := replay.oversized <|> some digits }
    | .ok (.map entries) =>
      { replay with
        configuration := entries.foldl (fun known entry =>
          known.put (Rule.normalize entry.1.display) entry.2)
          replay.configuration }
    | .ok _ => replay

def feed (replay : Replay) (line : Nat) (directive : Directive) : Replay :=
  match directive.action with
  | .disable => replay.moveTo line (replay.coverage.disable directive.rules)
  | .enable => replay.moveTo line (replay.coverage.enable directive.rules)
  | .capture => { replay with captured := replay.coverage :: replay.captured }
  | .restore =>
    match replay.captured with
    | [] => replay.moveTo line (.only [])
    | coverage :: captured =>
      { replay with captured := captured }.moveTo line coverage
  | .disableLine => replay.addLine line .disableLine directive.rules
  | .disableNextLine =>
    replay.addLine (line + 1) .disableNextLine directive.rules
  | .disableFile =>
    { replay with file := replay.file.disable directive.rules }
  | .enableFile =>
    { replay with file := replay.file.enable directive.rules }
  | .configureFile => replay.configure directive.payload

/-- The source of a region for the whole document. -/
def fileSource : RegionSource → RegionSource
  | .disable => .disableFile
  | _ => .enableFile

/-- The regions of all comments fed so far: the closed ones, the open ones,
and those for the whole document. -/
def regions (replay : Replay) : List Region :=
  let stillOpen := replay.openSince.mergeSort fun first second =>
    Switch.le first.1 second.1
  let file := replay.file.switches.mergeSort Switch.le
  let configured := replay.configuration.filter fun entry =>
    match entry.2 with
    | .bool false => true
    | _ => false
  replay.closed
    ++ stillOpen.map (fun entry => ⟨entry.1.1, entry.2, none, entry.1.2⟩)
    ++ file.map (fun switch => ⟨switch.1, 1, none, fileSource switch.2⟩)
    ++ configured.map fun entry => ⟨entry.1, 1, none, .disableFile⟩

end Replay

end AnchorLint
