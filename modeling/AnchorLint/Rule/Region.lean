import AnchorLint.Rule.Name

/-!
# Regions without rules

The rule-control comments of a document are kept as regions: intervals of
lines in which a rule is switched off, or switched on again while all rules
are off.
-/

namespace AnchorLint

/-- Which kind of comment a region stems from. -/
inductive RegionSource where
  | disable
  | enable
  | disableLine
  | disableNextLine
  | disableFile
  | enableFile
deriving DecidableEq

namespace RegionSource

def name : RegionSource → Text
  | disable => "disable".toList
  | enable => "enable".toList
  | disableLine => "disable-line".toList
  | disableNextLine => "disable-next-line".toList
  | disableFile => "disable-file".toList
  | enableFile => "enable-file".toList

def parse? (name : Text) : Option RegionSource :=
  [disable, enable, disableLine, disableNextLine, disableFile,
    enableFile].find? fun source => source.name == name

end RegionSource

/-- An interval of lines, both ends included, in which a rule is switched; no
end means the rest of the document. -/
structure Region where
  rule : Text
  firstLine : Nat
  lastLine : Option Nat
  source : RegionSource
deriving DecidableEq

namespace Region

def covers (region : Region) (line : Nat) : Bool :=
  region.firstLine ≤ line && region.lastLine.all (line ≤ ·)

/-- Whether a region for `rule` from one of the sources touches a line; with
no line given, whether there is such a region at all. -/
def anyOf (regions : List Region) (rule : Text) (line : Option Nat)
    (sources : List RegionSource) : Bool :=
  regions.any fun region =>
    region.rule == rule && sources.contains region.source
      && line.all region.covers

/-- Whether a rule is switched off at a line.  While all rules are off, a rule
may be on again by name; single-line regions are unconditional. -/
def isDisabledAt (regions : List Region) (rule : Text) (line : Nat) : Bool :=
  let rule := Rule.normalize rule
  let wholeFile :=
    if anyOf regions Rule.all none [.disableFile] then
      !anyOf regions rule none [.enableFile]
    else anyOf regions rule none [.disableFile]
  let lineSources := [RegionSource.disableLine, .disableNextLine]
  wholeFile
    || anyOf regions rule (some line) lineSources
    || anyOf regions Rule.all (some line) lineSources
    || (if anyOf regions Rule.all (some line) [.disable] then
        !anyOf regions rule (some line) [.enable]
      else anyOf regions rule (some line) [.disable])

/-- The rules that are switched off for the whole document. -/
def fileDisabledRules (regions : List Region) : List Text :=
  ((regions.filter fun region => region.source = .disableFile).map
    Region.rule).eraseDups

end Region

end AnchorLint
