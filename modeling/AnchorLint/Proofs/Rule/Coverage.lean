import AnchorLint.Rule.Replay
import Mathlib.Data.List.Nodup

/-!
# What a coverage switches off

A coverage is either a list of the rules that are off or a list of the rules
that are on while all others are off.  This file says which rules a coverage
switches off, how switching rules off and on changes that, and that the switches
of a coverage describe it completely.  The name that stands for every rule is
never listed, and no rule is listed twice.
-/

namespace AnchorLint

namespace Directive

/-- Whether a directive names a rule, by itself or through the name for all. -/
def names (directive : Directive) (rule : Text) : Bool :=
  directive.rules.contains rule || directive.rules.contains Rule.all

end Directive

namespace Coverage

def isOff : Coverage → Text → Bool
  | only off, rule => off.contains rule
  | allExcept on, rule => !on.contains rule

def listed : Coverage → List Text
  | only off => off
  | allExcept on => on

/-- A coverage lists every rule at most once and never the name for all. -/
structure WellFormed (coverage : Coverage) : Prop where
  all_not_listed : Rule.all ∉ coverage.listed
  nodup : coverage.listed.Nodup

theorem wellFormed_nothing : WellFormed (only []) :=
  ⟨by simp [listed], by simp [listed]⟩

theorem wellFormed_everything : WellFormed (allExcept []) :=
  ⟨by simp [listed], by simp [listed]⟩

theorem mem_union {first second : List Text} {rule : Text} :
    rule ∈ union first second ↔ rule ∈ first ∨ rule ∈ second := by
  unfold union
  induction second generalizing first with
  | nil => simp
  | cons head tail ih =>
      rw [List.foldl_cons, ih]
      by_cases known : head ∈ first
      · simp only [List.contains_eq_mem, known, decide_true, if_true,
          List.mem_cons]
        constructor
        · rintro (inFirst | inTail)
          · exact Or.inl inFirst
          · exact Or.inr (Or.inr inTail)
        · rintro (inFirst | rfl | inTail)
          · exact Or.inl inFirst
          · exact Or.inl known
          · exact Or.inr inTail
      · simp [known, or_assoc]

theorem nodup_union {first second : List Text} (nodup : first.Nodup) :
    (union first second).Nodup := by
  unfold union
  induction second generalizing first with
  | nil => simpa using nodup
  | cons head tail ih =>
      rw [List.foldl_cons]
      apply ih
      split
      · exact nodup
      · rename_i missing
        have notMem : head ∉ first := by simpa using missing
        exact nodup.append (List.nodup_singleton head)
          (by simpa [List.disjoint_singleton] using notMem)

theorem mem_without {first second : List Text} {rule : Text} :
    rule ∈ without first second ↔ rule ∈ first ∧ rule ∉ second := by
  simp [without]

theorem nodup_without {first second : List Text} (nodup : first.Nodup) :
    (without first second).Nodup :=
  nodup.filter _

theorem WellFormed.disable {coverage : Coverage}
    (wellFormed : coverage.WellFormed) (rules : List Text) :
    (coverage.disable rules).WellFormed := by
  by_cases all : rules.contains Rule.all = true
  · cases coverage <;>
      simpa only [Coverage.disable, all, if_true] using wellFormed_everything
  · have notAll : Rule.all ∉ rules := by simpa using all
    cases coverage with
    | only off =>
        simp only [Coverage.disable, all, Bool.false_eq_true, if_false]
        refine ⟨?_, nodup_union wellFormed.nodup⟩
        simp only [listed, mem_union]
        exact not_or.mpr ⟨wellFormed.all_not_listed, notAll⟩
    | allExcept on =>
        simp only [Coverage.disable, all, Bool.false_eq_true, if_false]
        refine ⟨?_, nodup_without wellFormed.nodup⟩
        simp only [listed, mem_without]
        exact fun kept => wellFormed.all_not_listed kept.1

theorem WellFormed.enable {coverage : Coverage}
    (wellFormed : coverage.WellFormed) (rules : List Text) :
    (coverage.enable rules).WellFormed := by
  by_cases all : rules.contains Rule.all = true
  · cases coverage <;>
      simpa only [Coverage.enable, all, if_true] using wellFormed_nothing
  · have notAll : Rule.all ∉ rules := by simpa using all
    cases coverage with
    | only off =>
        simp only [Coverage.enable, all, Bool.false_eq_true, if_false]
        refine ⟨?_, nodup_without wellFormed.nodup⟩
        simp only [listed, mem_without]
        exact fun kept => wellFormed.all_not_listed kept.1
    | allExcept on =>
        simp only [Coverage.enable, all, Bool.false_eq_true, if_false]
        refine ⟨?_, nodup_union wellFormed.nodup⟩
        simp only [listed, mem_union]
        exact not_or.mpr ⟨wellFormed.all_not_listed, notAll⟩

/-- Switching rules off switches off exactly the named ones, whatever else is
off. -/
theorem isOff_disable (coverage : Coverage) (directive : Directive)
    (rule : Text) :
    (coverage.disable directive.rules).isOff rule =
      (coverage.isOff rule || directive.names rule) := by
  rw [Bool.eq_iff_iff]
  by_cases all : Rule.all ∈ directive.rules
  · cases coverage <;> simp [disable, isOff, Directive.names, all]
  · cases coverage with
    | only off => simp [disable, isOff, Directive.names, all, mem_union]
    | allExcept on =>
        simp only [disable, isOff, Directive.names, List.contains_eq_mem, all,
          decide_false, Bool.false_eq_true, if_false, mem_without]
        simp

theorem isOff_enable (coverage : Coverage) (directive : Directive)
    (rule : Text) :
    (coverage.enable directive.rules).isOff rule =
      (coverage.isOff rule && !directive.names rule) := by
  rw [Bool.eq_iff_iff]
  by_cases all : Rule.all ∈ directive.rules
  · cases coverage <;> simp [enable, isOff, Directive.names, all]
  · cases coverage with
    | only off => simp [enable, isOff, Directive.names, all, mem_without]
    | allExcept on => simp [enable, isOff, Directive.names, all, mem_union]

/-- The switches of a coverage tell whether it switches a rule off: while all
rules are off a rule is on again by name, and otherwise it is off by name. -/
theorem isOff_iff_switches {coverage : Coverage}
    (wellFormed : coverage.WellFormed) (rule : Text) :
    coverage.isOff rule = true ↔
      if (Rule.all, RegionSource.disable) ∈ coverage.switches then
        (rule, RegionSource.enable) ∉ coverage.switches
      else (rule, RegionSource.disable) ∈ coverage.switches := by
  have notListed := wellFormed.all_not_listed
  cases coverage with
  | only off =>
      have allOn : (Rule.all, RegionSource.disable) ∉ (only off).switches := by
        simpa [switches, listed] using notListed
      rw [if_neg allOn]
      simp [switches, isOff]
  | allExcept on => simp [switches, isOff]

/-- All rules are off exactly if there is the switch that says so. -/
theorem all_mem_switches_iff {coverage : Coverage}
    (wellFormed : coverage.WellFormed) :
    (Rule.all, RegionSource.disable) ∈ coverage.switches ↔
      coverage.isOff Rule.all = true := by
  have notListed := wellFormed.all_not_listed
  cases coverage with
  | only off => simp [switches, isOff]
  | allExcept on =>
      have notOn : Rule.all ∉ on := notListed
      simp [switches, isOff, notOn]

/-- A rule is switched on again only while all rules are off. -/
theorem all_mem_switches_of_enable {coverage : Coverage} {rule : Text}
    (member : (rule, RegionSource.enable) ∈ coverage.switches) :
    (Rule.all, RegionSource.disable) ∈ coverage.switches := by
  cases coverage with
  | only off => simp [switches] at member
  | allExcept on => exact List.mem_cons_self

/-- Switches only ever come from switching off and on for a span of lines. -/
theorem source_of_mem_switches {coverage : Coverage} {switch : Switch}
    (member : switch ∈ coverage.switches) :
    switch.2 = .disable ∨ switch.2 = .enable := by
  cases coverage with
  | only off =>
      simp only [switches, List.mem_map] at member
      obtain ⟨rule, -, rfl⟩ := member
      exact Or.inl rfl
  | allExcept on =>
      simp only [switches, List.mem_cons, List.mem_map] at member
      rcases member with rfl | ⟨rule, -, rfl⟩
      · exact Or.inl rfl
      · exact Or.inr rfl

theorem WellFormed.nodup_switches {coverage : Coverage}
    (wellFormed : coverage.WellFormed) : coverage.switches.Nodup := by
  have pairInjective (source : RegionSource) :
      Function.Injective fun rule : Text => ((rule, source) : Switch) :=
    fun first second equal => congrArg Prod.fst equal
  cases coverage with
  | only off => exact wellFormed.nodup.map (pairInjective .disable)
  | allExcept on =>
      refine List.nodup_cons.mpr ⟨?_, wellFormed.nodup.map (pairInjective .enable)⟩
      simp

end Coverage

namespace Switch

theorem mem_difference {first second : List Switch} {switch : Switch} :
    switch ∈ difference first second ↔ switch ∈ first ∧ switch ∉ second := by
  simp [difference]

theorem nodup_difference {first second : List Switch} (nodup : first.Nodup) :
    (difference first second).Nodup :=
  (List.mergeSort_perm _ _).nodup_iff.mpr (nodup.filter _)

end Switch

end AnchorLint
