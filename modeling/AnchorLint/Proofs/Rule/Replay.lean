import AnchorLint.Proofs.Data.Entries
import AnchorLint.Proofs.Rule.Coverage
import Mathlib.Data.List.Induction

/-!
# The open regions of a replay

A replay opens and closes regions while its coverage moves.  This file says what
one move does, and that the open regions are at any time those of the running
coverage, one each.  It follows that no comment ever asks for a region that is
not open.
-/

namespace AnchorLint

namespace Replay

def ofDirectives (fed : List (Nat × Directive)) : Replay :=
  fed.foldl (fun replay entry => replay.feed entry.1 entry.2) {}

@[simp]
theorem ofDirectives_concat (fed : List (Nat × Directive))
    (entry : Nat × Directive) :
    ofDirectives (fed ++ [entry]) =
      (ofDirectives fed).feed entry.1 entry.2 := by
  simp [ofDirectives]

/-! ## One move to another coverage -/

/-- The region that closing a switch leaves behind, unless it is empty. -/
def closing (line : Nat) (openSince : Entries Switch Nat) (switch : Switch) :
    Option Region :=
  (openSince.lookup switch).bind fun first =>
    if first ≤ line then some ⟨switch.1, first, some line, switch.2⟩ else none

theorem close_eq (line : Nat) (replay : Replay) (switch : Switch) :
    replay.close line switch =
      { replay with
        openSince := Entries.erase replay.openSince switch
        closed := replay.closed
          ++ (closing line replay.openSince switch).toList } := by
  unfold close closing
  cases found : replay.openSince.lookup switch with
  | none =>
      have missing := Entries.lookup_eq_none_iff_not_mem.mp found
      have unchanged : Entries.erase replay.openSince switch =
          replay.openSince := by
        refine List.filter_eq_self.mpr fun entry member => ?_
        have different : entry.1 ≠ switch := fun same =>
          missing (same ▸ List.mem_map_of_mem member)
        simpa using different
      simp [unchanged]
  | some first =>
      by_cases reached : first ≤ line
      · simp [reached, Entries.erase, bne]
      · simp [reached, Entries.erase, bne]

/-- Closing several switches takes all of them out of the open ones. -/
theorem foldl_close (line : Nat) {gone : List Switch} (nodup : gone.Nodup)
    (replay : Replay) :
    gone.foldl (close line) replay =
      { replay with
        openSince := gone.foldl Entries.erase replay.openSince
        closed := replay.closed
          ++ gone.filterMap (closing line replay.openSince) } := by
  induction gone generalizing replay with
  | nil => simp
  | cons switch gone ih =>
      obtain ⟨missing, nodupRest⟩ := List.nodup_cons.mp nodup
      have later : gone.filterMap (closing line
          (Entries.erase replay.openSince switch)) =
            gone.filterMap (closing line replay.openSince) := by
        refine List.filterMap_congr fun other member => ?_
        have different : other ≠ switch := fun same => missing (same ▸ member)
        rw [closing, closing, Entries.lookup_erase_of_ne _ different]
      rw [List.foldl_cons, ih nodupRest, close_eq]
      simp only [later, List.foldl_cons, List.filterMap_cons,
        List.append_assoc]
      cases closing line replay.openSince switch <;> simp

theorem foldl_openAfter (line : Nat) (new : List Switch) (replay : Replay) :
    new.foldl (openAfter line) replay =
      { replay with
        openSince := replay.openSince
          ++ new.map fun switch => (switch, line + 1) } := by
  induction new generalizing replay with
  | nil => simp
  | cons switch new ih =>
      rw [List.foldl_cons, ih]
      simp [openAfter]

/-- Moving to another coverage changes nothing but the coverage and the regions. -/
theorem moveTo_keeps (line : Nat) (coverage : Coverage) (replay : Replay) :
    ∃ openSince closed, replay.moveTo line coverage =
      { replay with
        coverage := coverage, openSince := openSince, closed := closed } := by
  have closing (gone : List Switch) : ∀ replay : Replay,
      ∃ openSince closed, gone.foldl (close line) replay =
        { replay with openSince := openSince, closed := closed } := by
    induction gone with
    | nil => exact fun replay => ⟨_, _, rfl⟩
    | cons switch gone ih =>
        intro replay
        rw [List.foldl_cons, close_eq]
        exact ih _
  obtain ⟨openSince, closed, equal⟩ := closing
    (Switch.difference replay.coverage.switches coverage.switches) replay
  rw [moveTo, foldl_openAfter]
  dsimp only
  rw [equal]
  exact ⟨_, _, rfl⟩

@[simp]
theorem configuration_moveTo (line : Nat) (coverage : Coverage)
    (replay : Replay) :
    (replay.moveTo line coverage).configuration = replay.configuration := by
  obtain ⟨openSince, closed, equal⟩ := moveTo_keeps line coverage replay
  rw [equal]

theorem mem_foldl_erase {gone : List Switch} {openSince : Entries Switch Nat}
    {entry : Switch × Nat} :
    entry ∈ gone.foldl Entries.erase openSince ↔
      entry ∈ openSince ∧ entry.1 ∉ gone := by
  induction gone generalizing openSince with
  | nil => simp
  | cons switch gone ih =>
      rw [List.foldl_cons, ih]
      simp only [Entries.erase, List.mem_filter, List.mem_cons, not_or]
      simp [and_assoc]

theorem nodup_keys_foldl_erase (gone : List Switch)
    {openSince : Entries Switch Nat} (nodup : openSince.keys.Nodup) :
    (Entries.keys (gone.foldl Entries.erase openSince)).Nodup := by
  induction gone generalizing openSince with
  | nil => exact nodup
  | cons switch gone ih => exact ih (Entries.nodup_keys_erase nodup switch)

/-- Moving to another coverage closes what is not in it any more, opens what is
new in it, and changes nothing else. -/
theorem moveTo_eq (line : Nat) (coverage : Coverage) {replay : Replay}
    (wellFormed : replay.coverage.WellFormed) :
    replay.moveTo line coverage =
      { replay with
        coverage := coverage
        openSince :=
          (Switch.difference replay.coverage.switches
            coverage.switches).foldl Entries.erase replay.openSince
          ++ (Switch.difference coverage.switches
            replay.coverage.switches).map fun switch => (switch, line + 1)
        closed := replay.closed
          ++ (Switch.difference replay.coverage.switches
            coverage.switches).filterMap (closing line replay.openSince) } := by
  have nodup : (Switch.difference replay.coverage.switches
      coverage.switches).Nodup :=
    Switch.nodup_difference wellFormed.nodup_switches
  unfold moveTo
  simp only [foldl_close line nodup, foldl_openAfter]

/-! ## The open regions are those of the running coverage -/

/-- All coverages of a replay are well formed, and the open regions are those of
the running one, one each. -/
structure Consistent (replay : Replay) : Prop where
  coverage : replay.coverage.WellFormed
  file : replay.file.WellFormed
  captured : ∀ coverage ∈ replay.captured, coverage.WellFormed
  nodup_open : (Entries.keys replay.openSince).Nodup
  mem_open : ∀ switch, switch ∈ Entries.keys replay.openSince ↔
    switch ∈ replay.coverage.switches

theorem consistent_start : Consistent {} where
  coverage := Coverage.wellFormed_nothing
  file := Coverage.wellFormed_nothing
  captured := by simp
  nodup_open := by simp [Entries.keys]
  mem_open := by simp [Entries.keys, Coverage.switches]

theorem mem_openSince_moveTo {replay : Replay} (consistent : replay.Consistent)
    (line : Nat) (coverage : Coverage) (switch : Switch) (first : Nat) :
    (switch, first) ∈ (replay.moveTo line coverage).openSince ↔
      switch ∈ coverage.switches ∧
        if switch ∈ replay.coverage.switches then
          (switch, first) ∈ replay.openSince
        else first = line + 1 := by
  rw [moveTo_eq line coverage consistent.coverage]
  simp only [List.mem_append, mem_foldl_erase, Switch.mem_difference,
    List.mem_map, Prod.mk.injEq]
  have isOpen : (switch, first) ∈ replay.openSince →
      switch ∈ replay.coverage.switches := fun member =>
    (consistent.mem_open switch).mp (Entries.mem_keys_of_mem member)
  by_cases before : switch ∈ replay.coverage.switches
  · by_cases after : switch ∈ coverage.switches <;> simp [before, after]
  · have notOpen : (switch, first) ∉ replay.openSince := fun member =>
      before (isOpen member)
    simp [before, notOpen, eq_comm]

theorem Consistent.moveTo {replay : Replay} (consistent : replay.Consistent)
    (line : Nat) {coverage : Coverage} (wellFormed : coverage.WellFormed) :
    (replay.moveTo line coverage).Consistent where
  coverage := by
    rw [moveTo_eq line coverage consistent.coverage]
    exact wellFormed
  file := by
    rw [moveTo_eq line coverage consistent.coverage]
    exact consistent.file
  captured := by
    rw [moveTo_eq line coverage consistent.coverage]
    exact consistent.captured
  nodup_open := by
    rw [moveTo_eq line coverage consistent.coverage]
    simp only [Entries.keys, List.map_append, List.map_map]
    refine (nodup_keys_foldl_erase _ consistent.nodup_open).append ?_ ?_
    · simpa [Function.comp_def] using
        Switch.nodup_difference wellFormed.nodup_switches
    · intro switch old new
      have wasOpen : switch ∈ replay.coverage.switches := by
        obtain ⟨entry, member, rfl⟩ := List.mem_map.mp old
        exact (consistent.mem_open _).mp
          (List.mem_map_of_mem (mem_foldl_erase.mp member).1)
      have isNew : switch ∉ replay.coverage.switches := by
        simp only [Function.comp_def, List.map_id'] at new
        exact (Switch.mem_difference.mp new).2
      exact isNew wasOpen
  mem_open := by
    intro switch
    have moved : (replay.moveTo line coverage).coverage = coverage := by
      rw [moveTo_eq line coverage consistent.coverage]
    rw [moved, Entries.keys, List.mem_map]
    constructor
    · rintro ⟨⟨_, first⟩, member, rfl⟩
      exact ((mem_openSince_moveTo consistent line coverage _ first).mp
        member).1
    · intro after
      by_cases before : switch ∈ replay.coverage.switches
      · obtain ⟨⟨_, first⟩, member, rfl⟩ :=
          List.mem_map.mp ((consistent.mem_open switch).mpr before)
        refine ⟨(_, first), ?_, rfl⟩
        rw [mem_openSince_moveTo consistent]
        exact ⟨after, by rwa [if_pos before]⟩
      · refine ⟨(switch, line + 1), ?_, rfl⟩
        rw [mem_openSince_moveTo consistent]
        exact ⟨after, by rw [if_neg before]⟩

/-- Taking over a configuration leaves everything else as it was. -/
theorem configure_eq (payload : Text) (replay : Replay) :
    replay.configure payload =
      { replay with
        configuration := (replay.configure payload).configuration
        oversized := (replay.configure payload).oversized } := by
  unfold configure
  split
  · rfl
  · split <;> rfl

theorem Consistent.pop {replay : Replay} (consistent : replay.Consistent)
    {coverage : Coverage} {captured : List Coverage}
    (stack : replay.captured = coverage :: captured) :
    Consistent { replay with captured := captured } :=
  { consistent with
    captured := fun other member =>
      consistent.captured other (stack ▸ List.mem_cons_of_mem _ member) }

theorem Consistent.feed {replay : Replay} (consistent : replay.Consistent)
    (line : Nat) (directive : Directive) :
    (replay.feed line directive).Consistent := by
  unfold Replay.feed
  cases directive.action with
  | disable => exact consistent.moveTo line (consistent.coverage.disable _)
  | enable => exact consistent.moveTo line (consistent.coverage.enable _)
  | capture =>
      refine { consistent with captured := ?_ }
      intro coverage member
      rcases List.mem_cons.mp member with rfl | earlier
      · exact consistent.coverage
      · exact consistent.captured coverage earlier
  | restore =>
      cases stack : replay.captured with
      | nil => exact consistent.moveTo line Coverage.wellFormed_nothing
      | cons coverage captured =>
          have wellFormed : coverage.WellFormed :=
            consistent.captured coverage (stack ▸ List.mem_cons_self)
          exact (consistent.pop stack).moveTo line wellFormed
  | disableLine => exact { consistent with }
  | disableNextLine => exact { consistent with }
  | disableFile => exact { consistent with file := consistent.file.disable _ }
  | enableFile => exact { consistent with file := consistent.file.enable _ }
  | configureFile =>
      simp only
      rw [configure_eq]
      exact { consistent with }

/-- The open regions match the running coverage after every sequence of
comments. -/
theorem consistent_ofDirectives (fed : List (Nat × Directive)) :
    (ofDirectives fed).Consistent := by
  induction fed using List.reverseRecOn with
  | nil => exact consistent_start
  | append_singleton fed entry ih =>
      rw [ofDirectives_concat]
      exact ih.feed entry.1 entry.2

/-! ## Closing never misses -/

/-- Closes the region of a switch that has to be open. -/
def close? (line : Nat) (replay : Replay) (switch : Switch) : Option Replay :=
  (replay.openSince.lookup switch).map fun _ => replay.close line switch

/-- Moves to another coverage if all regions that have to be closed are open. -/
def moveTo? (line : Nat) (coverage : Coverage) (replay : Replay) :
    Option Replay := do
  let before := replay.coverage.switches
  let after := coverage.switches
  let replay ← (Switch.difference before after).foldlM (close? line) replay
  let replay := (Switch.difference after before).foldl (openAfter line) replay
  return { replay with coverage := coverage }

/-- Feeds the comment on a line if all regions that it closes are open. -/
def feed? (replay : Replay) (line : Nat) (directive : Directive) :
    Option Replay :=
  match directive.action with
  | .disable => replay.moveTo? line (replay.coverage.disable directive.rules)
  | .enable => replay.moveTo? line (replay.coverage.enable directive.rules)
  | .restore =>
    match replay.captured with
    | [] => replay.moveTo? line (.only [])
    | coverage :: captured =>
      { replay with captured := captured }.moveTo? line coverage
  | _ => some (replay.feed line directive)

theorem foldlM_close? (line : Nat) {gone : List Switch} (nodup : gone.Nodup)
    {replay : Replay}
    (isOpen : ∀ switch ∈ gone, switch ∈ Entries.keys replay.openSince) :
    gone.foldlM (close? line) replay =
      some (gone.foldl (close line) replay) := by
  induction gone generalizing replay with
  | nil => rfl
  | cons switch gone ih =>
      obtain ⟨missing, nodupRest⟩ := List.nodup_cons.mp nodup
      obtain ⟨first, found⟩ := Option.isSome_iff_exists.mp
        (Entries.isSome_lookup_iff.mpr (isOpen switch List.mem_cons_self))
      have closed : close? line replay switch =
          some (replay.close line switch) := by
        simp [close?, found]
      rw [List.foldlM_cons, closed, List.foldl_cons]
      refine ih nodupRest fun other member => ?_
      rw [close_eq]
      refine Entries.mem_keys_erase.mpr
        ⟨fun same => missing (same ▸ member),
          isOpen other (List.mem_cons_of_mem _ member)⟩

theorem Consistent.moveTo? {replay : Replay} (consistent : replay.Consistent)
    (line : Nat) (coverage : Coverage) :
    replay.moveTo? line coverage = some (replay.moveTo line coverage) := by
  have nodup : (Switch.difference replay.coverage.switches
      coverage.switches).Nodup :=
    Switch.nodup_difference consistent.coverage.nodup_switches
  have isOpen : ∀ switch ∈ Switch.difference replay.coverage.switches
      coverage.switches, switch ∈ Entries.keys replay.openSince :=
    fun switch member =>
      (consistent.mem_open switch).mpr (Switch.mem_difference.mp member).1
  unfold Replay.moveTo?
  simp only [foldlM_close? line nodup isOpen]
  rfl

theorem Consistent.feed? {replay : Replay} (consistent : replay.Consistent)
    (line : Nat) (directive : Directive) :
    replay.feed? line directive = some (replay.feed line directive) := by
  unfold Replay.feed? Replay.feed
  cases directive.action with
  | disable => exact consistent.moveTo? line _
  | enable => exact consistent.moveTo? line _
  | restore =>
      cases stack : replay.captured with
      | nil => exact consistent.moveTo? line _
      | cons coverage captured =>
          exact (consistent.pop stack).moveTo? line coverage
  | capture => rfl
  | disableLine => rfl
  | disableNextLine => rfl
  | disableFile => rfl
  | enableFile => rfl
  | configureFile => rfl

/-- No comment asks for a region that is not open, whatever was fed before. -/
theorem foldlM_feed? (fed : List (Nat × Directive)) :
    fed.foldlM (fun replay entry => feed? replay entry.1 entry.2) {} =
      some (ofDirectives fed) := by
  induction fed using List.reverseRecOn with
  | nil => rfl
  | append_singleton fed entry ih =>
      rw [List.foldlM_append, ih, ofDirectives_concat]
      simp [(consistent_ofDirectives fed).feed?]

end Replay

end AnchorLint
