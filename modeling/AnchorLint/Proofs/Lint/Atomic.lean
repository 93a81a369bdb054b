import AnchorLint.Proofs.Lint.Again
import Mathlib.Logic.Relation

/-!
# Indexing all texts or none

Several workers index texts at once: each looks up whether the workspace lacks its
text, and if so indexes it.  Their outcomes are collected in the order of the texts,
the first failure ends the whole, and only when every outcome is there are the new
indexes put into the workspace, one after the other.  This file follows these steps
in every order in which the workers may come to take them.  Nothing is put into the
workspace as long as a failure is still possible, so a failure leaves the workspace
as it was.
-/

namespace AnchorLint

namespace Indexing

/-- The key of a text and its new index, if the workspace lacks the text. -/
abbrev Entry := Text × Option Document

/-- What a worker comes to with a text. -/
def outcome (workspace : Workspace) (source : Text × Text) :
    Except IndexError Entry := do
  let key := Path.normalize source.1
  let document ← Linter.indexIfStale workspace key source.2
  return (key, document)

/-- A text and the outcome of its worker, once there is one. -/
abbrev Slot := (Text × Text) × Option (Except IndexError Entry)

/-- How far the indexing of several texts has come. -/
inductive Phase where
  | looking (slots : List Slot)
  | failed (error : IndexError)
  | storing (entries : List Entry)

/-- The workspace and how far indexing has come. -/
structure State where
  workspace : Workspace
  phase : Phase

/-- The state before any worker has come to an outcome. -/
def start (workspace : Workspace) (sources : Entries Text Text) : State :=
  ⟨workspace, .looking (sources.map fun source => (source, none))⟩

/-- One step: any worker comes to its outcome; the first failure in the order of the
texts ends the whole; all outcomes are collected; one new index is stored. -/
inductive Step : State → State → Prop where
  | look (workspace : Workspace) (before : List Slot) (source : Text × Text)
      (after : List Slot) :
      Step ⟨workspace, .looking (before ++ (source, none) :: after)⟩
        ⟨workspace, .looking
          (before ++ (source, some (outcome workspace source)) :: after)⟩
  | fail (workspace : Workspace) (before : List Slot) (source : Text × Text)
      (error : IndexError) (after : List Slot)
      (earlier : ∀ slot ∈ before, ∃ entry, slot.2 = some (.ok entry)) :
      Step ⟨workspace, .looking
          (before ++ (source, some (.error error)) :: after)⟩
        ⟨workspace, .failed error⟩
  | collect (workspace : Workspace) (slots : List Slot) (entries : List Entry)
      (collected : slots.map Prod.snd = entries.map fun entry => some (.ok entry)) :
      Step ⟨workspace, .looking slots⟩ ⟨workspace, .storing entries⟩
  | store (workspace : Workspace) (entry : Entry) (entries : List Entry) :
      Step ⟨workspace, .storing (entry :: entries)⟩
        ⟨Linter.store workspace entry, .storing entries⟩

/-! ## What every step keeps -/

/-- What is known about a state behind a start: while workers look and after a
failure the workspace is the one at the start, and every outcome so far is what the
worker comes to there; while indexes are stored, those that have been stored and
those that have not are together the outcomes of all texts. -/
def Follows (workspace : Workspace) (sources : Entries Text Text) (state : State) :
    Prop :=
  match state.phase with
  | .looking slots =>
    state.workspace = workspace ∧ slots.map Prod.fst = sources ∧
      ∀ slot ∈ slots, ∀ found ∈ slot.2, found = outcome workspace slot.1
  | .failed error =>
    state.workspace = workspace ∧ Linter.indexAll workspace sources = .error error
  | .storing entries =>
    ∃ stored, Linter.indexAll workspace sources = .ok (stored ++ entries) ∧
      state.workspace = stored.foldl Linter.store workspace

variable {workspace : Workspace} {sources : Entries Text Text} {state next : State}

theorem follows_start (workspace : Workspace) (sources : Entries Text Text) :
    Follows workspace sources (start workspace sources) := by
  refine ⟨rfl, by simp [Function.comp_def], ?_⟩
  intro slot member found isFound
  obtain ⟨source, -, rfl⟩ := List.mem_map.mp member
  cases isFound

theorem indexAll_of_collected {slots : List Slot} {entries : List Entry}
    (collected : slots.map Prod.snd = entries.map fun entry => some (.ok entry))
    (known : ∀ slot ∈ slots, ∀ found ∈ slot.2, found = outcome workspace slot.1) :
    Linter.indexAll workspace (slots.map Prod.fst) = .ok entries := by
  refine Outcome.mapM_eq_ok.mpr ?_
  induction slots generalizing entries with
  | nil =>
      obtain rfl : entries = [] := by simpa using collected.symm
      exact List.Forall₂.nil
  | cons slot slots ih =>
      cases entries with
      | nil => cases collected
      | cons entry entries =>
          obtain ⟨here, later⟩ := List.cons.inj collected
          obtain ⟨knownHere, knownLater⟩ := List.forall_mem_cons.mp known
          exact List.Forall₂.cons (knownHere _ here).symm (ih later knownLater)

theorem Follows.step (follows : Follows workspace sources state)
    (step : Step state next) : Follows workspace sources next := by
  cases step with
  | look held before source after =>
      obtain ⟨same, texts, known⟩ := follows
      obtain rfl : held = workspace := same
      refine ⟨rfl, by simpa using texts, ?_⟩
      intro slot member
      rcases List.mem_append.mp member with early | late
      · exact known slot (List.mem_append_left _ early)
      · rcases List.mem_cons.mp late with rfl | later
        · exact fun found isFound => (Option.mem_some_iff.mp isFound).symm
        · exact known slot
            (List.mem_append_right _ (List.mem_cons_of_mem _ later))
  | fail held before source error after earlier =>
      obtain ⟨same, texts, known⟩ := follows
      refine ⟨same, Outcome.mapM_eq_error.mpr
        ⟨before.map Prod.fst, source, after.map Prod.fst, ?_, ?_, ?_⟩⟩
      · simpa using texts.symm
      · intro other member
        obtain ⟨slot, inBefore, rfl⟩ := List.mem_map.mp member
        obtain ⟨entry, found⟩ := earlier slot inBefore
        exact ⟨entry, (known slot (List.mem_append_left _ inBefore) _ found).symm⟩
      · exact (known (source, some (.error error)) (by simp) _ rfl).symm
  | collect held slots entries collected =>
      obtain ⟨same, texts, known⟩ := follows
      refine ⟨[], ?_, same⟩
      rw [← texts]
      exact indexAll_of_collected collected known
  | store held entry entries =>
      obtain ⟨stored, all, same⟩ := follows
      refine ⟨stored ++ [entry], by simpa using all, ?_⟩
      have soFar : held = stored.foldl Linter.store workspace := same
      rw [soFar, List.foldl_append]
      rfl

theorem follows_of_run
    (run : Relation.ReflTransGen Step (start workspace sources) state) :
    Follows workspace sources state := by
  induction run with
  | refl => exact follows_start workspace sources
  | tail _ step ih => exact ih.step step

/-! ## Every run ends -/

/-- A bound on the number of steps that may follow. -/
def Phase.remaining : Phase → Nat
  | looking slots =>
    slots.countP (fun slot => slot.2.isNone) + slots.length + 2
  | failed _ => 0
  | storing entries => entries.length + 1

theorem remaining_lt_of_step (step : Step state next) :
    next.phase.remaining < state.phase.remaining := by
  cases step with
  | look workspace before source after =>
      simp [Phase.remaining, List.countP_append]
  | fail workspace before source error after earlier =>
      simp [Phase.remaining]
  | collect workspace slots entries collected =>
      have length := congrArg List.length collected
      simp only [List.length_map] at length
      simp only [Phase.remaining]
      omega
  | store workspace entry entries => simp [Phase.remaining]

/-- No run goes on for ever. -/
theorem wellFounded_step : WellFounded fun next state => Step state next :=
  Subrelation.wf remaining_lt_of_step
    (InvImage.wf (fun state : State => state.phase.remaining) Nat.lt_wfRel.wf)

/-- A worker has no outcome yet, or one of the outcomes is the first failure, or all
outcomes can be collected. -/
theorem slots_cases (slots : List Slot) :
    (∃ before source after, slots = before ++ (source, none) :: after) ∨
      (∃ before source error after,
        slots = before ++ (source, some (.error error)) :: after ∧
          ∀ slot ∈ before, ∃ entry, slot.2 = some (.ok entry)) ∨
      ∃ entries, slots.map Prod.snd =
        List.map (fun entry : Entry => some (.ok entry)) entries := by
  induction slots with
  | nil => exact Or.inr (Or.inr ⟨[], rfl⟩)
  | cons slot slots ih =>
      obtain ⟨source, _ | error | entry⟩ := slot
      · exact Or.inl ⟨[], source, slots, rfl⟩
      · exact Or.inr (Or.inl ⟨[], source, error, slots, rfl, by simp⟩)
      · rcases ih with ⟨before, other, after, rfl⟩ |
          ⟨before, other, error, after, rfl, earlier⟩ | ⟨entries, collected⟩
        · exact Or.inl ⟨_ :: before, other, after, rfl⟩
        · exact Or.inr (Or.inl ⟨_ :: before, other, error, after, rfl,
            List.forall_mem_cons.mpr ⟨⟨entry, rfl⟩, earlier⟩⟩)
        · exact Or.inr (Or.inr ⟨entry :: entries, by simp [collected]⟩)

/-- As long as nothing has failed and not everything is stored, there is a step. -/
theorem ended_of_stuck (stuck : ∀ next, ¬ Step state next) :
    (∃ error, state.phase = .failed error) ∨ state.phase = .storing [] := by
  obtain ⟨workspace, phase⟩ := state
  cases phase with
  | failed error => exact Or.inl ⟨error, rfl⟩
  | storing entries =>
      cases entries with
      | nil => exact Or.inr rfl
      | cons entry entries => exact absurd (.store workspace entry entries) (stuck _)
  | looking slots =>
      rcases slots_cases slots with ⟨before, source, after, rfl⟩ |
        ⟨before, source, error, after, rfl, earlier⟩ | ⟨entries, collected⟩
      · exact absurd (.look workspace before source after) (stuck _)
      · exact absurd (.fail workspace before source error after earlier) (stuck _)
      · exact absurd (.collect workspace slots entries collected) (stuck _)

end Indexing

namespace Linter

variable {linter : Linter} {sources : Entries Text Text}

/-- A worker fails exactly if the workspace lacks its text and the text cannot be
indexed. -/
theorem outcome_fails_iff (workspace : Workspace) (source : Text × Text) :
    (∃ error, Indexing.outcome workspace source = .error error) ↔
      lacks workspace source = true ∧
        ¬ Document.CanIndex workspace.dialect source.2 := by
  have sameKey : lacks workspace (Path.normalize source.1, source.2) =
      lacks workspace source := lacks_congr (Path.normalize_normalize source.1)
  have single : (∃ error, Indexing.outcome workspace source = .error error) ↔
      ∃ error, indexIfStale workspace (Path.normalize source.1) source.2 =
        .error error := by
    simp [Indexing.outcome, Outcome.bind_eq_error, pure, Except.pure]
  rw [single, ← sameKey, lacks]
  unfold indexIfStale Document.CanIndex
  split
  · rename_i isNew
    cases Document.index workspace.dialect source.2 <;> simp [Except.map, isNew]
  · rename_i current
    simp [current]

/-- Indexing fails exactly if there is a text that the workspace lacks and that
cannot be indexed. -/
theorem index_fails_iff (linter : Linter) (sources : Entries Text Text) :
    (∃ error, linter.index sources = .error error) ↔
      ∃ source ∈ sources, lacks linter.workspace source = true ∧
        ¬ Document.CanIndex linter.workspace.dialect source.2 := by
  simp only [index_eq_error_iff, ← outcome_fails_iff]
  constructor
  · rintro ⟨error, fails⟩
    obtain ⟨before, source, after, rfl, -, here⟩ := Outcome.mapM_eq_error.mp fails
    exact ⟨source, by simp, error, here⟩
  · rintro ⟨source, member, error, fails⟩
    cases all : indexAll linter.workspace sources with
    | error first => exact ⟨first, rfl⟩
    | ok entries =>
        obtain ⟨entry, succeeds⟩ := Outcome.exists_of_mapM all source member
        exact absurd (succeeds.symm.trans fails) (by simp)

/-- Indexing fails exactly if there is a text that the workspace lacks and that
cannot be indexed.  Whatever the order in which the workers come to their outcomes,
every run ends; if indexing fails, the workspace is at every point of the run the one
from before, and the run ends with the failure; if not, the run ends with all new
indexes in the workspace. -/
theorem index_all_or_nothing (linter : Linter) (sources : Entries Text Text) :
    ((∃ error, linter.index sources = .error error) ↔
      ∃ source ∈ sources, lacks linter.workspace source = true ∧
        ¬ Document.CanIndex linter.workspace.dialect source.2) ∧
    WellFounded (fun next state => Indexing.Step state next) ∧
    ∀ state, Relation.ReflTransGen Indexing.Step
        (Indexing.start linter.workspace sources) state →
      (∀ error, linter.index sources = .error error →
        state.workspace = linter.workspace ∧
          ((∀ next, ¬ Indexing.Step state next) →
            state.phase = .failed error)) ∧
      (∀ keys after, linter.index sources = .ok (keys, after) →
        (∀ next, ¬ Indexing.Step state next) →
          state.phase = .storing [] ∧ after = linter.within state.workspace) := by
  refine ⟨index_fails_iff linter sources, Indexing.wellFounded_step, ?_⟩
  intro state run
  have follows := Indexing.follows_of_run run
  refine ⟨fun error fails => ?_, fun keys after succeeds stuck => ?_⟩
  · have allFails := (index_eq_error_iff linter sources error).mp fails
    obtain ⟨workspace, phase⟩ := state
    cases phase with
    | looking slots =>
        refine ⟨follows.1, fun stuck => ?_⟩
        rcases Indexing.ended_of_stuck stuck with ⟨other, ended⟩ | ended <;>
          cases ended
    | failed other =>
        have same := allFails.symm.trans follows.2
        exact ⟨follows.1, fun _ => by rw [Except.error.inj same]⟩
    | storing entries =>
        obtain ⟨stored, all, -⟩ := follows
        exact absurd (allFails.symm.trans all) (by simp)
  · obtain ⟨entries, all, equal⟩ := Outcome.bind_eq_ok.mp succeeds
    obtain ⟨rfl, rfl⟩ := Prod.mk.inj (Except.ok.inj equal)
    obtain ⟨workspace, phase⟩ := state
    rcases Indexing.ended_of_stuck stuck with ⟨error, ended⟩ | ended
    · obtain rfl : phase = .failed error := ended
      exact absurd (all.symm.trans follows.2) (by simp)
    · obtain rfl : phase = .storing [] := ended
      obtain ⟨stored, collected, same⟩ := follows
      refine ⟨rfl, ?_⟩
      rw [List.append_nil, all] at collected
      rw [Except.ok.inj collected]
      exact congrArg linter.within same.symm

/-- The second of two texts has an impossible date in its front matter: whatever the
workers do first, nothing of the first text comes into the workspace, and a run ends
with the failure. -/
theorem index_all_or_nothing_dated :
    let first := ("a.md".toList, "# One".toList)
    let second := ("b.md".toList, "---\nday: 2024-13-02\n---\n".toList)
    let linter := fresh {} true .github
    (∃ error, linter.index [first, second] = .error error ∧
      Relation.ReflTransGen Indexing.Step
        (Indexing.start linter.workspace [first, second])
        ⟨linter.workspace, .failed error⟩) ∧
    ∀ state, Relation.ReflTransGen Indexing.Step
        (Indexing.start linter.workspace [first, second]) state →
      state.workspace = linter.workspace := by
  intro first second linter
  have possible : Document.CanIndex .github first.2 := by decide +kernel
  have impossible : ¬ Document.CanIndex .github second.2 := by decide +kernel
  have whole := index_all_or_nothing linter [first, second]
  obtain ⟨error, fails⟩ := whole.1.mpr ⟨second, by simp, rfl, impossible⟩
  have unchanged := fun state run => (whole.2.2 state run).1 error fails
  refine ⟨⟨error, fails, ?_⟩, fun state run => (unchanged state run).1⟩
  have firstFails := not_congr (outcome_fails_iff linter.workspace first)
  obtain ⟨entry, succeeds⟩ : ∃ entry,
      Indexing.outcome linter.workspace first = .ok entry := by
    cases found : Indexing.outcome linter.workspace first with
    | error other => exact absurd ⟨other, found⟩ (firstFails.mpr (·.2 possible))
    | ok entry => exact ⟨entry, rfl⟩
  have secondFails : Indexing.outcome linter.workspace second = .error error := by
    have all := (index_eq_error_iff linter [first, second] error).mp fails
    obtain ⟨before, source, after, cut, -, here⟩ := Outcome.mapM_eq_error.mp all
    have member : source ∈ [first, second] := cut ▸ by simp
    rcases List.mem_pair.mp member with rfl | rfl
    · exact absurd (succeeds.symm.trans here) (by simp)
    · exact here
  have looked := (Relation.ReflTransGen.single
    (Indexing.Step.look linter.workspace [] first [(second, none)])).tail
    (.look linter.workspace [(first, some (Indexing.outcome linter.workspace first))]
      second [])
  rw [succeeds, secondFails] at looked
  exact looked.tail (.fail linter.workspace [(first, some (.ok entry))] second error []
    (List.forall_mem_singleton.mpr ⟨entry, rfl⟩))

end Linter

end AnchorLint
