import AnchorLint.Lint.Linter
import AnchorLint.Proofs.Data.Entries
import Mathlib.Data.List.Induction

/-!
# What a check reads

To check a document is to look at the document itself and at those that its links
with fragments lead to.  So two workspaces that hold the same there give the same
findings, and a check of several documents is one check for each of them.
-/

namespace AnchorLint

namespace Stored

/-- The links to other documents that are looked up: those with a fragment. -/
def lookups : Stored → List (LinkKind × Option Text)
  | indexed document =>
    document.crossFileLinks.map fun link => (link.kind, link.path)
  | cached record =>
    record.crossFileLinks.map fun link => (link.kind, Cache.text? link.path)

/-- The paths at which a check of the document with a key looks. -/
def readsFrom (key : Text) (stored : Stored) : List Text :=
  stored.lookups.map fun link =>
    Path.resolveTarget (Path.normalize key) link.1 link.2

end Stored

namespace Workspace

variable {first second : Workspace} {key : Text}

theorem unresolvedLinks_congr {document : Document}
    (same : ∀ target ∈ (Stored.indexed document).readsFrom key,
      first.get? target = second.get? target) :
    first.unresolvedLinks key document =
      second.unresolvedLinks key document := by
  refine List.filterMap_congr fun link member => ?_
  have target := same _ (List.mem_map_of_mem (List.mem_map_of_mem member))
  dsimp only at target ⊢
  rw [target]

theorem filterMapM_congr {ε α β : Type} {items : List α}
    {left right : α → Except ε (Option β)}
    (same : ∀ item ∈ items, left item = right item) :
    items.filterMapM left = items.filterMapM right := by
  induction items with
  | nil => rfl
  | cons item items ih =>
      obtain ⟨here, later⟩ := List.forall_mem_cons.mp same
      rw [List.filterMapM_cons, List.filterMapM_cons, here, ih later]

theorem unresolvedRecords_congr {record : Cache.Record}
    (same : ∀ target ∈ (Stored.cached record).readsFrom key,
      first.get? target = second.get? target) :
    first.unresolvedRecords key record =
      second.unresolvedRecords key record := by
  refine filterMapM_congr fun link member => ?_
  have target := same _ (List.mem_map_of_mem (List.mem_map_of_mem member))
  dsimp only at target ⊢
  rw [target]

end Workspace

namespace Linter

def within (linter : Linter) (workspace : Workspace) : Linter :=
  { linter with workspace := workspace }

/-- The findings in a document depend on the documents that its links lead to
only. -/
theorem reports_congr (linter : Linter) {first second : Workspace} {key : Text}
    {stored : Stored}
    (same : ∀ target ∈ stored.readsFrom key,
      first.get? target = second.get? target) :
    (linter.within first).reports key stored =
      (linter.within second).reports key stored := by
  cases stored with
  | indexed document =>
      have across : Rule.checkFragmentsAcross first key document =
          Rule.checkFragmentsAcross second key document := by
        unfold Rule.checkFragmentsAcross
        rw [Workspace.unresolvedLinks_congr same]
      unfold reports findings within
      dsimp only
      rw [across]
  | cached record =>
      have across : Rule.checkRecordFragmentsAcross first key record =
          Rule.checkRecordFragmentsAcross second key record := by
        unfold Rule.checkRecordFragmentsAcross
        rw [Workspace.unresolvedRecords_congr same]
      unfold reports recordFindings within
      dsimp only
      rw [across]

/-- The findings in the document with a key, if there is one. -/
def checkAt (linter : Linter) (key : Text) :
    Except Mismatch (Option (List ReportedFinding)) :=
  match linter.workspace.get? key with
  | some stored => (linter.reports key stored).map some
  | none => .ok none

def addResult (key : Text) (results : LintResults) :
    Option (List ReportedFinding) → LintResults
  | some findings => results.put key findings
  | none => results

theorem check_eq (linter : Linter) (keys : List Text) :
    linter.check keys = keys.foldlM (fun results key =>
      (linter.checkAt key).map (addResult key results)) [] := by
  unfold check
  congr 1
  funext results key
  unfold checkAt
  cases linter.workspace.get? key with
  | none => rfl
  | some stored =>
      dsimp only
      cases linter.reports key stored <;> rfl

theorem checkAt_congr (linter : Linter) {first second : Workspace} {key : Text}
    (here : first.get? key = second.get? key)
    (same : ∀ stored, first.get? key = some stored →
      ∀ target ∈ stored.readsFrom key,
        first.get? target = second.get? target) :
    (linter.within first).checkAt key = (linter.within second).checkAt key := by
  have unfolded (workspace : Workspace) : (linter.within workspace).checkAt key =
      match workspace.get? key with
      | some stored => ((linter.within workspace).reports key stored).map some
      | none => .ok none := rfl
  rw [unfolded, unfolded, ← here]
  cases held : first.get? key with
  | none => rfl
  | some stored =>
      dsimp only
      rw [linter.reports_congr (same stored held)]

theorem check_congr {first second : Linter} {keys : List Text}
    (same : ∀ key ∈ keys, first.checkAt key = second.checkAt key) :
    first.check keys = second.check keys := by
  rw [check_eq, check_eq]
  generalize ([] : LintResults) = results
  induction keys generalizing results with
  | nil => rfl
  | cons key keys ih =>
      obtain ⟨here, later⟩ := List.forall_mem_cons.mp same
      rw [List.foldlM_cons, List.foldlM_cons, here]
      congr 1
      funext results
      exact ih later results

/-! ## A check of several documents -/

variable {linter : Linter}

theorem check_concat (linter : Linter) (keys : List Text) (key : Text) :
    linter.check (keys ++ [key]) =
      (linter.check keys).bind fun results =>
        (linter.checkAt key).map (addResult key results) := by
  rw [check_eq, check_eq, List.foldlM_append]
  cases keys.foldlM (fun results key =>
      (linter.checkAt key).map (addResult key results)) [] with
  | error mismatch => rfl
  | ok results =>
      simp only [List.foldlM_cons, List.foldlM_nil, bind_pure]
      rfl

theorem check_singleton (linter : Linter) (key : Text) :
    linter.check [key] = (linter.checkAt key).map (addResult key []) :=
  check_concat linter [] key

theorem lookup_addResult_self {key : Text} {results : LintResults}
    {found : Option (List ReportedFinding)}
    (known : found = none → results.lookup key = none) :
    (addResult key results found).lookup key = found := by
  cases found with
  | none => exact known rfl
  | some findings => exact Entries.lookup_put_self _ _ _

theorem lookup_addResult_of_ne {key other : Text} (different : other ≠ key)
    (results : LintResults) (found : Option (List ReportedFinding)) :
    (addResult key results found).lookup other = results.lookup other := by
  cases found with
  | none => rfl
  | some findings => exact Entries.lookup_put_of_ne _ different _

/-- A check holds for each of its documents what a check of this document alone
holds, and nothing for others. -/
theorem lookup_of_check {keys : List Text} {results : LintResults}
    (checked : linter.check keys = .ok results) (key : Text) :
    (key ∈ keys → linter.checkAt key = .ok (results.lookup key)) ∧
      (key ∉ keys → results.lookup key = none) := by
  induction keys using List.reverseRecOn generalizing results with
  | nil =>
      obtain rfl : results = [] := (Except.ok.inj checked).symm
      simp
  | append_singleton keys last ih =>
      rw [check_concat] at checked
      cases before : linter.check keys with
      | error mismatch =>
          rw [before] at checked
          exact absurd checked (by simp [Except.bind])
      | ok earlier =>
          rw [before] at checked
          cases found : linter.checkAt last with
          | error mismatch =>
              rw [found] at checked
              exact absurd checked (by simp [Except.bind, Except.map])
          | ok findings =>
              rw [found] at checked
              obtain rfl : results = addResult last earlier findings :=
                (Except.ok.inj checked).symm
              obtain ⟨held, missing⟩ := ih before
              by_cases same : key = last
              · subst same
                refine ⟨fun _ => ?_, fun outside => absurd (by simp) outside⟩
                rw [found, lookup_addResult_self]
                rintro rfl
                by_cases inKeys : key ∈ keys
                · rw [held inKeys] at found
                  exact Except.ok.inj found
                · exact missing inKeys
              · rw [lookup_addResult_of_ne same]
                simpa [same] using And.intro held missing

theorem exists_check {keys : List Text}
    (each : ∀ key ∈ keys, ∃ found, linter.checkAt key = .ok found) :
    ∃ results, linter.check keys = .ok results := by
  induction keys using List.reverseRecOn with
  | nil => exact ⟨[], rfl⟩
  | append_singleton keys last ih =>
      obtain ⟨earlier, before⟩ := ih fun key member =>
        each key (List.mem_append_left _ member)
      obtain ⟨found, checked⟩ := each last (by simp)
      exact ⟨addResult last earlier found, by
        rw [check_concat, before, checked]
        rfl⟩

/-- A check that succeeds for each document holds what it finds there. -/
theorem exists_check_lookup {keys : List Text}
    {found : Text → Option (List ReportedFinding)}
    (each : ∀ key ∈ keys, linter.checkAt key = .ok (found key)) :
    ∃ results, linter.check keys = .ok results ∧
      ∀ key, results.lookup key = if key ∈ keys then found key else none := by
  obtain ⟨results, checked⟩ := exists_check fun key member =>
    ⟨_, each key member⟩
  refine ⟨results, checked, fun key => ?_⟩
  obtain ⟨inside, outside⟩ := lookup_of_check checked key
  split
  · rename_i member
    exact Except.ok.inj ((inside member).symm.trans (each key member))
  · rename_i elsewhere
    exact outside elsewhere

theorem checkAt_of_results {keys : List Text} {results : LintResults}
    (checked : linter.check keys = .ok results) {key : Text}
    {findings : List ReportedFinding}
    (found : results.lookup key = some findings) :
    linter.checkAt key = .ok (some findings) := by
  obtain ⟨inside, outside⟩ := lookup_of_check checked key
  by_cases member : key ∈ keys
  · rw [inside member, found]
  · exact absurd ((outside member).symm.trans found) nofun

/-- Two checks of the same documents have the same results exactly if they say
the same of each of them. -/
theorem results_eq_iff {first second : Linter} {keys : List Text}
    {results other : LintResults} (checked : first.check keys = .ok results)
    (checkedOther : second.check keys = .ok other) :
    other = results ↔
      ∀ key ∈ keys, second.checkAt key = first.checkAt key := by
  constructor
  · rintro rfl key member
    exact ((lookup_of_check checkedOther key).1 member).trans
      ((lookup_of_check checked key).1 member).symm
  · intro same
    have equal := check_congr same
    rw [checked, checkedOther] at equal
    exact Except.ok.inj equal

theorem checkAt_of_lookup {stored : Stored} {key : Text}
    (held : linter.workspace.get? key = some stored)
    {found : Option (List ReportedFinding)}
    (checked : linter.checkAt key = .ok found) :
    ∃ findings, found = some findings := by
  simp only [checkAt, held] at checked
  cases reported : linter.reports key stored with
  | error mismatch => simp [reported, Except.map] at checked
  | ok findings =>
      rw [reported] at checked
      exact ⟨findings, (Except.ok.inj checked).symm⟩

end Linter

end AnchorLint
