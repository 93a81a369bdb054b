import AnchorLint.Proofs.Data.Outcome
import AnchorLint.Proofs.Lint.Check
import AnchorLint.Proofs.Text.Order
import AnchorLint.Proofs.Workspace.View
import Mathlib.Data.Prod.Lex

/-!
# Every defect is reported once

What is wrong with a document can be said without its rules being run: a link
is broken if its fragment names no anchor of the page it leads to, and a
footnote is repeated if another one before it has the same identifier.  A check
of a document in a workspace reports exactly these, each of them once and in
the order of their places, except where a comment has switched the rule off.
-/

namespace AnchorLint

namespace Finding

/-- Whether a finding may stand before another one: places are compared by line
and column, and findings at one place by rule and message. -/
def Precedes (first second : Finding) : Prop :=
  first.line < second.line ∨ first.line = second.line ∧
    (first.column < second.column ∨ first.column = second.column ∧
      (first.rule < second.rule ∨ first.rule = second.rule ∧
        (first.message < second.message ∨ first.message = second.message)))

theorem le_iff_precedes {first second : Finding} :
    le first second = true ↔ first.Precedes second := by
  have text (one other : Text) :
      Text.le one other = true ↔ one < other ∨ one = other := by
    rw [Text.le_iff, not_lt, le_iff_lt_or_eq]
  unfold le Precedes
  split
  · rename_i line
    simp [line]
  · rename_i line
    split
    · rename_i column
      simp [not_not.mp line, column]
    · rename_i column
      split
      · rename_i rule
        simp [not_not.mp line, not_not.mp column, rule, text]
      · rename_i rule
        simp [not_not.mp line, not_not.mp column, not_not.mp rule, text]

/-- The place of a finding with its rule and message, compared in this order. -/
def place (finding : Finding) : Nat ×ₗ Int ×ₗ Text ×ₗ Text :=
  toLex (finding.line, toLex (finding.column,
    toLex (finding.rule, finding.message)))

theorem precedes_iff {first second : Finding} :
    first.Precedes second ↔ first.place ≤ second.place := by
  simp only [Precedes, place, Prod.Lex.toLex_le_toLex]
  rw [le_iff_lt_or_eq]

theorem pairwise_sort (findings : List Finding) :
    (sort findings).Pairwise Precedes := by
  have transitive (first second third : Finding)
      (before : le first second = true) (behind : le second third = true) :
      le first third = true := by
    rw [le_iff_precedes, precedes_iff] at before behind ⊢
    exact before.trans behind
  have total (first second : Finding) :
      (le first second || le second first) = true := by
    rw [Bool.or_eq_true, le_iff_precedes, le_iff_precedes, precedes_iff,
      precedes_iff]
    exact le_total first.place second.place
  exact (List.pairwise_mergeSort transitive total findings).imp
    le_iff_precedes.mp

end Finding

namespace Rule

/-! ## Repeated footnotes -/

/-- The footnotes with the identifier of another one before them, each with the
line of the first one. -/
def repeats (footnotes : List Footnote) : List (Footnote × Nat) :=
  footnotes.zipIdx.filterMap fun entry =>
    ((footnotes.take entry.2).find? (·.id == entry.1.id)).map fun first =>
      (entry.1, first.line)

/-- Behind some footnotes, the identifiers seen are theirs, each with the line of
the first one. -/
theorem repeated_eq {seen : List (Text × Nat)} {before : List Footnote}
    (known : ∀ id, seen.lookup id =
      (before.find? (·.id == id)).map Footnote.line)
    (footnotes : List Footnote) :
    repeated seen footnotes =
      (footnotes.zipIdx before.length).filterMap fun entry =>
        (((before ++ footnotes).take entry.2).find?
          (·.id == entry.1.id)).map fun first => (entry.1, first.line) := by
  induction footnotes generalizing seen before with
  | nil => rfl
  | cons footnote footnotes ih =>
      have split : before ++ footnote :: footnotes =
          (before ++ [footnote]) ++ footnotes := by simp
      have next := @ih seen (before ++ [footnote])
      have length : (before ++ [footnote]).length = before.length + 1 := by simp
      rw [List.zipIdx_cons, List.filterMap_cons, repeated]
      dsimp only
      rw [List.take_left, known]
      cases found : before.find? (·.id == footnote.id) with
      | none =>
          dsimp only [Option.map]
          rw [split, ← length]
          apply ih
          intro id
          rw [List.find?_append]
          by_cases same : id = footnote.id
          · subst same
            simp [found]
          · rw [Entries.lookup_cons_of_ne same, known]
            simp [Ne.symm same]
      | some first =>
          dsimp only [Option.map]
          rw [split, ← length]
          congr 1
          apply ih
          intro id
          rw [List.find?_append, known]
          by_cases same : id = footnote.id
          · subst same
            simp [found]
          · simp [Ne.symm same]

theorem repeated_nil_eq (footnotes : List Footnote) :
    repeated [] footnotes = repeats footnotes :=
  @repeated_eq [] [] (fun _ => rfl) footnotes

end Rule

namespace Linter

/-! ## Broken links -/

/-- Whether the fragment of a link names no anchor of the page that the link
leads to.  Pages outside the workspace are not looked at. -/
def isBroken (workspace : Workspace) (key : Text) (document : Document)
    (link : Link) : Bool :=
  link.fragment.any fun fragment => !fragment.isEmpty &&
    match link.kind with
    | .ambiguousLocal => !document.hasAnchor fragment
    | .crossFile | .absolutePath =>
      (workspace.get? (Path.resolveTarget (Path.normalize key) link.kind
        link.path)).any fun stored => !stored.hasAnchor fragment
    | .external => false

/-- What is reported about a broken link of the document with a key. -/
def brokenLink (key : Text) (link : Link) : Finding :=
  (Rule.fragmentFinding link
    (if link.kind = .ambiguousLocal then []
    else " in '".toList ++ link.path.getD "None".toList ++ "'".toList)).inside
      key

variable (workspace : Workspace) (key : Text) (document : Document)

theorem checkFragments_inside :
    (Rule.checkFragments document).map (Finding.inside key) =
      ((document.links.filter (isBroken workspace key document)).filter
        (·.isLocal)).map (brokenLink key) := by
  unfold Rule.checkFragments
  rw [List.map_map, List.filter_filter]
  have same (link : Link) : Rule.isBrokenLocal document link =
      (link.isLocal && isBroken workspace key document link) := by
    unfold Rule.isBrokenLocal isBroken Link.isLocal
    cases link.kind with
    | ambiguousLocal => rfl
    | _ => rfl
  rw [List.filter_congr fun link _ => same link]
  apply List.map_congr_left
  intro link member
  have isLocal : link.kind = .ambiguousLocal := by
    simpa [Link.isLocal] using (Bool.and_eq_true_iff.mp (List.mem_filter.mp member).2).1
  simp [brokenLink, isLocal]

theorem isBroken_across (link : Link) :
    (!link.isLocal && isBroken workspace key document link) =
      ((link.leavesPage && link.fragment.any fun fragment =>
          !fragment.isEmpty) &&
        (workspace.get? (Path.resolveTarget (Path.normalize key) link.kind
          link.path)).any fun stored =>
            !stored.hasAnchor (link.fragment.getD [])) := by
  unfold isBroken Link.isLocal Link.leavesPage
  cases link.kind with
  | ambiguousLocal => rfl
  | _ => cases link.fragment <;> simp

theorem checkFragmentsAcross_eq :
    Rule.checkFragmentsAcross workspace key document =
      ((document.links.filter (isBroken workspace key document)).filter
        (!·.isLocal)).map (brokenLink key) := by
  unfold Rule.checkFragmentsAcross Workspace.unresolvedLinks
    Document.crossFileLinks
  rw [List.map_filterMap, List.filterMap_filter, List.filter_filter,
    ← List.filterMap_eq_map, List.filterMap_filter]
  apply List.filterMap_congr
  intro link _
  dsimp only
  rw [isBroken_across]
  cases reported : link.leavesPage && link.fragment.any (!·.isEmpty) with
  | false => rfl
  | true =>
      have elsewhere : link.kind ≠ .ambiguousLocal := by
        intro same
        simp [Link.leavesPage, same] at reported
      cases workspace.get? (Path.resolveTarget (Path.normalize key) link.kind
          link.path) with
      | none => rfl
      | some stored =>
          cases resolves : stored.hasAnchor (link.fragment.getD []) <;>
            simp [resolves, brokenLink, elsewhere]

/-! ## What is reported about footnotes -/

/-- What is reported about a repeated definition, with the line of the first
one. -/
def repeatedDefinition (entry : Footnote × Nat) : Finding :=
  (Rule.footnoteFinding document .error entry.1 "definition".toList
    (" (first defined on line ".toList ++ Text.ofNat entry.2
      ++ ")".toList)).inside key

def repeatedReference (entry : Footnote × Nat) : Finding :=
  (Rule.footnoteFinding document .warn entry.1 "reference".toList []).inside key

/-- The repeated footnotes on lines where this is not switched off. -/
def visibleRepeats (footnotes : List Footnote) : List (Footnote × Nat) :=
  (Rule.repeats footnotes).filter fun entry =>
    !document.isDisabledAt Rule.duplicateFootnotes entry.1.line

/-- What is reported about the footnotes of a document under some options. -/
def repeatedFootnotes (options : FootnoteOptions) : List Finding :=
  (if options.checkDefinitions then
    (visibleRepeats document document.footnoteDefs).map
      (repeatedDefinition key document)
  else []) ++
  if options.checkReferences then
    (visibleRepeats document document.footnoteRefs).map
      (repeatedReference key document)
  else []

theorem visible_inside (findings : List Finding) :
    (document.visible findings).map (Finding.inside key) =
      document.visible (findings.map (Finding.inside key)) := by
  unfold Document.visible
  rw [List.filter_map]
  rfl

theorem visible_append (first second : List Finding) :
    document.visible (first ++ second) =
      document.visible first ++ document.visible second :=
  List.filter_append ..

theorem visible_checkFootnotes (options : FootnoteOptions) :
    (document.visible (Rule.checkFootnotes options document)).map
        (Finding.inside key) =
      repeatedFootnotes key document
        (Rule.footnoteOptionsFor document options) := by
  unfold Rule.checkFootnotes repeatedFootnotes
  dsimp only
  rw [visible_append, List.map_append]
  congr 1
  · split
    · rw [visible_inside, Rule.checkDefinitions, List.map_map,
        Rule.repeated_nil_eq]
      exact List.filter_map ..
    · rfl
  · split
    · rw [visible_inside, Rule.checkReferences, List.map_map,
        Rule.repeated_nil_eq]
      exact List.filter_map ..
    · rfl

/-! ## All findings of a document -/

/-- The broken links on lines where this is not switched off. -/
def visibleBroken : List Link :=
  document.links.filter fun link =>
    isBroken workspace key document link &&
      !document.isDisabledAt Rule.linkFragments link.line

theorem visible_brokenLink (links : List Link) :
    document.visible (links.map (brokenLink key)) =
      (links.filter fun link =>
        !document.isDisabledAt Rule.linkFragments link.line).map
          (brokenLink key) :=
  List.filter_map ..

/-- A broken link is found in its own document or across documents, and not by
both searches. -/
theorem broken_perm :
    (document.visible ((Rule.checkFragments document).map
        (Finding.inside key)) ++
      document.visible (Rule.checkFragmentsAcross workspace key document)).Perm
    ((visibleBroken workspace key document).map (brokenLink key)) := by
  rw [checkFragments_inside workspace, checkFragmentsAcross_eq,
    visible_brokenLink, visible_brokenLink, ← List.map_append,
    ← List.filter_append]
  have whole : visibleBroken workspace key document =
      (document.links.filter (isBroken workspace key document)).filter
        fun link => !document.isDisabledAt Rule.linkFragments link.line := by
    rw [List.filter_filter]
    exact List.filter_congr fun link _ => Bool.and_comm ..
  rw [whole]
  apply List.Perm.map
  apply List.Perm.filter
  exact List.filter_append_perm Link.isLocal _

/-- The linter with both rules that looks across documents. -/
def full (options : FootnoteOptions) : Linter :=
  { rules := { linkFragments := true, footnotes := some options }
    crossFile := true
    workspace := workspace }

theorem findings_perm (options : FootnoteOptions) :
    ((full workspace options).findings key document).Perm
      ((visibleBroken workspace key document).map (brokenLink key) ++
        repeatedFootnotes key document
          (Rule.footnoteOptionsFor document options)) := by
  have inDocument : ((document.lint (full workspace options).rules).map
      (Finding.inside key)).Perm
        (document.visible ((Rule.checkFragments document).map
            (Finding.inside key)) ++
          repeatedFootnotes key document
            (Rule.footnoteOptionsFor document options)) := by
    rw [← visible_checkFootnotes, ← visible_inside, ← List.map_append,
      ← visible_append]
    exact (List.mergeSort_perm _ _).map _
  refine (List.mergeSort_perm _ _).trans ((inDocument.append_right _).trans ?_)
  refine List.Perm.trans ?_ ((broken_perm workspace key document).append_right _)
  rw [List.append_assoc, List.append_assoc]
  exact List.perm_append_comm.append_left _

theorem rule_of_mem_repeatedFootnotes {options : FootnoteOptions}
    {finding : Finding}
    (member : finding ∈ repeatedFootnotes key document options) :
    finding.rule = Rule.duplicateFootnotes := by
  rcases List.mem_append.mp member with definition | reference
  · split at definition
    · obtain ⟨entry, -, rfl⟩ := List.mem_map.mp definition
      rfl
    · cases definition
  · split at reference
    · obtain ⟨entry, -, rfl⟩ := List.mem_map.mp reference
      rfl
    · cases reference

theorem filter_rule {findings : List Finding} {rule : Text}
    (same : ∀ finding ∈ findings, finding.rule = rule) (wanted : Text) :
    findings.filter (·.rule == wanted) =
      if rule = wanted then findings else [] := by
  split
  · rename_i equal
    apply List.filter_eq_self.mpr
    intro finding member
    simp [same finding member, equal]
  · rename_i different
    apply List.filter_eq_nil_iff.mpr
    intro finding member
    simp [same finding member, different]

/-- A check of a document with both rules reports its broken links, wherever
they lead in the workspace, and its repeated footnotes, as far as the options for
the document ask for them: each of them once, none on a line where its rule is
switched off, and all in the order of their places. -/
theorem check_reports_defects (options : FootnoteOptions)
    (held : workspace.get? key = some (.indexed document)) :
    ∃ findings : List Finding,
      (full workspace options).check [key] =
        .ok [(key, findings.map Finding.report)] ∧
      findings.Pairwise Finding.Precedes ∧
      (∀ finding ∈ findings, finding.rule = Rule.linkFragments ∨
        finding.rule = Rule.duplicateFootnotes) ∧
      (findings.filter (·.rule == Rule.linkFragments)).Perm
        ((visibleBroken workspace key document).map (brokenLink key)) ∧
      (findings.filter (·.rule == Rule.duplicateFootnotes)).Perm
        (repeatedFootnotes key document
          (Rule.footnoteOptionsFor document options)) := by
  have perm := findings_perm workspace key document options
  generalize footnotes : repeatedFootnotes key document
    (Rule.footnoteOptionsFor document options) = repeated at perm ⊢
  generalize links : (visibleBroken workspace key document).map
    (brokenLink key) = broken at perm ⊢
  have ruleOfBroken : ∀ finding ∈ broken, finding.rule = Rule.linkFragments := by
    intro finding member
    obtain ⟨link, -, rfl⟩ := List.mem_map.mp (links ▸ member)
    rfl
  have ruleOfRepeated : ∀ finding ∈ repeated,
      finding.rule = Rule.duplicateFootnotes := by
    intro finding member
    exact rule_of_mem_repeatedFootnotes key document (footnotes ▸ member)
  refine ⟨(full workspace options).findings key document, ?_,
    Finding.pairwise_sort _, ?_, ?_, ?_⟩
  · rw [check_singleton, checkAt]
    simp only [full, held, reports]
    rfl
  · intro finding member
    rcases List.mem_append.mp (perm.mem_iff.mp member) with inBroken | inRepeated
    · exact .inl (ruleOfBroken finding inBroken)
    · exact .inr (ruleOfRepeated finding inRepeated)
  · have part := perm.filter (·.rule == Rule.linkFragments)
    rwa [List.filter_append, filter_rule ruleOfBroken,
      filter_rule ruleOfRepeated, if_pos rfl, if_neg (by decide),
      List.append_nil] at part
  · have part := perm.filter (·.rule == Rule.duplicateFootnotes)
    rwa [List.filter_append, filter_rule ruleOfBroken,
      filter_rule ruleOfRepeated, if_neg (by decide), if_pos rfl,
      List.nil_append] at part

/-- A page with two broken links and a footnote that is defined twice. -/
def defectiveText : Text :=
  "[away](b.md#gone)\n[here](#gone)\n\n[^n]: one\n[^n]: two\n".toList

def defectivePages (document other : Document) : Workspace :=
  ((({ dialect := .github } : Workspace).insert "b.md".toList
    (.indexed other)).insert "a.md".toList (.indexed document))

theorem check_reports_defects_twoPages :
    ∃ (document other : Document) (findings : List Finding),
      Document.index .github defectiveText = .ok document ∧
      Document.index .github "# B\n".toList = .ok other ∧
      (defectivePages document other).get? "a.md".toList =
        some (.indexed document) ∧
      (full (defectivePages document other) {}).check ["a.md".toList] =
        .ok [("a.md".toList, findings.map Finding.report)] ∧
      (findings.filter (·.rule == Rule.linkFragments)).length = 2 ∧
      (findings.filter (·.rule == Rule.duplicateFootnotes)).length = 1 := by
  have counts : (Document.index .github defectiveText).toOption.any
      (fun document => (Document.index .github "# B\n".toList).toOption.any
        fun other =>
          (visibleBroken (defectivePages document other) "a.md".toList
            document).length == 2 &&
          (repeatedFootnotes "a.md".toList document
            (Rule.footnoteOptionsFor document {})).length == 1) = true := by
    decide +kernel
  obtain ⟨document, indexed, rest⟩ := (Option.any_eq_true _ _).mp counts
  obtain ⟨other, indexedOther, lengths⟩ := (Option.any_eq_true _ _).mp rest
  rw [Bool.and_eq_true, beq_iff_eq, beq_iff_eq] at lengths
  have held : (defectivePages document other).get? "a.md".toList =
      some (.indexed document) := by
    rw [defectivePages, Workspace.get?_insert, if_pos rfl]
  obtain ⟨findings, checked, -, -, links, footnotes⟩ :=
    check_reports_defects _ _ document {} held
  refine ⟨document, other, findings, Outcome.toOption_eq_some.mp indexed,
    Outcome.toOption_eq_some.mp indexedOther, held, checked, ?_, ?_⟩
  · rw [links.length_eq, List.length_map, lengths.1]
  · rw [footnotes.length_eq, lengths.2]

end Linter

end AnchorLint
