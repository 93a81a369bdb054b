import AnchorLint.Proofs.Lint.Incremental
import AnchorLint.Proofs.Workspace.Kept

/-!
# Linting on top of a kept workspace

A run that begins with a kept workspace indexes only what has changed since.
What it then holds for a document that it lints stands for the text of this
document, and what it holds for all others is what was kept.  So its findings are
those of a run that begins with nothing, but for links to documents that were
kept though the run does not lint them.
-/

namespace AnchorLint

namespace Linter

variable {dialect : Dialect} {texts : Set Text} {workspace : Workspace}

/-! ## Indexing what has changed -/

theorem standsFor_of_current (kept : workspace.IsKept dialect texts)
    (injective : Set.InjOn Digest.ofText texts) {path text : Text}
    (inTexts : text ∈ texts)
    (current : workspace.isStale path (Digest.ofText text) = false) :
    ∃ stored, workspace.get? path = some stored ∧
      stored.StandsFor dialect text := by
  simp only [Workspace.isStale, Bool.not_eq_false',
    Option.any_eq_true] at current
  obtain ⟨stored, held, hasDigest⟩ := current
  obtain ⟨known, inKnown, standsFor⟩ := kept.get? held
  rw [standsFor.hasDigest] at hasDigest
  obtain rfl := injective inKnown inTexts (eq_of_beq hasDigest)
  exact ⟨stored, held, standsFor⟩

theorem eq_of_current (kept : workspace.IsKept dialect texts)
    (injective : Set.InjOn Digest.ofText texts) {path first second : Text}
    (firstInTexts : first ∈ texts) (secondInTexts : second ∈ texts)
    (firstCurrent : workspace.isStale path (Digest.ofText first) = false)
    (secondCurrent : workspace.isStale path (Digest.ofText second) = false) :
    first = second := by
  obtain ⟨stored, held, standsFor⟩ :=
    standsFor_of_current kept injective firstInTexts firstCurrent
  obtain ⟨other, heldOther, standsForOther⟩ :=
    standsFor_of_current kept injective secondInTexts secondCurrent
  obtain rfl := Option.some.inj (held.symm.trans heldOther)
  refine injective firstInTexts secondInTexts ?_
  have digest := standsForOther.hasDigest (Digest.ofText first)
  rw [standsFor.hasDigest, beq_self_eq_true] at digest
  exact (eq_of_beq digest.symm).symm

/-- Indexing succeeds exactly if all texts can be indexed, whatever was kept, and
fails as it does for the texts alone. -/
theorem indexAll_eq (kept : workspace.IsKept dialect texts)
    (injective : Set.InjOn Digest.ofText texts) {sources : Entries Text Text}
    (inTexts : ∀ entry ∈ sources, entry.2 ∈ texts) :
    indexAll workspace sources =
      (sources.mapM fun entry => Document.index dialect entry.2).map
        fun _ => sources.map fun entry =>
          (Path.normalize entry.1, renewal workspace entry) := by
  unfold indexAll
  induction sources with
  | nil => rfl
  | cons entry sources ih =>
      obtain ⟨inTextsHere, inTextsLater⟩ := List.forall_mem_cons.mp inTexts
      have single : indexIfStale workspace (Path.normalize entry.1) entry.2 =
          (Document.index dialect entry.2).map
            fun _ => renewal workspace entry := by
        unfold indexIfStale renewal
        split
        · rw [kept.sameDialect]
          cases Document.index dialect entry.2 <;> rfl
        · rename_i current
          obtain ⟨stored, -, document, original, -, -, indexed, -⟩ :=
            standsFor_of_current kept injective inTextsHere
              (Bool.eq_false_iff.mpr current)
          rw [indexed]
          rfl
      rw [List.mapM_cons, List.mapM_cons, ih inTextsLater]
      simp only [single]
      cases Document.index dialect entry.2 with
      | error error => rfl
      | ok document =>
          cases sources.mapM fun entry => Document.index dialect entry.2 <;>
            rfl

/-- Whether no text that is up to date comes behind one for the same key that is
not.  What is up to date is found out before anything is put in, so such a text
would not take the place of the earlier one. -/
def IsUnmasked (workspace : Workspace) (sources : Entries Text Text) : Prop :=
  let isCurrent (entry : Text × Text) : Prop :=
    workspace.isStale (Path.normalize entry.1) (Digest.ofText entry.2) = false
  sources.Pairwise fun earlier later =>
    Path.normalize earlier.1 = Path.normalize later.1 →
      isCurrent later → isCurrent earlier

/-- What a workspace holds once some texts have been indexed on top of another
one: what stands for the latest texts, and everything else as before. -/
structure Refreshes (dialect : Dialect) (start : Workspace)
    (latest : Entries Text Text) (workspace : Workspace) : Prop where
  standsFor : ∀ {path text},
    latest.lookup (Path.normalize path) = some text →
      ∃ stored, workspace.get? path = some stored ∧
        stored.StandsFor dialect text
  untouched : ∀ {path}, latest.lookup (Path.normalize path) = none →
    workspace.get? path = start.get? path

theorem exists_of_lookup_overlay {sources : Entries Text Text}
    {key text : Text} (found : (overlay [] sources).lookup key = some text) :
    ∃ entry ∈ sources, Path.normalize entry.1 = key ∧ entry.2 = text := by
  induction sources using List.reverseRecOn with
  | nil => simp [overlay] at found
  | append_singleton sources entry ih =>
      rw [overlay_concat] at found
      by_cases same : key = Path.normalize entry.1
      · rw [same, Entries.lookup_put_self] at found
        exact ⟨entry, by simp, same.symm, Option.some.inj found⟩
      · rw [Entries.lookup_put_of_ne _ same] at found
        obtain ⟨earlier, member, equal⟩ := ih found
        exact ⟨earlier, List.mem_append_left _ member, equal⟩

/-- One more text is indexed, or it is up to date and has not been touched. -/
theorem Refreshes.store {start : Workspace} {latest : Entries Text Text}
    (refreshes : Refreshes dialect start latest workspace)
    {entry : Text × Text} {document : Document}
    (indexed : Document.index dialect entry.2 = .ok document)
    (held : renewal start entry = none →
      ∃ stored, workspace.get? (Path.normalize entry.1) = some stored ∧
        stored.StandsFor dialect entry.2)
    (sameDialect : start.dialect = dialect) :
    Refreshes dialect start (latest.put (Path.normalize entry.1) entry.2)
      (store workspace (Path.normalize entry.1, renewal start entry)) := by
  have holds (path : Text) (same : Path.normalize path = Path.normalize entry.1) :
      ∃ stored, (Linter.store workspace
          (Path.normalize entry.1, renewal start entry)).get? path =
            some stored ∧ stored.StandsFor dialect entry.2 := by
    cases renewed : renewal start entry with
    | none =>
        obtain ⟨stored, here, standsFor⟩ := held renewed
        refine ⟨stored, ?_, standsFor⟩
        rw [← here]
        simp only [Linter.store, Workspace.get?, same,
          Path.normalize_normalize]
    | some other =>
        have equal : document = other := by
          unfold renewal at renewed
          split at renewed
          · rw [sameDialect, indexed] at renewed
            exact Option.some.inj renewed
          · cases renewed
        subst equal
        refine ⟨.indexed document, ?_, Stored.standsFor_of_index indexed⟩
        rw [Linter.store, Workspace.get?_insert,
          if_pos (by rw [same, Path.normalize_normalize])]
  have keeps (path : Text) (other : Path.normalize path ≠ Path.normalize entry.1) :
      (Linter.store workspace
        (Path.normalize entry.1, renewal start entry)).get? path =
          workspace.get? path := by
    cases renewal start entry with
    | none => rfl
    | some document =>
        rw [Linter.store, Workspace.get?_insert,
          if_neg (by rwa [Path.normalize_normalize])]
  constructor
  · intro path text found
    by_cases same : Path.normalize path = Path.normalize entry.1
    · rw [same, Entries.lookup_put_self] at found
      obtain rfl := Option.some.inj found
      exact holds path same
    · rw [Entries.lookup_put_of_ne _ same] at found
      rw [keeps path same]
      exact refreshes.standsFor found
  · intro path missing
    have other : Path.normalize path ≠ Path.normalize entry.1 := by
      intro same
      rw [same, Entries.lookup_put_self] at missing
      cases missing
    rw [Entries.lookup_put_of_ne _ other] at missing
    rw [keeps path other]
    exact refreshes.untouched missing

theorem refreshes_foldl_store (kept : workspace.IsKept dialect texts)
    (injective : Set.InjOn Digest.ofText texts) {sources : Entries Text Text}
    (inTexts : ∀ entry ∈ sources, entry.2 ∈ texts)
    (possible : ∀ entry ∈ sources, Document.CanIndex dialect entry.2)
    (unmasked : IsUnmasked workspace sources) :
    Refreshes dialect workspace (overlay [] sources)
      ((sources.map fun entry =>
        (Path.normalize entry.1, renewal workspace entry)).foldl store
          workspace) := by
  induction sources using List.reverseRecOn with
  | nil => exact ⟨by simp [overlay], fun _ => rfl⟩
  | append_singleton sources entry ih =>
      obtain ⟨unmaskedBefore, -, unmaskedHere⟩ :=
        List.pairwise_append.mp unmasked
      have before := ih
        (fun other member => inTexts other (List.mem_append_left _ member))
        (fun other member => possible other (List.mem_append_left _ member))
        unmaskedBefore
      have last : entry ∈ sources ++ [entry] := by simp
      obtain ⟨document, indexed⟩ := possible entry last
      rw [overlay_concat, List.map_append, List.foldl_append]
      refine before.store indexed (fun renewed => ?_) kept.sameDialect
      have current : workspace.isStale (Path.normalize entry.1)
          (Digest.ofText entry.2) = false := by
        rw [Bool.eq_false_iff]
        intro stale
        simp [renewal, stale, kept.sameDialect, indexed,
          Except.toOption] at renewed
      obtain ⟨stored, held, standsFor⟩ := standsFor_of_current kept injective
        (inTexts entry last) current
      cases found : (overlay [] sources).lookup
          (Path.normalize (Path.normalize entry.1)) with
      | none => exact ⟨stored, (before.untouched found).trans held, standsFor⟩
      | some text =>
          -- An earlier text for the key is up to date too, so it is the same.
          obtain ⟨earlier, member, sameKey, rfl⟩ :=
            exists_of_lookup_overlay found
          rw [Path.normalize_normalize] at sameKey
          have currentEarlier : workspace.isStale (Path.normalize earlier.1)
              (Digest.ofText earlier.2) = false :=
            unmaskedHere earlier member entry (by simp) sameKey current
          rw [sameKey] at currentEarlier
          have sameText : earlier.2 = entry.2 := eq_of_current kept injective
            (inTexts earlier (List.mem_append_left _ member))
            (inTexts entry last) currentEarlier current
          rw [← sameText]
          exact before.standsFor found

theorem isKept_foldl_store {start : Workspace}
    (kept : workspace.IsKept dialect texts) (sameDialect : start.dialect = dialect)
    {sources : Entries Text Text} (inTexts : ∀ entry ∈ sources, entry.2 ∈ texts) :
    ((sources.map fun entry =>
      (Path.normalize entry.1, renewal start entry)).foldl store
        workspace).IsKept dialect texts := by
  induction sources generalizing workspace with
  | nil => exact kept
  | cons entry sources ih =>
      obtain ⟨inTextsHere, inTextsLater⟩ := List.forall_mem_cons.mp inTexts
      refine ih ?_ inTextsLater
      dsimp only
      cases renewed : renewal start entry with
      | none => exact kept
      | some document =>
          refine kept.insert _ ⟨entry.2, inTextsHere,
            Stored.standsFor_of_index ?_⟩
          unfold renewal at renewed
          split at renewed
          · rw [sameDialect] at renewed
            exact Outcome.toOption_eq_some.mp renewed
          · cases renewed

/-- The linter once those of some texts have been indexed that have changed. -/
def refreshed (linter : Linter) (sources : Entries Text Text) : Linter :=
  linter.within ((sources.map fun entry =>
    (Path.normalize entry.1, renewal linter.workspace entry)).foldl store
      linter.workspace)

/-- Linting succeeds exactly if all texts can be indexed, and indexes what has
changed. -/
theorem lint_eq {linter : Linter}
    (kept : linter.workspace.IsKept dialect texts)
    (injective : Set.InjOn Digest.ofText texts) {sources : Entries Text Text}
    (inTexts : ∀ entry ∈ sources, entry.2 ∈ texts) :
    linter.lint sources =
      (sources.mapM fun entry => Document.index dialect entry.2).map fun _ =>
        ((linter.refreshed sources).check
          (sources.map fun entry => Path.normalize entry.1),
          linter.refreshed sources) := by
  rw [lint, index, indexAll_eq kept injective inTexts]
  cases sources.mapM fun entry => Document.index dialect entry.2 with
  | error error => rfl
  | ok documents =>
      simp only [Except.map, bind, Except.bind, pure, Except.pure,
        List.map_map]
      rfl

/-! ## Links to documents that are not linted -/

/-- The document that a link of the document with a key leads to. -/
def targetOf (key : Text) (link : Link) : Text :=
  Path.resolveTarget (Path.normalize key) link.kind link.path

/-- Whether a link is reported only because a document was kept that is not
linted now, and in which its fragment does not resolve. -/
structure IsStray (kept : Workspace) (latest : Entries Text Text) (key : Text)
    (document : Document) (link : Link) : Prop where
  inDocument : link ∈ document.crossFileLinks
  visible : document.isDisabledAt Rule.linkFragments link.line = false
  notLinted : latest.lookup (Path.normalize (targetOf key link)) = none
  broken : ∃ stored, kept.get? (targetOf key link) = some stored ∧
    stored.hasAnchor (link.fragment.getD []) = false

/-- What is reported about a link to another document. -/
def findingAcross? (workspace : Workspace) (key : Text) (document : Document)
    (link : Link) : Option Finding :=
  if document.isDisabledAt Rule.linkFragments link.line then none
  else
    match workspace.get? (targetOf key link) with
    | none => none
    | some stored =>
      if stored.hasAnchor (link.fragment.getD []) then none
      else
        some ((Rule.fragmentFinding link
          (" in '".toList ++ link.path.getD "None".toList
            ++ "'".toList)).inside key)

theorem visible_checkFragmentsAcross (workspace : Workspace) (key : Text)
    (document : Document) :
    document.visible (Rule.checkFragmentsAcross workspace key document) =
      document.crossFileLinks.filterMap
        (findingAcross? workspace key document) := by
  unfold Document.visible Rule.checkFragmentsAcross Workspace.unresolvedLinks
  dsimp only
  rw [List.map_filterMap, List.filter_filterMap]
  refine List.filterMap_congr fun link _ => ?_
  unfold findingAcross? targetOf
  cases workspace.get?
      (Path.resolveTarget (Path.normalize key) link.kind link.path) with
  | none => simp
  | some stored =>
      dsimp only
      by_cases resolves : stored.hasAnchor (link.fragment.getD []) = true
      · simp [resolves]
      · -- The finding names the rule and the line of its link.
        rw [if_neg resolves, if_neg resolves, Option.map_some]
        cases disabled : document.isDisabledAt Rule.linkFragments link.line with
        | true =>
            rw [if_pos rfl]
            exact Option.filter_some_neg (congrArg not disabled)
        | false =>
            rw [if_neg Bool.false_ne_true]
            exact Option.filter_some_pos (congrArg not disabled)

/-- A list of fewer findings is as long as one of more only if nothing is
missing. -/
theorem length_filterMap_eq_iff {α β : Type} {items : List α}
    {fewer more : α → Option β}
    (below : ∀ item ∈ items, fewer item = none ∨ fewer item = more item) :
    (items.filterMap fewer).length ≤ (items.filterMap more).length ∧
      ((items.filterMap fewer).length = (items.filterMap more).length →
        ∀ item ∈ items, fewer item = more item) := by
  induction items with
  | nil => simp
  | cons item items ih =>
      obtain ⟨here, later⟩ := List.forall_mem_cons.mp below
      obtain ⟨le, same⟩ := ih later
      rw [List.filterMap_cons, List.filterMap_cons]
      rcases here with missing | equal
      · rw [missing]
        cases found : more item with
        | none =>
            exact ⟨le, fun length => List.forall_mem_cons.mpr
              ⟨missing.trans found.symm, same length⟩⟩
        | some finding =>
            simp only [List.length_cons]
            exact ⟨by omega, fun length => absurd length (by omega)⟩
      · rw [equal]
        cases found : more item with
        | none =>
            exact ⟨le, fun length => List.forall_mem_cons.mpr
              ⟨equal, same length⟩⟩
        | some finding =>
            simp only [List.length_cons]
            exact ⟨by omega, fun length => List.forall_mem_cons.mpr
              ⟨equal, same (by omega)⟩⟩

/-! ## Findings with and without what was kept -/

theorem findings_alike (linter : Linter) (key : Text)
    {document original : Document} (alike : document.Alike original) :
    linter.findings key document = linter.findings key original := by
  have across :
      Rule.checkFragmentsAcross linter.workspace key document =
        Rule.checkFragmentsAcross linter.workspace key original := by
    simp only [Rule.checkFragmentsAcross, Workspace.unresolvedLinks,
      alike.crossFileLinks]
  simp only [findings, alike.lint, alike.visible, across]

theorem checkAt_of_standsFor {linter : Linter} {key text : Text}
    {stored : Stored} {original : Document}
    (held : linter.workspace.get? key = some stored)
    (standsFor : stored.StandsFor dialect text)
    (indexed : Document.index dialect text = .ok original) :
    linter.checkAt key =
      .ok (some ((linter.findings key original).map Finding.report)) := by
  obtain ⟨document, other, rfl, -, indexedOther, alike⟩ := standsFor
  obtain rfl := Except.ok.inj (indexed.symm.trans indexedOther)
  simp only [checkAt, held, reports, linter.findings_alike key alike]
  rfl

theorem hasAnchor_of_standsFor {first second : Stored} {text : Text}
    (left : first.StandsFor dialect text)
    (right : second.StandsFor dialect text) (fragment : Text) :
    first.hasAnchor fragment = second.hasAnchor fragment := by
  obtain ⟨document, original, rfl, -, indexed, alike⟩ := left
  obtain ⟨other, originalOther, rfl, -, indexedOther, alikeOther⟩ := right
  obtain rfl := Except.ok.inj (indexed.symm.trans indexedOther)
  rw [Stored.hasAnchor, Stored.hasAnchor, alike.hasAnchor, alikeOther.hasAnchor]

section

variable {kept plain refreshed : Workspace} {latest : Entries Text Text}

/-- A link gives the same finding with and without what was kept, or none
without it. -/
theorem findingAcross?_cases
    (fromNothing : Refreshes dialect { dialect := dialect } latest plain)
    (fromKept : Refreshes dialect kept latest refreshed) (key : Text)
    {document : Document} {link : Link}
    (inDocument : link ∈ document.crossFileLinks) :
    findingAcross? plain key document link =
        findingAcross? refreshed key document link ∨
      (findingAcross? plain key document link = none ∧
        IsStray kept latest key document link) := by
  cases found : latest.lookup (Path.normalize (targetOf key link)) with
  | some text =>
      obtain ⟨first, heldFirst, left⟩ := fromNothing.standsFor found
      obtain ⟨second, heldSecond, right⟩ := fromKept.standsFor found
      left
      simp only [findingAcross?, heldFirst, heldSecond,
        hasAnchor_of_standsFor left right]
  | none =>
      have nothing : plain.get? (targetOf key link) = none :=
        fromNothing.untouched found
      have untouched := fromKept.untouched found
      have without : findingAcross? plain key document link = none := by
        simp [findingAcross?, nothing]
      cases reported : findingAcross? refreshed key document link with
      | none => exact .inl without
      | some finding =>
          rw [findingAcross?, untouched] at reported
          split at reported
          · cases reported
          · rename_i visible
            split at reported
            · cases reported
            · rename_i stored held
              split at reported
              · cases reported
              · rename_i broken
                exact .inr ⟨without, inDocument, Bool.eq_false_iff.mpr visible,
                  found, stored, held, Bool.eq_false_iff.mpr broken⟩

theorem findingAcross?_of_isStray
    (fromNothing : Refreshes dialect { dialect := dialect } latest plain)
    (fromKept : Refreshes dialect kept latest refreshed) {key : Text}
    {document : Document} {link : Link}
    (stray : IsStray kept latest key document link) :
    findingAcross? plain key document link ≠
      findingAcross? refreshed key document link := by
  obtain ⟨stored, held, broken⟩ := stray.broken
  have nothing : plain.get? (targetOf key link) = none :=
    fromNothing.untouched stray.notLinted
  have untouched := fromKept.untouched stray.notLinted
  simp [findingAcross?, nothing, untouched, held, broken, stray.visible]

/-- The findings in a document are the same with and without what was kept
exactly if none of its links is stray. -/
theorem findings_eq_iff (rules : RuleSet) (crossFile : Bool)
    (fromNothing : Refreshes dialect { dialect := dialect } latest plain)
    (fromKept : Refreshes dialect kept latest refreshed) (key : Text)
    (document : Document) :
    ((⟨rules, crossFile, refreshed⟩ : Linter).findings key document).map
        Finding.report =
      ((⟨rules, crossFile, plain⟩ : Linter).findings key document).map
        Finding.report ↔
    (crossFile = true → rules.linkFragments = true →
      ∀ link, ¬ IsStray kept latest key document link) := by
  cases crossFile with
  | false => simp [findings]
  | true =>
      cases on : rules.linkFragments with
      | false => simp [findings, on]
      | true =>
          simp only [findings, on, if_true, visible_checkFragmentsAcross,
            forall_const]
          constructor
          · intro equal link stray
            have lengths := congrArg List.length equal
            simp only [Finding.sort, List.length_map, List.length_mergeSort,
              List.length_append] at lengths
            have below : ∀ link ∈ document.crossFileLinks,
                findingAcross? plain key document link = none ∨
                  findingAcross? plain key document link =
                    findingAcross? refreshed key document link := by
              intro other member
              rcases findingAcross?_cases fromNothing fromKept key member with
                same | ⟨missing, -⟩
              · exact .inr same
              · exact .inl missing
            exact findingAcross?_of_isStray fromNothing fromKept stray
              ((length_filterMap_eq_iff below).2 (by omega) link
                stray.inDocument)
          · intro noStray
            have same : document.crossFileLinks.filterMap
                  (findingAcross? refreshed key document) =
                document.crossFileLinks.filterMap
                  (findingAcross? plain key document) := by
              refine List.filterMap_congr fun link member => ?_
              rcases findingAcross?_cases fromNothing fromKept key member with
                same | ⟨-, stray⟩
              · exact same.symm
              · exact absurd stray (noStray link)
            rw [same]

end

/-! ## Linting with and without what was kept -/

/-- Whether a link of some document that is linted is stray. -/
def HasStray (dialect : Dialect) (rules : RuleSet) (crossFile : Bool)
    (kept : Workspace) (latest : Entries Text Text) : Prop :=
  crossFile = true ∧ rules.linkFragments = true ∧
    ∃ key text document link, latest.lookup key = some text ∧
      Document.index dialect text = .ok document ∧
        IsStray kept latest key document link

theorem isUnmasked_empty (dialect : Dialect) (sources : Entries Text Text) :
    IsUnmasked { dialect := dialect } sources := by
  refine List.pairwise_of_forall fun earlier later _ current => ?_
  simp [Workspace.isStale, Workspace.get?] at current

theorem isUnmasked_of_nodup (workspace : Workspace) {sources : Entries Text Text}
    (distinct : (sources.map fun entry => Path.normalize entry.1).Nodup) :
    IsUnmasked workspace sources := by
  refine (List.pairwise_map.mp distinct).imp fun {earlier later} different => ?_
  exact fun same => absurd same different

theorem exists_lookup_overlay {sources : Entries Text Text} {key : Text}
    (member : key ∈ sources.map fun entry => Path.normalize entry.1) :
    ∃ text, (overlay [] sources).lookup key = some text := by
  induction sources using List.reverseRecOn with
  | nil => simp at member
  | append_singleton sources entry ih =>
      rw [overlay_concat]
      by_cases same : key = Path.normalize entry.1
      · exact ⟨entry.2, by rw [same, Entries.lookup_put_self]⟩
      · rw [Entries.lookup_put_of_ne _ same]
        simp only [List.map_append, List.mem_append, List.map_cons,
          List.map_nil, List.mem_singleton, same, or_false] at member
        exact ih member

theorem isKept_of_lint {linter after : Linter}
    {results : Except Mismatch LintResults}
    (kept : linter.workspace.IsKept dialect texts)
    (injective : Set.InjOn Digest.ofText texts) {sources : Entries Text Text}
    (inTexts : ∀ entry ∈ sources, entry.2 ∈ texts)
    (linted : linter.lint sources = .ok (results, after)) :
    after.workspace.IsKept dialect texts := by
  rw [lint_eq kept injective inTexts] at linted
  obtain ⟨documents, -, equal⟩ := Outcome.map_eq_ok.mp linted
  obtain ⟨-, rfl⟩ := Prod.mk.inj equal
  exact isKept_foldl_store kept kept.sameDialect inTexts

/-- A refreshed workspace is checked as the index of each latest text says. -/
theorem checkAt_of_refreshes (rules : RuleSet) (crossFile : Bool)
    {start refreshed : Workspace} {latest : Entries Text Text}
    (refreshes : Refreshes dialect start latest refreshed) {key text : Text}
    (normalized : Path.normalize key = key)
    (found : latest.lookup key = some text) {original : Document}
    (indexed : Document.index dialect text = .ok original) :
    (⟨rules, crossFile, refreshed⟩ : Linter).checkAt key = .ok (some
      (((⟨rules, crossFile, refreshed⟩ : Linter).findings key original).map
        Finding.report)) := by
  rw [← normalized] at found
  obtain ⟨stored, held, standsFor⟩ := refreshes.standsFor found
  exact checkAt_of_standsFor held standsFor indexed

/-- The key of a source has a latest text, and this text has an index. -/
theorem exists_latest {sources : Entries Text Text}
    (possible : ∀ entry ∈ sources, Document.CanIndex dialect entry.2)
    {key : Text} (member : key ∈ sources.map fun entry =>
      Path.normalize entry.1) :
    Path.normalize key = key ∧ ∃ text original,
      (overlay [] sources).lookup key = some text ∧
        Document.index dialect text = .ok original := by
  obtain ⟨text, found⟩ := exists_lookup_overlay member
  obtain ⟨entry, inSources, rfl, rfl⟩ := exists_of_lookup_overlay found
  obtain ⟨original, indexed⟩ := possible entry inSources
  exact ⟨Path.normalize_normalize entry.1, entry.2, original, found, indexed⟩

/-- Checks of the texts that have been indexed succeed, and agree exactly if no
link is stray. -/
theorem check_eq_iff (rules : RuleSet) (crossFile : Bool)
    {kept plain refreshed : Workspace} {sources : Entries Text Text}
    (possible : ∀ entry ∈ sources, Document.CanIndex dialect entry.2)
    (fromNothing :
      Refreshes dialect { dialect := dialect } (overlay [] sources) plain)
    (fromKept : Refreshes dialect kept (overlay [] sources) refreshed) :
    let keys := sources.map fun entry => Path.normalize entry.1
    ∃ results other,
      (⟨rules, crossFile, plain⟩ : Linter).check keys = .ok results ∧
      (⟨rules, crossFile, refreshed⟩ : Linter).check keys = .ok other ∧
      (other = results ↔
        ¬ HasStray dialect rules crossFile kept (overlay [] sources)) := by
  intro keys
  have succeeds {start workspace : Workspace}
      (refreshes : Refreshes dialect start (overlay [] sources) workspace) :
      ∃ results,
        (⟨rules, crossFile, workspace⟩ : Linter).check keys = .ok results := by
    refine exists_check fun key member => ?_
    obtain ⟨normalized, text, original, found, indexed⟩ :=
      exists_latest possible member
    exact ⟨_, checkAt_of_refreshes rules crossFile refreshes normalized found
      indexed⟩
  have checkAt_eq_iff {key text : Text} {original : Document}
      (normalized : Path.normalize key = key)
      (found : (overlay [] sources).lookup key = some text)
      (indexed : Document.index dialect text = .ok original) :
      (⟨rules, crossFile, refreshed⟩ : Linter).checkAt key =
          (⟨rules, crossFile, plain⟩ : Linter).checkAt key ↔
        (crossFile = true → rules.linkFragments = true →
          ∀ link, ¬ IsStray kept (overlay [] sources) key original link) := by
    rw [checkAt_of_refreshes rules crossFile fromKept normalized found indexed,
      checkAt_of_refreshes rules crossFile fromNothing normalized found indexed,
      Except.ok.injEq, Option.some.injEq]
    exact findings_eq_iff rules crossFile fromNothing fromKept key original
  obtain ⟨results, checked⟩ := succeeds fromNothing
  obtain ⟨other, checkedOther⟩ := succeeds fromKept
  refine ⟨results, other, checked, checkedOther, ?_⟩
  rw [results_eq_iff checked checkedOther]
  constructor
  · rintro same
      ⟨crossFileOn, rulesOn, key, text, document, link, found, indexed, stray⟩
    obtain ⟨entry, inSources, rfl, -⟩ := exists_of_lookup_overlay found
    exact (checkAt_eq_iff (Path.normalize_normalize entry.1) found indexed).mp
      (same _ (List.mem_map_of_mem inSources)) crossFileOn rulesOn link stray
  · intro noStray key member
    obtain ⟨normalized, text, original, found, indexed⟩ :=
      exists_latest possible member
    refine (checkAt_eq_iff normalized found indexed).mpr ?_
    intro crossFileOn rulesOn link stray
    exact noStray ⟨crossFileOn, rulesOn, key, text, original, link, found,
      indexed, stray⟩

/-- Linting on top of a kept workspace fails as it does without it, or both
succeed, and then the results agree exactly if no link is stray. -/
theorem lint_eq_iff (rules : RuleSet) (crossFile : Bool)
    (kept : workspace.IsKept dialect texts)
    (injective : Set.InjOn Digest.ofText texts) {sources : Entries Text Text}
    (inTexts : ∀ entry ∈ sources, entry.2 ∈ texts)
    (unmasked : IsUnmasked workspace sources) :
    (∃ error,
      (fresh rules crossFile dialect).lint sources = .error error ∧
      (⟨rules, crossFile, workspace⟩ : Linter).lint sources = .error error) ∨
    ∃ results other after afterOther,
      (fresh rules crossFile dialect).lint sources =
        .ok (.ok results, after) ∧
      (⟨rules, crossFile, workspace⟩ : Linter).lint sources =
        .ok (.ok other, afterOther) ∧
      (other = results ↔
        ¬ HasStray dialect rules crossFile workspace (overlay [] sources)) := by
  have empty := Workspace.IsKept.empty dialect texts
  have start : (fresh rules crossFile dialect).workspace.IsKept dialect texts :=
    empty
  have keptHere : (⟨rules, crossFile, workspace⟩ : Linter).workspace.IsKept
      dialect texts := kept
  rw [lint_eq start injective inTexts, lint_eq keptHere injective inTexts]
  cases indexed :
      sources.mapM fun entry => Document.index dialect entry.2 with
  | error error => exact .inl ⟨error, rfl, rfl⟩
  | ok documents =>
      have possible : ∀ entry ∈ sources, Document.CanIndex dialect entry.2 :=
        Outcome.exists_of_mapM indexed
      obtain ⟨results, other, checked, checkedOther, agree⟩ :=
        check_eq_iff rules crossFile possible
          (refreshes_foldl_store empty injective inTexts possible
            (isUnmasked_empty dialect sources))
          (refreshes_foldl_store kept injective inTexts possible unmasked)
      refine .inr ⟨results, other, (fresh rules crossFile dialect).refreshed
        sources, refreshed ⟨rules, crossFile, workspace⟩ sources, ?_, ?_, agree⟩
      · exact congrArg (fun outcome => Except.ok (outcome, _)) checked
      · exact congrArg (fun outcome => Except.ok (outcome, _)) checkedOther

end Linter

end AnchorLint
