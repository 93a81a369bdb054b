import AnchorLint.Proofs.Data.Outcome
import AnchorLint.Proofs.Document.Harvest
import AnchorLint.Proofs.Lint.Check
import AnchorLint.Proofs.Workspace.View
import Mathlib.Data.List.Induction
import Mathlib.Data.Set.Function

/-!
# Linting step by step

A linter that is used again and again indexes only what has changed: a text whose
digest is that of the stored document is not indexed once more.  This file follows
the latest text of every document through a history of steps and shows that the
workspace always holds the index of exactly these texts.  Hence a check at the end
of a history gives what it gives for a new linter that has been handed the latest
texts, in whatever order.
-/

namespace AnchorLint

namespace Stored

/-- What a workspace should hold for a text, if the text can be indexed. -/
def ofText? (dialect : Dialect) (text : Text) : Option Stored :=
  (Document.index dialect text).toOption.map .indexed

theorem digest_of_ofText? {dialect : Dialect} {text digest : Text}
    {stored : Stored} (made : ofText? dialect text = some stored)
    (hasDigest : stored.hasDigest digest = true) :
    Digest.ofText text = digest := by
  obtain ⟨document, indexed, rfl⟩ := Option.map_eq_some_iff.mp made
  have wasIndexed := Outcome.toOption_eq_some.mp indexed
  rw [← (Document.isFrom_of_index wasIndexed).digest]
  simpa [Stored.hasDigest] using hasDigest

end Stored

namespace Document

def CanIndex (dialect : Dialect) (text : Text) : Prop :=
  ∃ document, index dialect text = .ok document

instance (dialect : Dialect) (text : Text) :
    Decidable (CanIndex dialect text) :=
  match result : index dialect text with
  | .ok document => isTrue ⟨document, result⟩
  | .error _ => isFalse fun ⟨_, indexed⟩ => by
    rw [result] at indexed
    cases indexed

end Document

namespace Linter

/-! ## Histories -/

/-- A step in the use of a linter. -/
inductive Step where
  | index (sources : Entries Text Text)
  | lint (sources : Entries Text Text)
  | remove (path : Text)

def Step.sources : Step → Entries Text Text
  | index sources => sources
  | lint sources => sources
  | remove _ => []

def Step.IsPossible (dialect : Dialect) (step : Step) : Prop :=
  ∀ entry ∈ step.sources, Document.CanIndex dialect entry.2

instance (dialect : Dialect) (step : Step) :
    Decidable (step.IsPossible dialect) :=
  inferInstanceAs (Decidable (∀ entry ∈ step.sources, _))

def attempt (linter : Linter) : Step → Except IndexError Linter
  | .index sources => (linter.index sources).map Prod.snd
  | .lint sources => (linter.lint sources).map Prod.snd
  | .remove path => .ok (linter.within (linter.workspace.remove path))

/-- The linter behind a step; one that fails leaves it as it was. -/
def advance (linter : Linter) (step : Step) : Linter :=
  match linter.attempt step with
  | .ok after => after
  | .error _ => linter

def run (linter : Linter) (steps : List Step) : Linter :=
  steps.foldl advance linter

/-- The texts by normalized path, with further ones in place of the old. -/
def overlay (latest sources : Entries Text Text) : Entries Text Text :=
  sources.foldl (fun latest entry =>
    latest.put (Path.normalize entry.1) entry.2) latest

/-- The latest texts behind a step; one that is not possible leaves them as they
were. -/
def latestAfter (dialect : Dialect) (latest : Entries Text Text)
    (step : Step) : Entries Text Text :=
  if step.IsPossible dialect then
    match step with
    | .index sources => overlay latest sources
    | .lint sources => overlay latest sources
    | .remove path => latest.erase (Path.normalize path)
  else latest

/-- The latest text of every document that a history leaves. -/
def latest (dialect : Dialect) (steps : List Step) : Entries Text Text :=
  steps.foldl (latestAfter dialect) []

def fresh (rules : RuleSet) (crossFile : Bool) (dialect : Dialect) : Linter :=
  ⟨rules, crossFile, { dialect := dialect }⟩

/-! ## The workspace mirrors the latest texts -/

/-- A workspace holds the index of the latest texts and nothing else; `texts`
are those among which digests tell texts apart. -/
structure Mirrors (dialect : Dialect) (texts : Set Text)
    (latest : Entries Text Text) (workspace : Workspace) : Prop where
  sameDialect : workspace.dialect = dialect
  nodup_files : (Entries.keys workspace.files).Nodup
  nodup_latest : latest.keys.Nodup
  normalized : ∀ key ∈ latest.keys, Path.normalize key = key
  inTexts : ∀ entry ∈ latest, entry.2 ∈ texts
  possible : ∀ entry ∈ latest, Document.CanIndex dialect entry.2
  held : ∀ key, workspace.files.lookup key =
    (latest.lookup key).bind (Stored.ofText? dialect)

variable {dialect : Dialect} {texts : Set Text} {latest : Entries Text Text}
  {workspace : Workspace}

theorem Mirrors.empty (dialect : Dialect) (texts : Set Text) :
    Mirrors dialect texts [] { dialect := dialect } where
  sameDialect := rfl
  nodup_files := by simp [Entries.keys]
  nodup_latest := by simp [Entries.keys]
  normalized := by simp [Entries.keys]
  inTexts := by simp
  possible := by simp
  held := by simp

theorem Mirrors.get? (mirrors : Mirrors dialect texts latest workspace)
    (path : Text) :
    workspace.get? path =
      (latest.lookup (Path.normalize path)).bind (Stored.ofText? dialect) :=
  mirrors.held (Path.normalize path)

theorem Mirrors.mem_keys_iff (mirrors : Mirrors dialect texts latest workspace)
    (key : Text) : key ∈ Entries.keys workspace.files ↔ key ∈ latest.keys := by
  rw [← Entries.isSome_lookup_iff, ← Entries.isSome_lookup_iff, mirrors.held]
  cases found : latest.lookup key with
  | none => simp
  | some text =>
      obtain ⟨document, indexed⟩ :=
        mirrors.possible _ (Entries.mem_of_lookup found)
      simp [Stored.ofText?, indexed, Except.toOption]

theorem Mirrors.insert (mirrors : Mirrors dialect texts latest workspace)
    (path : Text) {text : Text} (inTexts : text ∈ texts) {document : Document}
    (indexed : Document.index dialect text = .ok document) :
    Mirrors dialect texts (latest.put (Path.normalize path) text)
      (workspace.insert path (.indexed document)) where
  sameDialect := mirrors.sameDialect
  nodup_files := Entries.nodup_keys_put mirrors.nodup_files _ _
  nodup_latest := Entries.nodup_keys_put mirrors.nodup_latest _ _
  normalized := by
    intro key member
    rcases Entries.mem_keys_put.mp member with rfl | old
    · exact Path.normalize_normalize path
    · exact mirrors.normalized key old
  inTexts := Entries.forall_mem_put mirrors.inTexts inTexts _
  possible := Entries.forall_mem_put mirrors.possible ⟨document, indexed⟩ _
  held := by
    intro key
    rw [Workspace.files_insert]
    by_cases same : key = Path.normalize path
    · rw [same, Entries.lookup_put_self, Entries.lookup_put_self]
      simp [Stored.ofText?, indexed, Except.toOption]
    · rw [Entries.lookup_put_of_ne _ same, Entries.lookup_put_of_ne _ same]
      exact mirrors.held key

/-- A text that is the latest one already changes nothing. -/
theorem Mirrors.again (mirrors : Mirrors dialect texts latest workspace)
    {key text : Text} (known : latest.lookup key = some text) :
    Mirrors dialect texts (latest.put key text) workspace where
  sameDialect := mirrors.sameDialect
  nodup_files := mirrors.nodup_files
  nodup_latest := Entries.nodup_keys_put mirrors.nodup_latest _ _
  normalized := by
    intro other member
    refine mirrors.normalized other ?_
    rcases Entries.mem_keys_put.mp member with rfl | old
    · exact Entries.mem_keys_of_mem (Entries.mem_of_lookup known)
    · exact old
  inTexts := Entries.forall_mem_put mirrors.inTexts
    (mirrors.inTexts _ (Entries.mem_of_lookup known)) key
  possible := Entries.forall_mem_put mirrors.possible
    (mirrors.possible _ (Entries.mem_of_lookup known)) key
  held := by
    intro other
    rw [mirrors.held other]
    by_cases same : other = key
    · rw [same, known, Entries.lookup_put_self]
    · rw [Entries.lookup_put_of_ne _ same]

theorem Mirrors.remove (mirrors : Mirrors dialect texts latest workspace)
    (path : Text) :
    Mirrors dialect texts (latest.erase (Path.normalize path))
      (workspace.remove path) where
  sameDialect := mirrors.sameDialect
  nodup_files := Entries.nodup_keys_erase mirrors.nodup_files _
  nodup_latest := Entries.nodup_keys_erase mirrors.nodup_latest _
  normalized := by
    intro key member
    exact mirrors.normalized key (Entries.mem_keys_erase.mp member).2
  inTexts := by
    intro entry member
    exact mirrors.inTexts entry (List.mem_filter.mp member).1
  possible := by
    intro entry member
    exact mirrors.possible entry (List.mem_filter.mp member).1
  held := by
    intro key
    rw [Workspace.files_remove]
    by_cases same : key = Path.normalize path
    · rw [same, Entries.lookup_erase_self, Entries.lookup_erase_self]
      rfl
    · rw [Entries.lookup_erase_of_ne _ same, Entries.lookup_erase_of_ne _ same]
      exact mirrors.held key

/-! ## Indexing what is not up to date -/

/-- A text with the digest of the stored document is the one it was made from. -/
theorem Mirrors.latest_of_current (mirrors : Mirrors dialect texts latest workspace)
    (injective : Set.InjOn Digest.ofText texts) {path text : Text}
    (inTexts : text ∈ texts)
    (current : workspace.isStale path (Digest.ofText text) = false) :
    latest.lookup (Path.normalize path) = some text := by
  simp only [Workspace.isStale, Bool.not_eq_false', Option.any_eq_true,
    mirrors.get?, Option.bind_eq_some_iff] at current
  obtain ⟨stored, ⟨known, found, made⟩, hasDigest⟩ := current
  have sameDigest := Stored.digest_of_ofText? made hasDigest
  have inKnown : known ∈ texts := mirrors.inTexts _ (Entries.mem_of_lookup found)
  rw [found, injective inKnown inTexts sameDigest]

theorem dialect_foldl_store (workspace : Workspace)
    (entries : List (Text × Option Document)) :
    (entries.foldl store workspace).dialect = workspace.dialect := by
  induction entries generalizing workspace with
  | nil => rfl
  | cons entry entries ih =>
      rw [List.foldl_cons, ih, store]
      split <;> rfl

/-- The new index of a text, unless the workspace holds it already. -/
def renewal (workspace : Workspace) (entry : Text × Text) : Option Document :=
  if workspace.isStale (Path.normalize entry.1) (Digest.ofText entry.2) then
    (Document.index workspace.dialect entry.2).toOption
  else none

theorem indexAll_of_possible {sources : Entries Text Text}
    (possible : ∀ entry ∈ sources,
      Document.CanIndex workspace.dialect entry.2) :
    indexAll workspace sources = .ok (sources.map fun entry =>
      (Path.normalize entry.1, renewal workspace entry)) := by
  unfold indexAll
  induction sources with
  | nil => rfl
  | cons entry sources ih =>
      obtain ⟨⟨document, indexed⟩, later⟩ := List.forall_mem_cons.mp possible
      have single : indexIfStale workspace (Path.normalize entry.1) entry.2 =
          .ok (renewal workspace entry) := by
        unfold indexIfStale renewal
        rw [indexed]
        split <;> rfl
      rw [List.mapM_cons, ih later]
      simp only [single]
      rfl

theorem Mirrors.indexAll_of_impossible
    (mirrors : Mirrors dialect texts latest workspace)
    (injective : Set.InjOn Digest.ofText texts)
    {sources : Entries Text Text}
    (inTexts : ∀ entry ∈ sources, entry.2 ∈ texts)
    (impossible : ¬ ∀ entry ∈ sources,
      Document.CanIndex dialect entry.2) :
    ∃ error, indexAll workspace sources = .error error := by
  unfold indexAll
  induction sources with
  | nil => exact absurd (by simp) impossible
  | cons entry sources ih =>
      obtain ⟨inTextsHere, inTextsLater⟩ := List.forall_mem_cons.mp inTexts
      rw [List.mapM_cons]
      cases single : indexIfStale workspace (Path.normalize entry.1) entry.2 with
      | error error => exact ⟨error, by simp only [single]; rfl⟩
      | ok renewed =>
          have here : Document.CanIndex dialect entry.2 := by
            cases result : Document.index dialect entry.2 with
            | ok document => exact ⟨document, result⟩
            | error error =>
                cases current : workspace.isStale (Path.normalize entry.1)
                    (Digest.ofText entry.2) with
                | true =>
                    simp [indexIfStale, current, mirrors.sameDialect, result,
                      Except.map] at single
                | false =>
                    have known := Entries.mem_of_lookup
                      (mirrors.latest_of_current injective inTextsHere current)
                    have possible := mirrors.possible _ known
                    exact possible
          obtain ⟨error, fails⟩ := ih inTextsLater fun later =>
            impossible (List.forall_mem_cons.mpr ⟨here, later⟩)
          exact ⟨error, by simp only [single, fails]; rfl⟩

/-- Putting the new indexes in one after the other mirrors the new texts.  What
is up to date was found out before anything changed: that stays true for a path
until its own turn, because the paths are distinct. -/
theorem Mirrors.foldl_store {before : Entries Text Text} {start : Workspace}
    (mirrorsStart : Mirrors dialect texts before start)
    (injective : Set.InjOn Digest.ofText texts)
    {sources : Entries Text Text}
    (distinct : (sources.map fun entry => Path.normalize entry.1).Nodup)
    (inTexts : ∀ entry ∈ sources, entry.2 ∈ texts)
    (possible : ∀ entry ∈ sources,
      Document.CanIndex dialect entry.2)
    (mirrors : Mirrors dialect texts latest workspace)
    (untouched : ∀ entry ∈ sources, latest.lookup (Path.normalize entry.1) =
      before.lookup (Path.normalize entry.1)) :
    Mirrors dialect texts (overlay latest sources)
      ((sources.map fun entry =>
        (Path.normalize entry.1, renewal start entry)).foldl store
          workspace) := by
  induction sources generalizing latest workspace with
  | nil => exact mirrors
  | cons entry sources ih =>
      obtain ⟨notLater, distinctLater⟩ := List.nodup_cons.mp distinct
      obtain ⟨inTextsHere, inTextsLater⟩ := List.forall_mem_cons.mp inTexts
      obtain ⟨possibleHere, possibleLater⟩ :=
        List.forall_mem_cons.mp possible
      obtain ⟨untouchedHere, untouchedLater⟩ :=
        List.forall_mem_cons.mp untouched
      have here : Mirrors dialect texts
          (latest.put (Path.normalize entry.1) entry.2)
          (store workspace (Path.normalize entry.1, renewal start entry)) := by
        unfold renewal
        split
        · obtain ⟨document, indexed⟩ := possibleHere
          rw [mirrorsStart.sameDialect, indexed]
          have inserted := mirrors.insert (Path.normalize entry.1) inTextsHere
            indexed
          rw [Path.normalize_normalize] at inserted
          exact inserted
        · rename_i current
          have known := mirrorsStart.latest_of_current injective inTextsHere
            (Bool.eq_false_iff.mpr current)
          rw [Path.normalize_normalize] at known
          exact mirrors.again (untouchedHere.trans known)
      refine ih distinctLater inTextsLater possibleLater here ?_
      intro other member
      have different : Path.normalize other.1 ≠ Path.normalize entry.1 :=
        fun same => notLater (List.mem_map.mpr ⟨other, member, same⟩)
      rw [Entries.lookup_put_of_ne _ different]
      exact untouchedLater other member

/-! ## Steps and histories -/

section

variable {linter : Linter}

/-- Indexing texts succeeds exactly if all of them can be indexed, and then
mirrors them. -/
theorem Mirrors.index (mirrors : Mirrors dialect texts latest linter.workspace)
    (injective : Set.InjOn Digest.ofText texts) {sources : Entries Text Text}
    (distinct : (sources.map fun entry => Path.normalize entry.1).Nodup)
    (inTexts : ∀ entry ∈ sources, entry.2 ∈ texts) :
    ((∀ entry ∈ sources, Document.CanIndex dialect entry.2) →
      ∃ after, linter.index sources = .ok
          (sources.map fun entry => Path.normalize entry.1,
            linter.within after) ∧
        Mirrors dialect texts (overlay latest sources) after) ∧
    ((¬ ∀ entry ∈ sources, Document.CanIndex dialect entry.2) →
      ∃ error, linter.index sources = .error error) := by
  constructor
  · intro possible
    have sameDialect := mirrors.sameDialect
    rw [← sameDialect] at possible
    have entries := indexAll_of_possible possible
    rw [sameDialect] at possible
    have mirrorsAfter := mirrors.foldl_store injective distinct inTexts possible
      mirrors fun _ _ => rfl
    refine ⟨_, ?_, mirrorsAfter⟩
    rw [Linter.index, entries]
    simp only [pure, bind, Except.pure, Except.bind, List.map_map]
    rfl
  · intro impossible
    obtain ⟨error, fails⟩ := mirrors.indexAll_of_impossible injective inTexts
      impossible
    exact ⟨error, by simp only [Linter.index, fails]; rfl⟩

/-- Whatever the check comes to, linting indexes. -/
theorem attempt_lint (linter : Linter) (sources : Entries Text Text) :
    linter.attempt (.lint sources) = linter.attempt (.index sources) := by
  simp only [attempt, lint]
  cases linter.index sources <;> rfl

/-- A step succeeds exactly if it is possible, and then mirrors the latest
texts behind it. -/
theorem Mirrors.attempt
    (mirrors : Mirrors dialect texts latest linter.workspace)
    (injective : Set.InjOn Digest.ofText texts) {step : Step}
    (distinct : (step.sources.map fun entry => Path.normalize entry.1).Nodup)
    (inTexts : ∀ entry ∈ step.sources, entry.2 ∈ texts) :
    (step.IsPossible dialect →
      ∃ after, linter.attempt step = .ok (linter.within after) ∧
        Mirrors dialect texts (latestAfter dialect latest step) after) ∧
    (¬ step.IsPossible dialect →
      latestAfter dialect latest step = latest ∧
        ∃ error, linter.attempt step = .error error) := by
  constructor
  · intro possible
    unfold latestAfter
    rw [if_pos possible]
    cases step with
    | remove path => exact ⟨_, rfl, mirrors.remove path⟩
    | index sources =>
        obtain ⟨after, equal, mirrorsAfter⟩ :=
          (mirrors.index injective distinct inTexts).1 possible
        exact ⟨after, congrArg (Except.map Prod.snd) equal, mirrorsAfter⟩
    | lint sources =>
        obtain ⟨after, equal, mirrorsAfter⟩ :=
          (mirrors.index injective distinct inTexts).1 possible
        refine ⟨after, ?_, mirrorsAfter⟩
        rw [attempt_lint]
        exact congrArg (Except.map Prod.snd) equal
  · intro impossible
    refine ⟨if_neg impossible, ?_⟩
    cases step with
    | remove path =>
        exact absurd (by simp [Step.IsPossible, Step.sources]) impossible
    | index sources =>
        obtain ⟨error, equal⟩ :=
          (mirrors.index injective distinct inTexts).2 impossible
        exact ⟨error, congrArg (Except.map Prod.snd) equal⟩
    | lint sources =>
        obtain ⟨error, equal⟩ :=
          (mirrors.index injective distinct inTexts).2 impossible
        refine ⟨error, ?_⟩
        rw [attempt_lint]
        exact congrArg (Except.map Prod.snd) equal

theorem Mirrors.advance
    (mirrors : Mirrors dialect texts latest linter.workspace)
    (injective : Set.InjOn Digest.ofText texts) {step : Step}
    (distinct : (step.sources.map fun entry => Path.normalize entry.1).Nodup)
    (inTexts : ∀ entry ∈ step.sources, entry.2 ∈ texts) :
    ∃ after, linter.advance step = linter.within after ∧
      Mirrors dialect texts (latestAfter dialect latest step) after := by
  have attempt := mirrors.attempt injective distinct inTexts
  by_cases possible : step.IsPossible dialect
  · obtain ⟨after, equal, mirrorsAfter⟩ := attempt.1 possible
    exact ⟨after, by rw [Linter.advance, equal], mirrorsAfter⟩
  · obtain ⟨unchanged, error, equal⟩ := attempt.2 possible
    refine ⟨linter.workspace, by rw [Linter.advance, equal]; rfl, ?_⟩
    rw [unchanged]
    exact mirrors

end

/-- The workspace behind a history mirrors the latest texts. -/
theorem mirrors_run (rules : RuleSet) (crossFile : Bool) (dialect : Dialect)
    {steps : List Step}
    (distinct : ∀ step ∈ steps,
      (step.sources.map fun entry => Path.normalize entry.1).Nodup)
    (injective : Set.InjOn Digest.ofText texts)
    (inTexts : ∀ step ∈ steps, ∀ entry ∈ step.sources, entry.2 ∈ texts) :
    ∃ after, (fresh rules crossFile dialect).run steps =
        (fresh rules crossFile dialect).within after ∧
      Mirrors dialect texts (Linter.latest dialect steps) after := by
  induction steps using List.reverseRecOn with
  | nil => exact ⟨_, rfl, Mirrors.empty dialect texts⟩
  | append_singleton steps step ih =>
      obtain ⟨before, equal, mirrors⟩ := ih
        (fun step member => distinct step (List.mem_append_left _ member))
        (fun step member => inTexts step (List.mem_append_left _ member))
      have last : step ∈ steps ++ [step] := by simp
      have start : Mirrors dialect texts (Linter.latest dialect steps)
          ((fresh rules crossFile dialect).within before).workspace := mirrors
      obtain ⟨after, advanced, mirrorsAfter⟩ :=
        start.advance injective (distinct step last) (inTexts step last)
      refine ⟨after, ?_, ?_⟩
      · simp only [run, List.foldl_append, List.foldl_cons, List.foldl_nil]
        rw [← run, equal, advanced]
        rfl
      · simpa only [Linter.latest, List.foldl_append, List.foldl_cons,
          List.foldl_nil] using mirrorsAfter

/-! ## A check at the end of a history -/

theorem overlay_concat (latest sources : Entries Text Text)
    (entry : Text × Text) :
    overlay latest (sources ++ [entry]) =
      (overlay latest sources).put (Path.normalize entry.1) entry.2 := by
  simp [overlay]

theorem overlay_eq_append {latest sources : Entries Text Text}
    (nodup : (latest.keys ++ sources.keys).Nodup)
    (normalized : ∀ key ∈ sources.keys, Path.normalize key = key) :
    overlay latest sources = latest ++ sources := by
  induction sources generalizing latest with
  | nil => simp [overlay]
  | cons entry sources ih =>
      obtain ⟨normalHere, normalLater⟩ := List.forall_mem_cons.mp normalized
      have missing : entry.1 ∉ latest.keys := by
        intro known
        exact (List.disjoint_of_nodup_append nodup) known List.mem_cons_self
      have put : latest.put entry.1 entry.2 = latest ++ [entry] :=
        Entries.put_of_not_mem missing entry.2
      have rest : overlay (latest ++ [entry]) sources =
          latest ++ [entry] ++ sources :=
        ih (by simpa [Entries.keys] using nodup) normalLater
      rw [overlay, List.foldl_cons, normalHere, put, ← overlay, rest]
      simp

/-- A new linter that is handed the latest texts in some order mirrors them. -/
theorem Mirrors.reorder {order : Entries Text Text}
    (mirrors : Mirrors dialect texts latest workspace)
    (injective : Set.InjOn Digest.ofText texts) (perm : order.Perm latest)
    (rules : RuleSet) (crossFile : Bool) :
    ∃ keys after, (fresh rules crossFile dialect).index order =
        .ok (keys, (fresh rules crossFile dialect).within after) ∧
      ∀ path, workspace.get? path = after.get? path := by
  have nodup : order.keys.Nodup :=
    (perm.map Prod.fst).nodup_iff.mpr mirrors.nodup_latest
  have normalized : ∀ key ∈ order.keys, Path.normalize key = key :=
    fun key member => mirrors.normalized key ((perm.map Prod.fst).subset member)
  have distinct : (order.map fun entry => Path.normalize entry.1).Nodup := by
    have same : (order.map fun entry => Path.normalize entry.1) = order.keys :=
      List.map_congr_left fun entry member =>
        normalized entry.1 (Entries.mem_keys_of_mem member)
    rw [same]
    exact nodup
  have start : Mirrors dialect texts [] (fresh rules crossFile dialect).workspace :=
    Mirrors.empty dialect texts
  obtain ⟨after, equal, mirrorsAfter⟩ := (start.index injective distinct
    fun entry member => mirrors.inTexts entry (perm.subset member)).1
    fun entry member => mirrors.possible entry (perm.subset member)
  refine ⟨_, after, equal, fun path => ?_⟩
  have whole : overlay [] order = order :=
    overlay_eq_append (by simpa [Entries.keys] using nodup) normalized
  rw [mirrors.get?, mirrorsAfter.get?, whole,
    Entries.lookup_eq_of_perm perm nodup]

/-- However a linter has been used, its workspace holds the index of the latest
text of every document that has not been removed since, and a check gives what it
gives for a new linter that indexes these texts in any order.  A step fails
exactly if one of its texts cannot be indexed, and then changes nothing. -/
theorem run_agrees_with_fresh (rules : RuleSet) (crossFile : Bool)
    (dialect : Dialect) (steps : List Step)
    (distinct : ∀ step ∈ steps,
      (step.sources.map fun entry => Path.normalize entry.1).Nodup)
    (injective : Set.InjOn Digest.ofText
      {text | ∃ step ∈ steps, ∃ path, (path, text) ∈ step.sources}) :
    let start := fresh rules crossFile dialect
    let latest := Linter.latest dialect steps
    let files := (start.run steps).workspace.files
    (∀ before step behind, steps = before ++ step :: behind →
      ((∃ next, (start.run before).attempt step = .ok next) ↔
        step.IsPossible dialect)) ∧
    (files.keys.Nodup ∧ files.keys.Perm latest.keys) ∧
    (∀ key text, latest.lookup key = some text →
      ∃ document, Document.index dialect text = .ok document ∧
        files.lookup key = some (.indexed document)) ∧
    ∀ order : Entries Text Text, order.Perm latest →
      ∃ keys other, start.index order = .ok (keys, other) ∧
        ∀ asked, (start.run steps).check asked = other.check asked := by
  intro start latest files
  have inTexts : ∀ step ∈ steps, ∀ entry ∈ step.sources, entry.2 ∈
      {text | ∃ step ∈ steps, ∃ path, (path, text) ∈ step.sources} :=
    fun step member entry inSources => ⟨step, member, entry.1, inSources⟩
  obtain ⟨workspace, equal, mirrors⟩ := mirrors_run rules crossFile dialect
    distinct injective inTexts
  have filesEq : files = workspace.files :=
    congrArg (fun linter => linter.workspace.files) equal
  refine ⟨?_, ⟨?_, ?_⟩, ?_, ?_⟩
  · rintro before step behind rfl
    have inBefore : ∀ other ∈ before, other ∈ before ++ step :: behind :=
      fun other member => List.mem_append_left _ member
    obtain ⟨earlier, equalBefore, mirrorsBefore⟩ := mirrors_run rules crossFile
      dialect (fun other member => distinct other (inBefore other member))
      injective (fun other member => inTexts other (inBefore other member))
    have stepIn : step ∈ before ++ step :: behind := by simp
    have mirrorsStart : Mirrors dialect _ _ (start.within earlier).workspace :=
      mirrorsBefore
    have attempt := mirrorsStart.attempt injective (distinct step stepIn)
      (inTexts step stepIn)
    rw [equalBefore]
    constructor
    · rintro ⟨next, succeeds⟩
      by_contra impossible
      obtain ⟨-, error, fails⟩ := attempt.2 impossible
      exact absurd (succeeds.symm.trans fails) (by simp)
    · intro possible
      obtain ⟨after, succeeds, -⟩ := attempt.1 possible
      exact ⟨_, succeeds⟩
  · rw [filesEq]
    exact mirrors.nodup_files
  · rw [filesEq, List.perm_ext_iff_of_nodup mirrors.nodup_files
      mirrors.nodup_latest]
    exact mirrors.mem_keys_iff
  · intro key text found
    rw [filesEq, mirrors.held, found]
    obtain ⟨document, indexed⟩ := mirrors.possible _ (Entries.mem_of_lookup found)
    exact ⟨document, indexed, by simp [Stored.ofText?, indexed, Except.toOption]⟩
  · intro order perm
    obtain ⟨keys, after, indexed, same⟩ :=
      mirrors.reorder injective perm rules crossFile
    refine ⟨keys, _, indexed, fun asked => check_congr fun key _ => ?_⟩
    rw [equal]
    exact checkAt_congr start (same key) fun _ _ target _ => same target

theorem digest_ne :
    Digest.ofText "# One".toList ≠ Digest.ofText "[one](a.md#one)".toList := by
  decide +kernel

/-- Two documents are linted, one is replaced under another spelling of its path,
the other one is removed and comes back. -/
theorem run_agrees_with_fresh_replaced :
    let one := "# One".toList
    let two := "[one](a.md#one)".toList
    let steps : List Step :=
      [ .lint [("a.md".toList, one), ("docs/../b.md".toList, one)],
        .index [("./b.md".toList, two)], .remove "a.md".toList,
        .lint [("a.md".toList, one)] ]
    let start := fresh {} true .github
    ((∀ step ∈ steps,
        (step.sources.map fun entry => Path.normalize entry.1).Nodup) ∧
      Set.InjOn Digest.ofText
        {text | ∃ step ∈ steps, ∃ path, (path, text) ∈ step.sources}) ∧
    ∀ order : Entries Text Text, order.Perm (Linter.latest .github steps) →
      ∃ keys other, start.index order = .ok (keys, other) ∧
        ∀ asked, (start.run steps).check asked = other.check asked := by
  intro one two steps start
  have distinct : ∀ step ∈ steps,
      (step.sources.map fun entry => Path.normalize entry.1).Nodup := by
    decide
  have texts : ∀ text,
      text ∈ {text | ∃ step ∈ steps, ∃ path, (path, text) ∈ step.sources} →
      text = one ∨ text = two := by
    rintro text ⟨step, member, path, inSources⟩
    simp only [steps, List.mem_cons, List.not_mem_nil, or_false] at member
    rcases member with rfl | rfl | rfl | rfl <;>
      simp only [Step.sources, List.mem_cons, List.not_mem_nil, or_false,
        Prod.mk.injEq] at inSources <;> tauto
  have injective : Set.InjOn Digest.ofText
      {text | ∃ step ∈ steps, ∃ path, (path, text) ∈ step.sources} := by
    intro first inFirst second inSecond same
    rcases texts first inFirst with rfl | rfl <;>
      rcases texts second inSecond with rfl | rfl
    · rfl
    · exact absurd same digest_ne
    · exact absurd same.symm digest_ne
    · rfl
  exact ⟨⟨distinct, injective⟩,
    (run_agrees_with_fresh {} true .github steps distinct injective).2.2.2⟩

end Linter

end AnchorLint
