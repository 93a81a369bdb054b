import AnchorLint.Proofs.Lint.Incremental

/-!
# Linting the same texts again

Which texts are new is decided for all of them before any index is put into the
workspace.  Hence, of several texts for one document, linting stores the last one
that differs from what was there before, and this need not be the last one of all.
Linting again changes nothing exactly if all texts for a document have the same
digest: otherwise it stores one of those that were passed over.
-/

namespace AnchorLint

theorem Value.beq_str {value : Value} {text : Text} :
    (value == .str text) = true ↔ value = .str text := by
  cases value with
  | str own =>
      change (own == text) = true ↔ _
      rw [beq_iff_eq, Value.str.injEq]
  | _ => simp [BEq.beq, Value.beq]

namespace Stored

theorem hasDigest_of_ofText? {dialect : Dialect} {text : Text} {stored : Stored}
    (made : ofText? dialect text = some stored) :
    stored.hasDigest (Digest.ofText text) = true := by
  obtain ⟨document, indexed, rfl⟩ := Option.map_eq_some_iff.mp made
  have wasIndexed := Outcome.toOption_eq_some.mp indexed
  rw [hasDigest, (Document.isFrom_of_index wasIndexed).digest, beq_self_eq_true]

theorem eq_of_hasDigest {stored : Stored} {first second : Text}
    (hasFirst : stored.hasDigest first = true)
    (hasSecond : stored.hasDigest second = true) : first = second := by
  cases stored with
  | indexed document =>
      exact (beq_iff_eq.mp hasFirst).symm.trans (beq_iff_eq.mp hasSecond)
  | cached record =>
      exact Value.str.inj
        ((Value.beq_str.mp hasFirst).symm.trans (Value.beq_str.mp hasSecond))

end Stored

namespace Linter

/-! ## Several texts for one document -/

/-- Whether texts for the same document have the same digest. -/
def Consistent (sources : Entries Text Text) : Prop :=
  ∀ first ∈ sources, ∀ second ∈ sources,
    Path.normalize first.1 = Path.normalize second.1 →
    Digest.ofText first.2 = Digest.ofText second.2

instance (sources : Entries Text Text) : Decidable (Consistent sources) :=
  inferInstanceAs (Decidable (∀ first ∈ sources, ∀ second ∈ sources, _ → _))

/-- The last text for the document at a path. -/
def lastText? : Entries Text Text → Text → Option Text
  | [], _ => none
  | entry :: rest, path =>
    (lastText? rest path).or
      (if Path.normalize entry.1 = Path.normalize path then some entry.2 else none)

def lacks (workspace : Workspace) (entry : Text × Text) : Bool :=
  workspace.isStale entry.1 (Digest.ofText entry.2)

def lacking (workspace : Workspace) (sources : Entries Text Text) :
    Entries Text Text :=
  sources.filter (lacks workspace)

/-- Whether the workspace lacks the last text for a document if it lacks any text
for it. -/
def LastDecides (workspace : Workspace) (sources : Entries Text Text) : Prop :=
  ∀ path last, lastText? sources path = some last →
    lacks workspace (path, last) = false →
    lastText? (lacking workspace sources) path = none

/-- Whether what is stored with the digest of a text is the index of this text. -/
def Faithful (workspace : Workspace) (sources : Entries Text Text) : Prop :=
  ∀ entry ∈ sources, ∀ stored, workspace.get? entry.1 = some stored →
    stored.hasDigest (Digest.ofText entry.2) = true →
    Stored.ofText? workspace.dialect entry.2 = some stored

/-- Indexes all texts, whatever the workspace holds. -/
def reindexAll (workspace : Workspace) (sources : Entries Text Text) :
    Except IndexError (List (Text × Option Document)) :=
  sources.mapM fun (path, text) => do
    let document ← Document.index workspace.dialect text
    return (Path.normalize path, some document)

/-- Linting where no text is skipped: all texts are indexed, and the indexes put
into the workspace one after the other. -/
def relint (linter : Linter) (sources : Entries Text Text) :
    Except IndexError (Except Mismatch LintResults × Linter) := do
  let entries ← reindexAll linter.workspace sources
  let after := linter.within (entries.foldl store linter.workspace)
  return (after.check (entries.map Prod.fst), after)

variable {dialect : Dialect} {workspace : Workspace} {sources : Entries Text Text}

theorem exists_of_lastText? {path text : Text}
    (last : lastText? sources path = some text) :
    ∃ entry ∈ sources, Path.normalize entry.1 = Path.normalize path ∧
      entry.2 = text := by
  induction sources with
  | nil => cases last
  | cons entry rest ih =>
      rw [lastText?, Option.or_eq_some_iff] at last
      rcases last with later | ⟨-, here⟩
      · obtain ⟨other, member, both⟩ := ih later
        exact ⟨other, List.mem_cons_of_mem _ member, both⟩
      · split at here
        · rename_i same
          exact ⟨entry, List.mem_cons_self, same, Option.some.inj here⟩
        · cases here

theorem exists_lastText? {entry : Text × Text} (member : entry ∈ sources)
    {path : Text} (same : Path.normalize entry.1 = Path.normalize path) :
    ∃ text, lastText? sources path = some text := by
  induction sources with
  | nil => cases member
  | cons first rest ih =>
      rw [lastText?]
      rcases List.mem_cons.mp member with rfl | later
      · rw [if_pos same]
        cases lastText? rest path <;> simp
      · obtain ⟨text, last⟩ := ih later
        exact ⟨text, by rw [last]; rfl⟩

theorem exists_lastText?_lacking {entry : Text × Text} (member : entry ∈ sources)
    (isNew : lacks workspace entry = true) :
    ∃ text, lastText? (lacking workspace sources) entry.1 = some text :=
  exists_lastText? (List.mem_filter.mpr ⟨member, isNew⟩) rfl

theorem lacks_congr {path other text : Text}
    (same : Path.normalize path = Path.normalize other) :
    lacks workspace (path, text) = lacks workspace (other, text) := by
  simp only [lacks, Workspace.isStale, Workspace.get?, same]

theorem lastText?_lacking_eq_none {path : Text}
    (none_ : lastText? sources path = none) :
    lastText? (lacking workspace sources) path = none := by
  cases kept : lastText? (lacking workspace sources) path with
  | none => rfl
  | some other =>
      obtain ⟨entry, member, same, -⟩ := exists_of_lastText? kept
      obtain ⟨text, found⟩ := exists_lastText? (List.mem_filter.mp member).1 same
      rw [none_] at found
      cases found

/-- A text that is the last one, and that the workspace lacks, is the last one among
those that it lacks. -/
theorem lastText?_lacking {path text : Text} (last : lastText? sources path = some text)
    (isNew : lacks workspace (path, text) = true) :
    lastText? (lacking workspace sources) path = some text := by
  induction sources with
  | nil => cases last
  | cons entry rest ih =>
      rw [lastText?, Option.or_eq_some_iff] at last
      rw [lacking, List.filter_cons]
      rcases last with later | ⟨missing, here⟩
      · have kept := ih later
        rw [lacking] at kept
        split
        · rw [lastText?, kept]
          rfl
        · exact kept
      · split at here
        · rename_i same
          obtain rfl := Option.some.inj here
          rw [if_pos ((lacks_congr same).trans isNew), lastText?, ← lacking,
            lastText?_lacking_eq_none missing, if_pos same]
          rfl
        · cases here

/-! ## What is stored -/

/-- Whether an entry holds the index of a text if the text is among the chosen
ones, and nothing otherwise. -/
def Indexes (dialect : Dialect) (chosen : Text × Text → Bool) (source : Text × Text)
    (entry : Text × Option Document) : Prop :=
  entry.1 = Path.normalize source.1 ∧
    if chosen source then
      ∃ document, Document.index dialect source.2 = .ok document ∧
        entry.2 = some document
    else entry.2 = none

theorem indexes_of_indexAll {entries : List (Text × Option Document)}
    (indexed : indexAll workspace sources = .ok entries) :
    List.Forall₂ (Indexes workspace.dialect (lacks workspace)) sources entries := by
  refine (Outcome.mapM_eq_ok.mp indexed).imp fun source entry computed => ?_
  obtain ⟨renewed, single, equal⟩ := Outcome.bind_eq_ok.mp computed
  obtain rfl := Except.ok.inj equal
  refine ⟨rfl, ?_⟩
  rw [lacks_congr (Path.normalize_normalize source.1).symm, lacks]
  unfold indexIfStale at single
  split at single
  · rename_i isNew
    obtain ⟨document, indexed, equal⟩ := Outcome.map_eq_ok.mp single
    rw [if_pos isNew]
    exact ⟨document, indexed, equal.symm⟩
  · rename_i current
    rw [if_neg current]
    exact (Except.ok.inj single).symm

theorem indexes_of_reindexAll {entries : List (Text × Option Document)}
    (indexed : reindexAll workspace sources = .ok entries) :
    List.Forall₂ (Indexes workspace.dialect fun _ => true) sources entries := by
  refine (Outcome.mapM_eq_ok.mp indexed).imp fun source entry computed => ?_
  obtain ⟨document, single, equal⟩ := Outcome.bind_eq_ok.mp computed
  obtain rfl := Except.ok.inj equal
  exact ⟨rfl, document, single, rfl⟩

/-- Storing the indexes of chosen texts leaves the index of the last one for each
document, and everything else as it was. -/
theorem get?_foldl_store {chosen : Text × Text → Bool}
    {entries : List (Text × Option Document)}
    (made : List.Forall₂ (Indexes dialect chosen) sources entries)
    (workspace : Workspace) (path : Text) :
    (entries.foldl store workspace).get? path =
      (lastText? (sources.filter chosen) path).elim (workspace.get? path)
        (Stored.ofText? dialect) := by
  induction made generalizing workspace with
  | nil => rfl
  | @cons source entry sources entries here later ih =>
      obtain ⟨key, document?⟩ := entry
      obtain ⟨rfl, single⟩ : key = Path.normalize source.1 ∧ _ := here
      rw [List.foldl_cons, ih, List.filter_cons]
      split at single
      · rename_i isChosen
        obtain ⟨document, indexed, rfl⟩ := single
        rw [if_pos isChosen, lastText?, store, Workspace.get?_insert,
          Path.normalize_normalize]
        cases lastText? (sources.filter chosen) path with
        | some text => rfl
        | none =>
            by_cases same : Path.normalize source.1 = Path.normalize path
            · rw [if_pos same, if_pos same.symm]
              simp [Stored.ofText?, indexed, Except.toOption]
            · rw [if_neg same, if_neg (Ne.symm same)]
              rfl
      · rename_i notChosen
        obtain rfl : document? = none := single
        rw [if_neg notChosen]
        rfl

theorem map_fst_of_indexes {chosen : Text × Text → Bool}
    {entries : List (Text × Option Document)}
    (made : List.Forall₂ (Indexes dialect chosen) sources entries) :
    entries.map Prod.fst = sources.map fun entry => Path.normalize entry.1 := by
  induction made with
  | nil => rfl
  | cons here _ ih => rw [List.map_cons, List.map_cons, here.1, ih]

/-! ## Which texts are stored -/

theorem lacks_eq_false {path text : Text} :
    lacks workspace (path, text) = false ↔ ∃ stored,
      workspace.get? path = some stored ∧
        stored.hasDigest (Digest.ofText text) = true := by
  simp [lacks, Workspace.isStale, Option.any_eq_true]

theorem exists_ofText?_of_indexes {chosen : Text × Text → Bool}
    {entries : List (Text × Option Document)}
    (made : List.Forall₂ (Indexes dialect chosen) sources entries) :
    ∀ source ∈ sources.filter chosen,
      ∃ stored, Stored.ofText? dialect source.2 = some stored := by
  induction made with
  | nil => simp
  | @cons source entry sources entries here later ih =>
      intro other member
      obtain ⟨inSources, isChosen⟩ := List.mem_filter.mp member
      rcases List.mem_cons.mp inSources with rfl | inLater
      · have single := here.2
        rw [if_pos isChosen] at single
        obtain ⟨document, indexed, -⟩ := single
        exact ⟨.indexed document, by simp [Stored.ofText?, indexed, Except.toOption]⟩
      · exact ih other (List.mem_filter.mpr ⟨inLater, isChosen⟩)

/-- Behind new indexes there is a document with the digest of the last text that was
lacking, and where none was lacking everything is as it was. -/
theorem get?_of_indexAll {entries : List (Text × Option Document)}
    (indexed : indexAll workspace sources = .ok entries) (path : Text) :
    (lastText? (lacking workspace sources) path = none ∧
      (entries.foldl store workspace).get? path = workspace.get? path) ∨
    ∃ text stored, lastText? (lacking workspace sources) path = some text ∧
      lacks workspace (path, text) = true ∧
      (entries.foldl store workspace).get? path = some stored ∧
      Stored.ofText? workspace.dialect text = some stored := by
  have made := indexes_of_indexAll indexed
  have stores := get?_foldl_store made workspace path
  rw [← lacking] at stores
  cases last : lastText? (lacking workspace sources) path with
  | none => exact Or.inl ⟨rfl, by rw [stores, last]; rfl⟩
  | some text =>
      obtain ⟨source, member, same, rfl⟩ := exists_of_lastText? last
      obtain ⟨stored, made⟩ := exists_ofText?_of_indexes made source member
      have isNew := (List.mem_filter.mp member).2
      refine Or.inr ⟨source.2, stored, rfl, (lacks_congr same).symm.trans isNew, ?_, made⟩
      rw [stores, last]
      exact made

/-- If texts for the same document have the same digest, none of them is lacking any
more once they have been indexed. -/
theorem lacks_foldl_store_of_consistent (consistent : Consistent sources)
    {entries : List (Text × Option Document)}
    (indexed : indexAll workspace sources = .ok entries) :
    ∀ source ∈ sources, lacks (entries.foldl store workspace) source = false := by
  intro source member
  rw [lacks_eq_false]
  rcases get?_of_indexAll indexed source.1 with
    ⟨none_, stays⟩ | ⟨text, stored, last, -, held, made⟩
  · rw [stays, ← lacks_eq_false]
    by_contra isNew
    obtain ⟨text, last⟩ := exists_lastText?_lacking member
      (Bool.eq_true_of_not_eq_false isNew)
    rw [none_] at last
    cases last
  · obtain ⟨other, inLacking, same, rfl⟩ := exists_of_lastText? last
    rw [consistent source member other (List.mem_filter.mp inLacking).1 same.symm]
    exact ⟨stored, held, Stored.hasDigest_of_ofText? made⟩

/-- If indexing leaves the documents as they were, no text was lacking. -/
theorem lacks_of_get?_foldl_store {entries : List (Text × Option Document)}
    (indexed : indexAll workspace sources = .ok entries)
    (same : ∀ path, (entries.foldl store workspace).get? path = workspace.get? path) :
    ∀ source ∈ sources, lacks workspace source = false := by
  intro source member
  by_contra isNew
  obtain ⟨text, last⟩ := exists_lastText?_lacking member
    (Bool.eq_true_of_not_eq_false isNew)
  rcases get?_of_indexAll indexed source.1 with
    ⟨none_, -⟩ | ⟨text, stored, -, isNew, held, made⟩
  · rw [none_] at last
    cases last
  · rw [same] at held
    rw [lacks_eq_false.mpr ⟨stored, held, Stored.hasDigest_of_ofText? made⟩] at isNew
    cases isNew

theorem consistent_of_lacks
    (current : ∀ source ∈ sources, lacks workspace source = false) :
    Consistent sources := by
  intro first inFirst second inSecond same
  obtain ⟨stored, held, hasFirst⟩ := lacks_eq_false.mp (current first inFirst)
  obtain ⟨other, heldOther, hasSecond⟩ := lacks_eq_false.mp (current second inSecond)
  have samePlace : workspace.get? first.1 = workspace.get? second.1 := by
    rw [Workspace.get?, Workspace.get?, same]
  obtain rfl : stored = other :=
    Option.some.inj (held.symm.trans (samePlace.trans heldOther))
  exact Stored.eq_of_hasDigest hasFirst hasSecond

/-! ## Linting -/

variable {linter after : Linter} {outcome : Except Mismatch LintResults}

theorem lint_eq_ok :
    linter.lint sources = .ok (outcome, after) ↔
      ∃ entries, indexAll linter.workspace sources = .ok entries ∧
        after = linter.within (entries.foldl store linter.workspace) ∧
        outcome = after.check (sources.map fun entry => Path.normalize entry.1) := by
  constructor
  · intro linted
    obtain ⟨⟨keys, _⟩, indexes, equal⟩ := Outcome.bind_eq_ok.mp linted
    obtain ⟨rfl, rfl⟩ := Prod.mk.inj (Except.ok.inj equal)
    obtain ⟨entries, indexed, equal⟩ := Outcome.bind_eq_ok.mp indexes
    obtain ⟨rfl, rfl⟩ := Prod.mk.inj (Except.ok.inj equal)
    rw [map_fst_of_indexes (indexes_of_indexAll indexed)]
    exact ⟨entries, indexed, rfl, rfl⟩
  · rintro ⟨entries, indexed, rfl, rfl⟩
    rw [← map_fst_of_indexes (indexes_of_indexAll indexed)]
    simp only [lint, index, indexed]
    rfl

theorem relint_eq_ok :
    linter.relint sources = .ok (outcome, after) ↔
      ∃ entries, reindexAll linter.workspace sources = .ok entries ∧
        after = linter.within (entries.foldl store linter.workspace) ∧
        outcome = after.check (sources.map fun entry => Path.normalize entry.1) := by
  constructor
  · intro linted
    obtain ⟨entries, indexed, equal⟩ := Outcome.bind_eq_ok.mp linted
    obtain ⟨rfl, rfl⟩ := Prod.mk.inj (Except.ok.inj equal)
    rw [map_fst_of_indexes (indexes_of_reindexAll indexed)]
    exact ⟨entries, indexed, rfl, rfl⟩
  · rintro ⟨entries, indexed, rfl, rfl⟩
    rw [← map_fst_of_indexes (indexes_of_reindexAll indexed)]
    simp only [relint, indexed]
    rfl

theorem lint_of_current
    (current : ∀ source ∈ sources, lacks linter.workspace source = false) :
    linter.lint sources =
      .ok (linter.check (sources.map fun entry => Path.normalize entry.1), linter) := by
  have indexed : indexAll linter.workspace sources =
      .ok (sources.map fun entry => (Path.normalize entry.1, none)) := by
    refine Outcome.mapM_eq_ok.mpr (List.forall₂_map_right_iff.mpr ?_)
    refine List.forall₂_same.mpr fun source member => ?_
    have notStale := current source member
    rw [lacks_congr (Path.normalize_normalize source.1).symm, lacks] at notStale
    simp only [indexIfStale, notStale]
    rfl
  have stays (workspace : Workspace) :
      (sources.map fun entry => (Path.normalize entry.1, none)).foldl store workspace =
        workspace := by
    rw [List.foldl_map]
    exact List.foldl_fixed _
  refine lint_eq_ok.mpr ⟨_, indexed, ?_, rfl⟩
  rw [stays]
  rfl

theorem index_eq_error_iff (linter : Linter) (sources : Entries Text Text)
    (error : IndexError) :
    linter.index sources = .error error ↔
      indexAll linter.workspace sources = .error error := by
  simp [index, Outcome.bind_eq_error, pure, Except.pure]

/-- What is skipped could be indexed, so that linting fails as it does when no text
is skipped. -/
theorem lint_eq_error_iff (faithful : Faithful linter.workspace sources)
    (error : IndexError) :
    linter.lint sources = .error error ↔ linter.relint sources = .error error := by
  have linted : linter.lint sources = .error error ↔
      indexAll linter.workspace sources = .error error := by
    rw [← index_eq_error_iff]
    simp [lint, Outcome.bind_eq_error, pure, Except.pure]
  have relinted : linter.relint sources = .error error ↔
      reindexAll linter.workspace sources = .error error := by
    simp [relint, Outcome.bind_eq_error, pure, Except.pure]
  rw [linted, relinted]
  refine Outcome.mapM_eq_error_congr (fun source member error => ?_) error
  have sameKey : lacks linter.workspace (Path.normalize source.1, source.2) =
      lacks linter.workspace source := lacks_congr (Path.normalize_normalize source.1)
  simp only [Outcome.bind_eq_error, pure, Except.pure, reduceCtorEq, and_false,
    exists_false, or_false]
  rw [indexIfStale]
  split
  · cases Document.index linter.workspace.dialect source.2 <;> simp [Except.map]
  · rename_i current
    have skipped : lacks linter.workspace source = false :=
      sameKey.symm.trans (Bool.eq_false_iff.mpr current)
    obtain ⟨stored, held, hasDigest⟩ := lacks_eq_false.mp skipped
    have made := faithful source member stored held hasDigest
    obtain ⟨document, indexed, -⟩ := Option.map_eq_some_iff.mp made
    simp [Outcome.toOption_eq_some.mp indexed]

/-- Whether linting stores what it stores when no text is skipped. -/
theorem get?_lint_iff_lastDecides (faithful : Faithful linter.workspace sources)
    {other : Linter} {otherOutcome : Except Mismatch LintResults}
    (linted : linter.lint sources = .ok (outcome, after))
    (relinted : linter.relint sources = .ok (otherOutcome, other)) :
    (∀ path, after.workspace.get? path = other.workspace.get? path) ↔
      LastDecides linter.workspace sources := by
  obtain ⟨entries, indexed, rfl, -⟩ := lint_eq_ok.mp linted
  obtain ⟨others, reindexed, rfl, -⟩ := relint_eq_ok.mp relinted
  have stores (path : Text) : (others.foldl store linter.workspace).get? path =
      (lastText? sources path).elim (linter.workspace.get? path)
        (Stored.ofText? linter.workspace.dialect) := by
    rw [get?_foldl_store (indexes_of_reindexAll reindexed),
      List.filter_eq_self.mpr fun _ _ => rfl]
  have remains (path : Text) : (entries.foldl store linter.workspace).get? path =
      (lastText? (lacking linter.workspace sources) path).elim
        (linter.workspace.get? path) (Stored.ofText? linter.workspace.dialect) :=
    get?_foldl_store (indexes_of_indexAll indexed) linter.workspace path
  constructor
  · intro same path last isLast current
    rcases get?_of_indexAll indexed path with
      ⟨none_, -⟩ | ⟨text, stored, -, isNew, held, made⟩
    · exact none_
    · have madeLast := (stores path).symm.trans ((same path).symm.trans held)
      rw [isLast, Option.elim_some] at madeLast
      have sameDigest := Stored.eq_of_hasDigest (Stored.hasDigest_of_ofText? made)
        (Stored.hasDigest_of_ofText? madeLast)
      rw [lacks, sameDigest] at isNew
      exact absurd (isNew.symm.trans current) (by decide)
  · intro decides path
    refine (remains path).trans (Eq.trans ?_ (stores path).symm)
    cases isLast : lastText? sources path with
    | none => rw [lastText?_lacking_eq_none isLast]
    | some last =>
        cases isNew : lacks linter.workspace (path, last) with
        | true => rw [lastText?_lacking isLast isNew]
        | false =>
            obtain ⟨stored, held, hasDigest⟩ := lacks_eq_false.mp isNew
            obtain ⟨entry, member, sameKey, rfl⟩ := exists_of_lastText? isLast
            have heldHere : linter.workspace.get? entry.1 = some stored := by
              rwa [Workspace.get?, sameKey]
            rw [decides path _ isLast isNew, Option.elim_none, Option.elim_some, held,
              faithful entry member stored heldHere hasDigest]

/-- Linting stores what is faithful to the texts that were linted, and to other texts
with other digests. -/
theorem Faithful.lint {others : Entries Text Text}
    (faithful : Faithful linter.workspace others)
    (distinct : ∀ source ∈ sources, ∀ other ∈ others,
      Digest.ofText source.2 = Digest.ofText other.2 → source.2 = other.2)
    (linted : linter.lint sources = .ok (outcome, after)) :
    Faithful after.workspace others := by
  obtain ⟨entries, indexed, rfl, -⟩ := lint_eq_ok.mp linted
  intro other member stored held hasDigest
  rw [Linter.within, dialect_foldl_store]
  rcases get?_of_indexAll indexed other.1 with
    ⟨-, stays⟩ | ⟨text, renewed, last, -, heldNew, made⟩
  · exact faithful other member stored (stays.symm.trans held) hasDigest
  · obtain rfl : renewed = stored := Option.some.inj (heldNew.symm.trans held)
    obtain ⟨source, inLacking, -, rfl⟩ := exists_of_lastText? last
    rwa [← distinct source (List.mem_filter.mp inLacking).1 other member
      (Stored.digest_of_ofText? made hasDigest)]

theorem lastDecides_of_consistent (workspace : Workspace)
    (consistent : Consistent sources) : LastDecides workspace sources := by
  intro path last isLast current
  cases isNew : lastText? (lacking workspace sources) path with
  | none => rfl
  | some text =>
      obtain ⟨first, inSources, sameFirst, rfl⟩ := exists_of_lastText? isLast
      obtain ⟨second, inLacking, sameSecond, rfl⟩ := exists_of_lastText? isNew
      obtain ⟨member, lacked⟩ := List.mem_filter.mp inLacking
      have sameDigest := consistent first inSources second member
        (sameFirst.trans sameSecond.symm)
      rw [← lacks_congr sameSecond, lacks, sameDigest] at current
      exact absurd (current.symm.trans lacked) (by decide)

/-- Behind the first linting of some texts, skipping agrees with indexing all of them
again only if texts for the same document have the same digest. -/
theorem consistent_of_lastDecides
    (allNew : ∀ source ∈ sources, lacks linter.workspace source = true)
    (linted : linter.lint sources = .ok (outcome, after))
    (decides : LastDecides after.workspace sources) : Consistent sources := by
  obtain ⟨entries, indexed, rfl, -⟩ := lint_eq_ok.mp linted
  have isAll : lacking linter.workspace sources = sources :=
    List.filter_eq_self.mpr allNew
  refine consistent_of_lacks
    (show ∀ source ∈ sources, lacks (entries.foldl store linter.workspace) source = false
      from fun source member => ?_)
  by_contra isNew
  obtain ⟨text, lastNew⟩ := exists_lastText?_lacking member
    (Bool.eq_true_of_not_eq_false isNew)
  rcases get?_of_indexAll indexed source.1 with
    ⟨none_, -⟩ | ⟨last, stored, isLast, -, held, made⟩
  · obtain ⟨text, some_⟩ := exists_lastText?_lacking member (allNew source member)
    rw [none_] at some_
    cases some_
  · rw [isAll] at isLast
    have current := lacks_eq_false.mpr ⟨stored, held, Stored.hasDigest_of_ofText? made⟩
    have none_ := decides source.1 last isLast current
    exact absurd (none_.symm.trans lastNew) (by simp)

/-- Linting the same texts again gives the same results and changes nothing if texts
for the same document have the same digest; if they do not, it does not even leave
the documents as they are.  Skipping the texts that the workspace has agrees with
indexing all of them, in their order, exactly if the workspace lacks the last text for
a document wherever it lacks any. -/
theorem lint_again_iff_consistent (linter : Linter) (sources : Entries Text Text) :
    (∀ outcome after, linter.lint sources = .ok (outcome, after) →
      (Consistent sources → after.lint sources = .ok (outcome, after)) ∧
      ((∃ outcome' after', after.lint sources = .ok (outcome', after') ∧
        ∀ path, after'.workspace.get? path = after.workspace.get? path) →
          Consistent sources)) ∧
    (Faithful linter.workspace sources →
      (∀ error, linter.lint sources = .error error ↔
        linter.relint sources = .error error) ∧
      ∀ outcome after outcome' other,
        linter.lint sources = .ok (outcome, after) →
        linter.relint sources = .ok (outcome', other) →
        ((∀ path, after.workspace.get? path = other.workspace.get? path) ↔
          LastDecides linter.workspace sources) ∧
        (LastDecides linter.workspace sources → outcome = outcome')) ∧
    (Consistent sources → LastDecides linter.workspace sources) := by
  refine ⟨fun outcome after linted => ⟨fun consistent => ?_, ?_⟩, fun faithful => ?_,
    lastDecides_of_consistent linter.workspace⟩
  · obtain ⟨entries, indexed, rfl, rfl⟩ := lint_eq_ok.mp linted
    exact lint_of_current (lacks_foldl_store_of_consistent consistent indexed)
  · rintro ⟨outcome', after', again, same⟩
    obtain ⟨entries, indexed, rfl, -⟩ := lint_eq_ok.mp again
    exact consistent_of_lacks (lacks_of_get?_foldl_store indexed same)
  · refine ⟨lint_eq_error_iff faithful, ?_⟩
    intro outcome after outcome' other linted relinted
    have agrees := get?_lint_iff_lastDecides faithful linted relinted
    refine ⟨agrees, fun decides => ?_⟩
    have same := agrees.mpr decides
    obtain ⟨entries, -, rfl, rfl⟩ := lint_eq_ok.mp linted
    obtain ⟨others, -, rfl, rfl⟩ := relint_eq_ok.mp relinted
    exact check_congr fun key _ =>
      checkAt_congr linter (same key) fun _ _ target _ => same target

/-- Two spellings of one path with different texts: linting again replaces the
document, which indexing both texts would not do.  With the same text for both, it
changes nothing. -/
theorem lint_again_iff_consistent_spellings :
    let start := fresh {} true .github
    let one := "[x](#one)\n".toList
    let two := "[x](#two)\n".toList
    let mixed := [("a.md".toList, one), ("./a.md".toList, two)]
    let alike := [("a.md".toList, one), ("./a.md".toList, one)]
    (∃ outcome after, start.lint mixed = .ok (outcome, after) ∧
      (¬ ∃ outcome' after', after.lint mixed = .ok (outcome', after') ∧
        ∀ path, after'.workspace.get? path = after.workspace.get? path) ∧
      ∃ outcome' after' outcome'' other,
        after.lint mixed = .ok (outcome', after') ∧
        after.relint mixed = .ok (outcome'', other) ∧
        ¬ ∀ path, after'.workspace.get? path = other.workspace.get? path) ∧
    ∃ outcome after, start.lint alike = .ok (outcome, after) ∧
      after.lint alike = .ok (outcome, after) := by
  intro start one two mixed alike
  have lints (linter : Linter) (isGithub : linter.workspace.dialect = .github)
      (sources : Entries Text Text)
      (possible : ∀ entry ∈ sources, Document.CanIndex .github entry.2) :
      ∃ outcome after, linter.lint sources = .ok (outcome, after) :=
    ⟨_, _, lint_eq_ok.mpr ⟨_, indexAll_of_possible (isGithub ▸ possible), rfl, rfl⟩⟩
  have possible : ∀ entry ∈ mixed, Document.CanIndex .github entry.2 := by
    decide +kernel
  have different : ¬ Consistent mixed := by decide +kernel
  have same : Consistent alike := by decide +kernel
  obtain ⟨outcome, after, linted⟩ := lints start rfl mixed possible
  obtain ⟨outcome', after', linted'⟩ := lints start rfl alike (by decide +kernel)
  have changes := ((lint_again_iff_consistent start mixed).1 outcome after linted).2
  refine ⟨⟨outcome, after, linted, fun again => different (changes again), ?_⟩,
    outcome', after', linted',
    ((lint_again_iff_consistent start alike).1 outcome' after' linted').1 same⟩
  have faithful : Faithful after.workspace mixed :=
    Faithful.lint (fun _ _ _ held => by cases held) (by decide +kernel) linted
  have isGithub : after.workspace.dialect = .github := by
    obtain ⟨entries, -, rfl, -⟩ := lint_eq_ok.mp linted
    exact dialect_foldl_store _ entries
  obtain ⟨fails, agrees⟩ := (lint_again_iff_consistent after mixed).2.1 faithful
  obtain ⟨_, again, lintedAgain⟩ := lints after isGithub mixed possible
  cases relinted : after.relint mixed with
  | error error =>
      rw [(fails error).mpr relinted] at lintedAgain
      cases lintedAgain
  | ok results =>
      refine ⟨_, again, _, results.2, lintedAgain, rfl, fun same => different ?_⟩
      exact consistent_of_lastDecides (fun _ _ => rfl) linted
        ((agrees _ _ _ _ lintedAgain relinted).1.mp same)

end Linter

end AnchorLint
