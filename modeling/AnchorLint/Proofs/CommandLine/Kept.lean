import AnchorLint.CommandLine.Run
import AnchorLint.Proofs.Lint.Kept

/-!
# Linting with and without a cache

A run with a cache begins with what earlier runs have kept, and keeps what it has
linted itself.  What is kept was indexed by some earlier run from a text of that
time, however many runs lie between.  So two runs in the same place, one with a
cache and one without, report the same, unless the first one sees a document that
the second one does not: old documents are forgotten only when the check is over.
-/

namespace AnchorLint

namespace CommandLine

/-! ## Runs -/

/-- Lints the documents that some paths stand for, with given settings. -/
def lintWith (settings : Settings) (paths : List FilePath) :
    Job LintResults := do
  let console ← get
  let session ←
    Job.enter (Session.startWith console.tree console.root settings)
  lintPaths session paths

def runLintWith (options : CommonOptions) (settings : Settings)
    (paths : List FilePath) (failOn : Severity) : Job Progress := do
  let results ← lintWith settings paths
  showFindings options results
  return .finished (Report.exitCode failOn results)

/-- What a job comes to. -/
def Job.outcome {α : Type} (job : Job α) (console : Console) :
    Except Fault α :=
  (job.run.run console).1

/-- To lint is to do so with the settings that are found. -/
theorem run_lint {options : CommonOptions} {settings : Settings}
    {console : Console}
    (found : Session.loadSettings console.tree console.root
      options.settingsFile options.dialect = .ok settings)
    (paths : List FilePath) (failOn : Severity) :
    (Request.run ⟨options, .lint paths failOn⟩).run.run console =
      (runLintWith options settings paths failOn).run.run console := by
  have begun : Session.start console.tree console.root options.settingsFile
        options.dialect =
      Session.startWith console.tree console.root settings := by
    rw [Session.start, found]
    rfl
  have unfolded : (Request.run ⟨options, .lint paths failOn⟩).run.run console =
      (Job.enter (Session.start console.tree console.root options.settingsFile
        options.dialect) >>= fun session =>
          runLint options session paths failOn).run.run console := rfl
  have unfoldedWith :
      (runLintWith options settings paths failOn).run.run console =
        (Job.enter (Session.startWith console.tree console.root settings) >>=
          fun session => runLint options session paths failOn).run.run
            console := by
    simp only [runLintWith, lintWith, runLint, bind_assoc]
    rfl
  rw [unfolded, begun, unfoldedWith]

/-- Whether a run with given settings reads some texts. -/
def Reads (settings : Settings) (paths : List FilePath) (console : Console)
    (sources : Entries Text Text) : Prop :=
  ∃ session tree log,
    Session.startWith console.tree console.root settings =
      .ok (session, tree, log) ∧
    (session.read tree paths).result.1 = .ok sources

theorem tree_log (console : Console) (entries : List LogEntry) :
    (console.log entries).tree = console.tree := by
  unfold Console.log
  induction entries generalizing console with
  | nil => rfl
  | cons entry entries ih => exact ih _

theorem run_lintPaths (session : Session) (paths : List FilePath)
    (console : Console) :
    (lintPaths session paths).run.run console =
      let (read, log) := (session.read console.tree paths).result
      let behind := console.log log
      match read with
      | .error fault => (.error (.lint (.file fault)), behind)
      | .ok sources =>
        match session.lintOnly sources with
        | .error fault => (.error (.lint fault), behind)
        | .ok (results, session) =>
          (((session.save console.tree).1.mapError .save).map fun _ => results,
            { behind with tree := (session.save console.tree).2 }) := by
  rcases outcome : (session.read console.tree paths).result with ⟨read, log⟩
  have reading : (Job.read session paths).run.run console =
      (read.mapError fun fault => .lint (.file fault), console.log log) := by
    have unfolded : (Job.read session paths).run.run console =
        (Job.ofLogged (session.read console.tree paths)).run.run console := rfl
    rw [unfolded, Job.ofLogged, outcome]
    cases read <;> rfl
  rw [lintPaths, Outcome.run_bind, reading]
  cases read with
  | error fault => rfl
  | ok sources =>
      dsimp only [Except.mapError]
      rw [Outcome.run_bind]
      cases linted : session.lintOnly sources with
      | error fault => rfl
      | ok pair =>
          obtain ⟨results, after⟩ := pair
          have unfolded : ((Job.ofExcept Fault.lint
              (Except.ok (results, after))).run.run (console.log log)) =
            (Except.ok (results, after), console.log log) := rfl
          rw [unfolded]
          dsimp only
          rw [Outcome.run_bind]
          rcases saved : after.save console.tree with ⟨outcome, tree⟩
          have saving : (Job.save after).run.run (console.log log) =
              (outcome.mapError .save,
                { console.log log with tree := tree }) := by
            have unfolded : (Job.save after).run.run (console.log log) =
                (Job.ofExcept Fault.save
                  (after.save (console.log log).tree).1).run.run
                    { console.log log with
                      tree := (after.save (console.log log).tree).2 } := rfl
            rw [unfolded, tree_log, saved]
            cases outcome <;> rfl
          rw [saving]
          cases outcome <;> rfl

theorem run_lintWith (settings : Settings) (paths : List FilePath)
    (console : Console) :
    (lintWith settings paths).run.run console =
      match Session.startWith console.tree console.root settings with
      | .error error => (.error (.session error), console)
      | .ok (session, tree, log) =>
        (lintPaths session paths).run.run
          ({ console with tree := tree }.log log) := by
  have unfolded : (lintWith settings paths).run.run console =
      (Job.enter (Session.startWith console.tree console.root settings) >>=
        fun session => lintPaths session paths).run.run console := rfl
  rw [unfolded, Outcome.run_bind]
  cases Session.startWith console.tree console.root settings with
  | error error => rfl
  | ok begun =>
      obtain ⟨session, tree, log⟩ := begun
      rfl

/-! ## What runs leave behind -/

/-- Where a run with given settings keeps its workspace. -/
def cacheFile (settings : Settings) (console : Console) : FilePath :=
  Cache.fileIn (console.root.append settings.cacheDirectory)

/-- A run with a cache that succeeds, where all texts that it reads are among
given ones, and the bytes that it leaves in its cache file. -/
structure Leaves (dialect : Dialect) (texts : Set Text) (settings : Settings)
    (paths : List FilePath) (console : Console) (bytes : Bytes) : Prop where
  enabled : settings.cacheEnabled = true
  sameDialect : settings.dialect = dialect
  inTexts : ∀ sources, Reads settings paths console sources →
    ∀ entry ∈ sources, entry.2 ∈ texts
  succeeds : ∃ results after,
    (lintWith settings paths).run.run console = (.ok results, after) ∧
      after.tree.read (cacheFile settings console) = .ok bytes

/-- The bytes that a history of runs with one dialect leaves in a cache file.
The settings, the files and the paths may differ from run to run.  The first run
finds no cache file, or one that is of no use, and each other one finds the bytes
that the run before it has left. -/
inductive Written (dialect : Dialect) (texts : Set Text) : Bytes → Prop where
  | first {settings : Settings} {paths : List FilePath} {console : Console}
      {bytes : Bytes}
      (missing : console.tree.contains (cacheFile settings console) = .ok false)
      (leaves : Leaves dialect texts settings paths console bytes) :
      Written dialect texts bytes
  | anew {settings : Settings} {paths : List FilePath} {console : Console}
      {old bytes : Bytes} {reason : Text}
      (held : console.tree.read (cacheFile settings console) = .ok old)
      (useless : Cache.decodeBytes dialect.name old = .error reason)
      (leaves : Leaves dialect texts settings paths console bytes) :
      Written dialect texts bytes
  | again {settings : Settings} {paths : List FilePath} {console : Console}
      {old bytes : Bytes} (written : Written dialect texts old)
      (held : console.tree.read (cacheFile settings console) = .ok old)
      (leaves : Leaves dialect texts settings paths console bytes) :
      Written dialect texts bytes

section

variable {dialect : Dialect} {texts : Set Text}

theorem firstWorkspace_of_missing {tree : FileTree} {directory : FilePath}
    (missing : tree.contains (Cache.fileIn directory) = .ok false) :
    Session.firstWorkspace tree dialect (some directory) =
      .ok ({ dialect := dialect }, tree, []) := by
  rw [Session.firstWorkspace, Cache.load_of_missing missing]

theorem firstWorkspace_of_useless {tree after : FileTree}
    {directory : FilePath} {old : Bytes} {reason : Text}
    {workspace : Workspace} {log : List LogEntry}
    (held : tree.read (Cache.fileIn directory) = .ok old)
    (useless : Cache.decodeBytes dialect.name old = .error reason)
    (begun : Session.firstWorkspace tree dialect (some directory) =
      .ok (workspace, after, log)) :
    workspace = { dialect := dialect } := by
  rw [Session.firstWorkspace] at begun
  cases loaded : Cache.load tree directory dialect.name with
  | error fault => simp [loaded] at begun
  | ok found =>
      obtain ⟨left, remark, rfl⟩ := Cache.discarded_of_read held useless loaded
      rw [loaded] at begun
      exact (Prod.mk.inj (Except.ok.inj begun)).1.symm

theorem firstWorkspace_of_holds {tree : FileTree} {directory : FilePath}
    {bytes : Bytes} (holds : Cache.Holds dialect texts bytes)
    (held : tree.read (Cache.fileIn directory) = .ok bytes) :
    ∃ workspace, Session.firstWorkspace tree dialect (some directory) =
        .ok (workspace, tree, []) ∧
      workspace.IsKept dialect texts := by
  obtain ⟨records, workspace, decoded, made, kept⟩ := holds
  refine ⟨workspace, ?_, kept⟩
  rw [Session.firstWorkspace, Cache.load_of_read held decoded]
  dsimp only
  rw [made]

theorem startWith_eq (tree : FileTree) (root : FilePath)
    (settings : Settings) :
    Session.startWith tree root settings =
      (Session.firstWorkspace tree settings.dialect
        (settings.cacheDirectoryIn? root)).map fun begun =>
          (Session.make root settings begun.1, begun.2.1, begun.2.2) := by
  rw [Session.startWith]
  cases Session.firstWorkspace tree settings.dialect
    (settings.cacheDirectoryIn? root) <;> rfl

theorem exists_of_lintOnly {session after : Session}
    {sources : Entries Text Text} {results : LintResults}
    (linted : session.lintOnly sources = .ok (results, after)) :
    ∃ linter, session.linter.lint sources = .ok (.ok results, linter) ∧
      after = Session.retain { session with linter := linter }
        (sources.map Prod.fst) := by
  obtain ⟨⟨found, between⟩, lint, equal⟩ := Outcome.bind_eq_ok.mp linted
  obtain ⟨rfl, rfl⟩ := Prod.mk.inj (Except.ok.inj equal)
  obtain ⟨⟨checked, linter⟩, ran, more⟩ := Outcome.bind_eq_ok.mp lint
  obtain ⟨other, succeeds, same⟩ := Outcome.bind_eq_ok.mp more
  obtain ⟨rfl, rfl⟩ := Prod.mk.inj (Except.ok.inj same)
  refine ⟨linter, ?_, rfl⟩
  rw [Outcome.mapError_eq_ok.mp ran, Outcome.mapError_eq_ok.mp succeeds]

theorem exists_of_save {session : Session} {tree : FileTree}
    {directory : FilePath} (kept : session.cacheDirectory = some directory)
    (saved : (session.save tree).1 = .ok ()) :
    ∃ target, session.workspace.save tree directory =
      (.ok target, (session.save tree).2) := by
  unfold Session.save at saved ⊢
  rw [kept] at saved ⊢
  dsimp only at saved ⊢
  obtain ⟨target, done, -⟩ := Outcome.map_eq_ok.mp saved
  exact ⟨target, Prod.ext done rfl⟩

/-- A run that begins with a kept workspace leaves one that can be kept. -/
theorem holds_of_leaves {settings : Settings} {paths : List FilePath}
    {console : Console} {bytes : Bytes}
    (injective : Set.InjOn Digest.ofText texts)
    (leaves : Leaves dialect texts settings paths console bytes)
    (start : ∀ workspace tree log,
      Session.firstWorkspace console.tree dialect
          (some (console.root.append settings.cacheDirectory)) =
        .ok (workspace, tree, log) →
      workspace.IsKept dialect texts) :
    Cache.Holds dialect texts bytes := by
  obtain ⟨results, after, ran, left⟩ := leaves.succeeds
  have directory : settings.cacheDirectoryIn? console.root =
      some (console.root.append settings.cacheDirectory) := by
    rw [Settings.cacheDirectoryIn?, leaves.enabled, if_pos rfl]
  rw [run_lintWith, startWith_eq, leaves.sameDialect, directory] at ran
  cases begun : Session.firstWorkspace console.tree dialect
      (some (console.root.append settings.cacheDirectory)) with
  | error error =>
      rw [begun] at ran
      exact absurd (congrArg Prod.fst ran) (by simp [Except.map])
  | ok found =>
      obtain ⟨workspace, tree, log⟩ := found
      have kept := start workspace tree log begun
      simp only [begun, Except.map, run_lintPaths, tree_log] at ran
      rcases outcome : ((Session.make console.root settings workspace).read tree
        paths).result with ⟨read, remarks⟩
      rw [outcome] at ran
      cases read with
      | error fault => exact absurd (congrArg Prod.fst ran) (by simp)
      | ok sources =>
          have inTexts := leaves.inTexts sources ⟨_, tree, log, by
            rw [startWith_eq, leaves.sameDialect, directory, begun]
            rfl, congrArg Prod.fst outcome⟩
          dsimp only at ran
          cases linted : (Session.make console.root settings
              workspace).lintOnly sources with
          | error fault =>
              rw [linted] at ran
              exact absurd (congrArg Prod.fst ran) (by simp)
          | ok pair =>
              obtain ⟨found, behind⟩ := pair
              rw [linted] at ran
              obtain ⟨succeeds, rfl⟩ := Prod.mk.inj ran
              obtain ⟨linter, checked, rfl⟩ := exists_of_lintOnly linted
              have keptAfter : linter.workspace.IsKept dialect texts :=
                Linter.isKept_of_lint kept injective inTexts checked
              obtain ⟨_, saved, -⟩ := Outcome.map_eq_ok.mp succeeds
              obtain ⟨target, done⟩ := exists_of_save
                (show _ = some _ from directory) (Outcome.mapError_eq_ok.mp saved)
              obtain ⟨written, held, holds⟩ :=
                (keptAfter.retain (sources.map Prod.fst)).holds_of_save done
              obtain rfl := Except.ok.inj (held.symm.trans left)
              exact holds

theorem Written.holds {bytes : Bytes}
    (injective : Set.InjOn Digest.ofText texts)
    (written : Written dialect texts bytes) :
    Cache.Holds dialect texts bytes := by
  induction written with
  | first missing leaves =>
      refine holds_of_leaves injective leaves fun workspace tree log begun => ?_
      rw [firstWorkspace_of_missing missing] at begun
      obtain ⟨rfl, -⟩ := Prod.mk.inj (Except.ok.inj begun)
      exact .empty dialect texts
  | anew held useless leaves =>
      refine holds_of_leaves injective leaves fun workspace tree log begun => ?_
      obtain rfl := firstWorkspace_of_useless held useless begun
      exact .empty dialect texts
  | again _ held leaves ih =>
      refine holds_of_leaves injective leaves fun workspace tree log begun => ?_
      obtain ⟨kept, known, isKept⟩ := firstWorkspace_of_holds ih held
      obtain ⟨rfl, -⟩ :=
        Prod.mk.inj (Except.ok.inj (begun.symm.trans known))
      exact isKept

end

/-! ## Two runs in the same place -/

theorem lintOnly_of_lint {session : Session} {sources : Entries Text Text}
    {results : LintResults} {linter : Linter}
    (linted : session.linter.lint sources = .ok (.ok results, linter)) :
    session.lintOnly sources = .ok (results,
      Session.retain { session with linter := linter }
        (sources.map Prod.fst)) := by
  simp only [Session.lintOnly, Session.lint, linted]
  rfl

theorem lintOnly_of_error {session : Session} {sources : Entries Text Text}
    {error : IndexError} (fails : session.linter.lint sources = .error error) :
    session.lintOnly sources = .error (.index error) := by
  simp only [Session.lintOnly, Session.lint, fails]
  rfl

theorem outcome_lintWith {settings : Settings} {console : Console}
    {session : Session}
    (begun : Session.startWith console.tree console.root settings =
      .ok (session, console.tree, [])) (paths : List FilePath) :
    (lintWith settings paths).outcome console =
      match (session.read console.tree paths).result.1 with
      | .error fault => .error (.lint (.file fault))
      | .ok sources =>
        match session.lintOnly sources with
        | .error fault => .error (.lint fault)
        | .ok (results, after) =>
          ((after.save console.tree).1.mapError .save).map fun _ => results := by
  rw [Job.outcome, run_lintWith, begun]
  dsimp only
  rw [run_lintPaths]
  have unchanged : ({ console with tree := console.tree }.log []) = console :=
    rfl
  rw [unchanged]
  rcases (session.read console.tree paths).result with ⟨read, log⟩
  cases read with
  | error fault => rfl
  | ok sources =>
      dsimp only
      cases session.lintOnly sources <;> rfl

/-- What findings are shown for does not depend on the console. -/
theorem exists_outcome_showFindings (options : CommonOptions)
    (results : LintResults) :
    ∃ shown, ∀ console, (showFindings options results).outcome console =
      shown := by
  unfold showFindings
  split
  · cases line : Report.findingsJson results with
    | error error => exact ⟨.error (.report error), fun _ => rfl⟩
    | ok text => exact ⟨.ok (), fun _ => rfl⟩
  · split
    · exact ⟨.ok (), fun _ => rfl⟩
    · unfold Job.printAll
      rcases Job.untilFailure
          ((Report.allFindings results).map ReportedFinding.write) with
        ⟨printed, failure⟩
      cases failure with
      | none => exact ⟨.ok (), fun _ => rfl⟩
      | some error => exact ⟨.error (.report error), fun _ => rfl⟩

/-- The exit code of a run follows from its results. -/
theorem outcome_runLintWith (options : CommonOptions) (failOn : Severity) :
    ∃ finish : LintResults → Except Fault Progress,
      ∀ settings paths console,
        (runLintWith options settings paths failOn).outcome console =
          (lintWith settings paths).outcome console >>= finish := by
  choose shown shows using exists_outcome_showFindings options
  refine ⟨fun results => (shown results).map fun _ =>
    .finished (Report.exitCode failOn results), fun settings paths console => ?_⟩
  rw [Job.outcome, Job.outcome, runLintWith, Outcome.run_bind]
  rcases (lintWith settings paths).run.run console with ⟨linted, after⟩
  cases linted with
  | error fault => rfl
  | ok results =>
      dsimp only
      rw [Outcome.run_bind]
      have finish : (Except.ok results >>= fun results =>
          (shown results).map fun _ =>
            Progress.finished (Report.exitCode failOn results)) =
          ((showFindings options results).outcome after).map fun _ =>
            Progress.finished (Report.exitCode failOn results) := by
        rw [shows results after]
        rfl
      rw [finish, Job.outcome]
      rcases (showFindings options results).run.run after with ⟨outcome, behind⟩
      cases outcome <;> rfl

theorem reads_unique {settings : Settings} {paths : List FilePath}
    {console : Console} {first second : Entries Text Text}
    (left : Reads settings paths console first)
    (right : Reads settings paths console second) : first = second := by
  obtain ⟨session, tree, log, begun, read⟩ := left
  obtain ⟨other, treeOther, logOther, begunOther, readOther⟩ := right
  obtain ⟨rfl, same⟩ := Prod.mk.inj (Except.ok.inj (begun.symm.trans begunOther))
  obtain ⟨rfl, -⟩ := Prod.mk.inj same
  exact Except.ok.inj (read.symm.trans readOther)

section

variable {texts : Set Text} {settings : Settings} {paths : List FilePath}
  {console : Console} {workspace : Workspace}

/-- Sessions with and without a kept workspace fail alike, or both succeed and
agree exactly if no link is stray.  The latter has nothing to save. -/
theorem lintOnly_cases {root : FilePath}
    (kept : workspace.IsKept settings.dialect texts)
    (injective : Set.InjOn Digest.ofText texts) {sources : Entries Text Text}
    (inTexts : ∀ entry ∈ sources, entry.2 ∈ texts)
    (unmasked : Linter.IsUnmasked workspace sources) :
    let session := Session.make root settings workspace
    let without := Session.make root { settings with cacheEnabled := false }
      { dialect := settings.dialect }
    (∃ fault, session.lintOnly sources = .error fault ∧
      without.lintOnly sources = .error fault) ∨
    ∃ results other after afterWithout,
      session.lintOnly sources = .ok (other, after) ∧
      without.lintOnly sources = .ok (results, afterWithout) ∧
      (∀ tree, (afterWithout.save tree).1 = .ok ()) ∧
      (other = results ↔
        ¬ Linter.HasStray settings.dialect
          (RuleSet.select settings.footnotes settings.disabled)
          settings.crossFile workspace (Linter.overlay [] sources)) := by
  intro session without
  rcases Linter.lint_eq_iff
      (RuleSet.select settings.footnotes settings.disabled)
      settings.crossFile kept injective inTexts unmasked with
    ⟨error, failsWithout, fails⟩ |
    ⟨results, other, _, _, lintedWithout, linted, agree⟩
  · exact .inl ⟨.index error, lintOnly_of_error fails,
      lintOnly_of_error failsWithout⟩
  · exact .inr ⟨results, other, _, _, lintOnly_of_lint linted,
      lintOnly_of_lint lintedWithout, fun _ => rfl, agree⟩

/-- A run that begins with a kept workspace and the same run without it fail
alike, or the latter succeeds; then the former may fail to save its workspace,
and if it does not the results agree exactly if no link is stray. -/
theorem outcome_cases
    (loaded : Session.firstWorkspace console.tree settings.dialect
        (settings.cacheDirectoryIn? console.root) =
      .ok (workspace, console.tree, []))
    (kept : workspace.IsKept settings.dialect texts)
    (injective : Set.InjOn Digest.ofText texts)
    (inTexts : ∀ sources, Reads settings paths console sources →
      ∀ entry ∈ sources, entry.2 ∈ texts)
    (unmasked : ∀ sources, Reads settings paths console sources →
      Linter.IsUnmasked workspace sources) :
    let outcome := (lintWith settings paths).outcome console
    let outcomeWithout := (lintWith { settings with cacheEnabled := false }
      paths).outcome console
    (∃ fault, outcome = .error fault ∧ outcomeWithout = .error fault) ∨
    ∃ sources results, Reads settings paths console sources ∧
      outcomeWithout = .ok results ∧
      ((∃ error, outcome = .error (.save error)) ∨
        ∃ other, outcome = .ok other ∧
          (other = results ↔
            ¬ Linter.HasStray settings.dialect
              (RuleSet.select settings.footnotes settings.disabled)
              settings.crossFile workspace (Linter.overlay [] sources))) := by
  have begun : Session.startWith console.tree console.root settings =
      .ok (Session.make console.root settings workspace, console.tree, []) := by
    rw [startWith_eq, loaded]
    rfl
  have begunWithout : Session.startWith console.tree console.root
        { settings with cacheEnabled := false } =
      .ok (Session.make console.root { settings with cacheEnabled := false }
        { dialect := settings.dialect }, console.tree, []) := rfl
  have sameReading : (Session.make console.root
        { settings with cacheEnabled := false }
        { dialect := settings.dialect }).read console.tree paths =
      (Session.make console.root settings workspace).read console.tree paths :=
    rfl
  dsimp only
  rw [outcome_lintWith begun, outcome_lintWith begunWithout, sameReading]
  cases read : ((Session.make console.root settings workspace).read console.tree
      paths).result.1 with
  | error fault => exact .inl ⟨_, rfl, rfl⟩
  | ok sources =>
      have reads : Reads settings paths console sources :=
        ⟨_, _, _, begun, read⟩
      dsimp only
      rcases lintOnly_cases kept injective (inTexts sources reads)
          (unmasked sources reads) with
        ⟨fault, fails, failsWithout⟩ |
        ⟨results, other, after, _, linted, lintedWithout, saves, agree⟩
      · rw [fails, failsWithout]
        exact .inl ⟨.lint fault, rfl, rfl⟩
      · rw [linted, lintedWithout]
        dsimp only
        rw [saves]
        refine .inr ⟨sources, results, reads, rfl, ?_⟩
        cases (after.save console.tree).1 with
        | error error => exact .inl ⟨error, rfl⟩
        | ok => exact .inr ⟨other, rfl, agree⟩

/-- The two runs come to the same exactly if the one without a kept workspace
fails, or the other one can save its workspace and no link is stray. -/
theorem outcome_eq_iff
    (loaded : Session.firstWorkspace console.tree settings.dialect
        (settings.cacheDirectoryIn? console.root) =
      .ok (workspace, console.tree, []))
    (kept : workspace.IsKept settings.dialect texts)
    (injective : Set.InjOn Digest.ofText texts)
    (inTexts : ∀ sources, Reads settings paths console sources →
      ∀ entry ∈ sources, entry.2 ∈ texts)
    (unmasked : ∀ sources, Reads settings paths console sources →
      Linter.IsUnmasked workspace sources) :
    let outcome := (lintWith settings paths).outcome console
    let outcomeWithout := (lintWith { settings with cacheEnabled := false }
      paths).outcome console
    outcome = outcomeWithout ↔
      ∀ results, outcomeWithout = .ok results →
        (∀ error, outcome ≠ .error (.save error)) ∧
        ∀ sources, Reads settings paths console sources →
          ¬ Linter.HasStray settings.dialect
            (RuleSet.select settings.footnotes settings.disabled)
            settings.crossFile workspace (Linter.overlay [] sources) := by
  intro outcome outcomeWithout
  rcases outcome_cases loaded kept injective inTexts unmasked with
    ⟨fault, fails, failsWithout⟩ |
    ⟨sources, results, reads, succeeds, ⟨error, unsaved⟩ |
      ⟨other, saved, agree⟩⟩
  · refine iff_of_true (fails.trans failsWithout.symm) fun results succeeds => ?_
    exact absurd (failsWithout.symm.trans succeeds) nofun
  · refine iff_of_false (fun equal => ?_) fun agrees =>
      (agrees results succeeds).1 error unsaved
    exact absurd (unsaved.symm.trans (equal.trans succeeds)) nofun
  · constructor
    · intro equal found same
      refine ⟨fun _ fails => absurd (saved.symm.trans fails) nofun,
        fun others readsOthers => ?_⟩
      obtain rfl := reads_unique reads readsOthers
      exact agree.mp (Except.ok.inj (saved.symm.trans (equal.trans succeeds)))
    · intro agrees
      have same := agree.mpr ((agrees results succeeds).2 sources reads)
      exact saved.trans ((congrArg Except.ok same).trans succeeds.symm)

/-- Only to save the workspace can fail in the one run and not in the other. -/
theorem fault_cases
    (loaded : Session.firstWorkspace console.tree settings.dialect
        (settings.cacheDirectoryIn? console.root) =
      .ok (workspace, console.tree, []))
    (kept : workspace.IsKept settings.dialect texts)
    (injective : Set.InjOn Digest.ofText texts)
    (inTexts : ∀ sources, Reads settings paths console sources →
      ∀ entry ∈ sources, entry.2 ∈ texts)
    (unmasked : ∀ sources, Reads settings paths console sources →
      Linter.IsUnmasked workspace sources) {fault : Fault}
    (fails : (lintWith settings paths).outcome console = .error fault) :
    (lintWith { settings with cacheEnabled := false } paths).outcome console =
        .error fault ∨
      ∃ error, fault = .save error := by
  rcases outcome_cases loaded kept injective inTexts unmasked with
    ⟨other, failsHere, failsWithout⟩ |
    ⟨_, _, _, _, ⟨error, unsaved⟩ | ⟨_, saved, _⟩⟩
  · obtain rfl := Except.error.inj (fails.symm.trans failsHere)
    exact .inl failsWithout
  · exact .inr ⟨error, Except.error.inj (fails.symm.trans unsaved)⟩
  · exact absurd (fails.symm.trans saved) nofun

/-- A run begins with a kept workspace, whatever history of runs has written its
cache. -/
theorem exists_firstWorkspace (enabled : settings.cacheEnabled = true)
    (history :
      console.tree.contains (cacheFile settings console) = .ok false ∨
        ∃ bytes, Written settings.dialect texts bytes ∧
          console.tree.read (cacheFile settings console) = .ok bytes)
    (injective : Set.InjOn Digest.ofText texts) :
    ∃ workspace,
      Session.firstWorkspace console.tree settings.dialect
          (settings.cacheDirectoryIn? console.root) =
        .ok (workspace, console.tree, []) ∧
      workspace.IsKept settings.dialect texts := by
  have directory : settings.cacheDirectoryIn? console.root =
      some (console.root.append settings.cacheDirectory) := by
    rw [Settings.cacheDirectoryIn?, enabled, if_pos rfl]
  rw [directory]
  rcases history with missing | ⟨bytes, written, held⟩
  · exact ⟨_, firstWorkspace_of_missing missing, .empty _ _⟩
  · exact firstWorkspace_of_holds (written.holds injective) held

theorem outcome_runLintWith_congr {settings other : Settings}
    (equal : (lintWith settings paths).outcome console =
      (lintWith other paths).outcome console)
    (options : CommonOptions) (failOn : Severity) :
    (runLintWith options settings paths failOn).outcome console =
      (runLintWith options other paths failOn).outcome console := by
  obtain ⟨finish, finishes⟩ := outcome_runLintWith options failOn
  rw [finishes, finishes, equal]

end

/-- A run with a cache agrees with the run without it exactly if it can save its
workspace and no link is stray, provided that the latter succeeds at all; else
both fail alike.  The cache may have been written by any history of runs with the
same dialect, whose texts digests tell apart. -/
theorem lint_agrees_iff {texts : Set Text} {settings : Settings}
    {paths : List FilePath} {console : Console}
    (enabled : settings.cacheEnabled = true)
    (history :
      console.tree.contains (cacheFile settings console) = .ok false ∨
        ∃ bytes, Written settings.dialect texts bytes ∧
          console.tree.read (cacheFile settings console) = .ok bytes)
    (injective : Set.InjOn Digest.ofText texts)
    (inTexts : ∀ sources, Reads settings paths console sources →
      ∀ entry ∈ sources, entry.2 ∈ texts) :
    let without := { settings with cacheEnabled := false }
    let rules := RuleSet.select settings.footnotes settings.disabled
    let outcome := (lintWith settings paths).outcome console
    let outcomeWithout := (lintWith without paths).outcome console
    ∃ workspace,
      Session.firstWorkspace console.tree settings.dialect
          (settings.cacheDirectoryIn? console.root) =
        .ok (workspace, console.tree, []) ∧
      ((∀ sources, Reads settings paths console sources →
          Linter.IsUnmasked workspace sources) →
        (outcome = outcomeWithout ↔
          ∀ results, outcomeWithout = .ok results →
            (∀ error, outcome ≠ .error (.save error)) ∧
            ∀ sources, Reads settings paths console sources →
              ¬ Linter.HasStray settings.dialect rules settings.crossFile
                workspace (Linter.overlay [] sources)) ∧
        (∀ fault, outcome = .error fault →
          outcomeWithout = .error fault ∨ ∃ error, fault = .save error) ∧
        (outcome = outcomeWithout → ∀ options failOn,
          (runLintWith options settings paths failOn).outcome console =
            (runLintWith options without paths failOn).outcome console)) := by
  intro without rules outcome outcomeWithout
  obtain ⟨workspace, loaded, kept⟩ :=
    exists_firstWorkspace enabled history injective
  refine ⟨workspace, loaded, fun unmasked => ⟨?_, ?_, ?_⟩⟩
  · exact outcome_eq_iff loaded kept injective inTexts unmasked
  · exact fun fault => fault_cases loaded kept injective inTexts unmasked
  · exact outcome_runLintWith_congr

/-- The options say how to show findings, whatever file the settings come from. -/
theorem runLintWith_congr {options other : CommonOptions}
    (sameJson : other.json = options.json)
    (sameQuiet : other.quiet = options.quiet) (settings : Settings)
    (paths : List FilePath) (failOn : Severity) :
    runLintWith other settings paths failOn =
      runLintWith options settings paths failOn := by
  simp only [runLintWith, showFindings, sameJson, sameQuiet]

/-- Two requests to lint the same paths, whose settings files differ in the cache
only, finish alike if the workspace can be saved and no link is stray. -/
theorem requests_agree {texts : Set Text} {options optionsWithout : CommonOptions}
    {settings : Settings} {paths : List FilePath} {console : Console}
    (found : Session.loadSettings console.tree console.root
      options.settingsFile options.dialect = .ok settings)
    (foundWithout : Session.loadSettings console.tree console.root
        optionsWithout.settingsFile optionsWithout.dialect =
      .ok { settings with cacheEnabled := false })
    (sameJson : optionsWithout.json = options.json)
    (sameQuiet : optionsWithout.quiet = options.quiet)
    (enabled : settings.cacheEnabled = true)
    (history :
      console.tree.contains (cacheFile settings console) = .ok false ∨
        ∃ bytes, Written settings.dialect texts bytes ∧
          console.tree.read (cacheFile settings console) = .ok bytes)
    (injective : Set.InjOn Digest.ofText texts)
    (inTexts : ∀ sources, Reads settings paths console sources →
      ∀ entry ∈ sources, entry.2 ∈ texts)
    (saves : ∀ error,
      (lintWith settings paths).outcome console ≠ .error (.save error)) :
    ∃ workspace,
      Session.firstWorkspace console.tree settings.dialect
          (settings.cacheDirectoryIn? console.root) =
        .ok (workspace, console.tree, []) ∧
      ((∀ sources, Reads settings paths console sources →
          Linter.IsUnmasked workspace sources ∧
          ¬ Linter.HasStray settings.dialect
            (RuleSet.select settings.footnotes settings.disabled)
            settings.crossFile workspace (Linter.overlay [] sources)) →
        ∀ failOn,
          (Request.run ⟨options, .lint paths failOn⟩).outcome console =
            (Request.run ⟨optionsWithout, .lint paths failOn⟩).outcome
              console) := by
  obtain ⟨workspace, loaded, kept⟩ :=
    exists_firstWorkspace enabled history injective
  refine ⟨workspace, loaded, fun sound failOn => ?_⟩
  have equal := (outcome_eq_iff loaded kept injective inTexts
    fun sources reads => (sound sources reads).1).mpr fun _ _ =>
      ⟨saves, fun sources reads => (sound sources reads).2⟩
  rw [Job.outcome, Job.outcome, run_lint found, run_lint foundWithout,
    runLintWith_congr sameJson sameQuiet]
  exact outcome_runLintWith_congr equal options failOn

/-! ## A stray link -/

/-- A document with a link to an anchor that the other one lacks. -/
def linkingText : Text :=
  "[b](b.md#missing)\n".toList

def linkedText : Text :=
  "# B\n".toList

def linkingPath : FilePath :=
  FilePath.parse "a.md".toList

def linkedPath : FilePath :=
  FilePath.parse "b.md".toList

/-- Settings that differ from the standard ones by the cache only. -/
def caching : Settings :=
  { cacheEnabled := true }

def linkedConsole : Console :=
  { tree :=
      { nodes :=
          [ (["a.md".toList], .file (Utf8.encode linkingText)),
            (["b.md".toList], .file (Utf8.encode linkedText)) ] } }

/-- The console once the second document has been linted. -/
def usedConsole : Console :=
  ((lintWith caching [linkedPath]).run.run linkedConsole).2

theorem reads_iff {settings : Settings} {paths : List FilePath}
    {console : Console} {workspace : Workspace} {sources : Entries Text Text}
    (loaded : Session.firstWorkspace console.tree settings.dialect
        (settings.cacheDirectoryIn? console.root) =
      .ok (workspace, console.tree, [])) :
    Reads settings paths console sources ↔
      ((Session.make console.root settings
        { dialect := settings.dialect }).read console.tree paths).result.1 =
          .ok sources := by
  have begun : Session.startWith console.tree console.root settings =
      .ok (Session.make console.root settings workspace, console.tree, []) := by
    rw [startWith_eq, loaded]
    rfl
  constructor
  · rintro ⟨session, tree, log, begunHere, read⟩
    obtain ⟨rfl, same⟩ :=
      Prod.mk.inj (Except.ok.inj (begun.symm.trans begunHere))
    obtain ⟨rfl, -⟩ := Prod.mk.inj same
    exact read
  · exact fun read => ⟨_, _, _, begun, read⟩

theorem injOn_linked :
    Set.InjOn Digest.ofText {linkingText, linkedText} := by
  have different : Digest.ofText linkingText ≠ Digest.ofText linkedText := by
    decide +kernel
  rintro first (rfl | rfl) second (rfl | rfl) same
  · rfl
  · exact absurd same different
  · exact absurd same.symm different
  · rfl

/-- Linting the second document leaves a cache file behind. -/
theorem exists_written :
    ∃ bytes, Written caching.dialect {linkingText, linkedText} bytes ∧
      usedConsole.tree.read (cacheFile caching usedConsole) = .ok bytes := by
  have missing : linkedConsole.tree.contains
      (cacheFile caching linkedConsole) = .ok false := by rfl
  have sameRoot : usedConsole.root = linkedConsole.root := by decide +kernel
  have succeeds : ((lintWith caching [linkedPath]).outcome
      linkedConsole).toOption.isSome = true := by
    decide +kernel
  have leaves : (usedConsole.tree.read
      (cacheFile caching linkedConsole)).toOption.isSome = true := by
    decide +kernel
  have found : ((Session.make linkedConsole.root caching
      { dialect := caching.dialect }).read linkedConsole.tree
        [linkedPath]).result.1.toOption =
      some [("b.md".toList, linkedText)] := by
    decide +kernel
  obtain ⟨results, ran⟩ := Option.isSome_iff_exists.mp succeeds
  obtain ⟨bytes, held⟩ := Option.isSome_iff_exists.mp leaves
  rw [Outcome.toOption_eq_some] at ran held
  refine ⟨bytes, .first missing ⟨rfl, rfl, fun sources reads => ?_, results,
    usedConsole, Prod.ext ran rfl, held⟩, ?_⟩
  · rw [(reads_iff (firstWorkspace_of_missing missing)).mp reads] at found
    obtain rfl := Option.some.inj found
    simp
  · rw [cacheFile, sameRoot]
    exact held

/-- The link of the first document is stray as long as the second document is
kept. -/
theorem hasStray_linked {workspace : Workspace}
    (kept : (workspace.get? "b.md".toList).any (fun stored =>
      !stored.hasAnchor "missing".toList) = true) :
    Linter.HasStray .github {} true workspace
      (Linter.overlay [] [("a.md".toList, linkingText)]) := by
  have found : (Document.index .github linkingText).toOption.any (fun document =>
      document.crossFileLinks.any fun link =>
        !document.isDisabledAt Rule.linkFragments link.line &&
          Linter.targetOf "a.md".toList link == "b.md".toList &&
          link.fragment == some "missing".toList) = true := by
    decide +kernel
  obtain ⟨document, indexed, links⟩ := (Option.any_eq_true _ _).mp found
  obtain ⟨link, inDocument, holds⟩ := List.any_eq_true.mp links
  simp only [Bool.and_eq_true, beq_iff_eq, Bool.not_eq_true'] at holds
  obtain ⟨⟨visible, target⟩, fragment⟩ := holds
  obtain ⟨stored, held, broken⟩ := (Option.any_eq_true _ _).mp kept
  refine ⟨rfl, rfl, "a.md".toList, linkingText, document, link, by rfl,
    Outcome.toOption_eq_some.mp indexed, inDocument, visible, ?_, stored, ?_, ?_⟩
  · rw [target]
    rfl
  · rw [target, held]
  · rw [fragment]
    simpa using broken

/-- The second document is linted, then the first one alone: its link is reported
only because the second document was kept. -/
theorem lint_agrees_iff_linked :
    let texts : Set Text := {linkingText, linkedText}
    (caching.cacheEnabled = true ∧
      (usedConsole.tree.contains (cacheFile caching usedConsole) = .ok false ∨
        ∃ bytes, Written caching.dialect texts bytes ∧
          usedConsole.tree.read (cacheFile caching usedConsole) = .ok bytes) ∧
      Set.InjOn Digest.ofText texts ∧
      ∀ sources, Reads caching [linkingPath] usedConsole sources →
        ∀ entry ∈ sources, entry.2 ∈ texts) ∧
    (lintWith caching [linkingPath]).outcome usedConsole ≠
      (lintWith { caching with cacheEnabled := false }
        [linkingPath]).outcome usedConsole := by
  intro texts
  have found : ((Session.make usedConsole.root caching
      { dialect := caching.dialect }).read usedConsole.tree
        [linkingPath]).result.1.toOption =
      some [("a.md".toList, linkingText)] := by
    decide +kernel
  have keeps : (Session.firstWorkspace usedConsole.tree caching.dialect
      (caching.cacheDirectoryIn? usedConsole.root)).toOption.any (fun begun =>
        (begun.1.get? "b.md".toList).any fun stored =>
          !stored.hasAnchor "missing".toList) = true := by
    decide +kernel
  have succeeds : ((lintWith { caching with cacheEnabled := false }
      [linkingPath]).outcome usedConsole).toOption.isSome = true := by
    decide +kernel
  obtain ⟨results, ran⟩ := Option.isSome_iff_exists.mp succeeds
  rw [Outcome.toOption_eq_some] at ran
  have history := exists_written
  obtain ⟨bytes, written, held⟩ := history
  obtain ⟨kept, loaded, -⟩ := firstWorkspace_of_holds
    (written.holds injOn_linked) held
  have reads (sources : Entries Text Text)
      (reads : Reads caching [linkingPath] usedConsole sources) :
      sources = [("a.md".toList, linkingText)] := by
    rw [(reads_iff loaded).mp reads] at found
    exact Option.some.inj found
  have inTexts : ∀ sources, Reads caching [linkingPath] usedConsole sources →
      ∀ entry ∈ sources, entry.2 ∈ texts := by
    intro sources here
    obtain rfl := reads sources here
    simp [texts]
  refine ⟨⟨rfl, .inr exists_written, injOn_linked, inTexts⟩, ?_⟩
  obtain ⟨workspace, loaded, agrees⟩ := lint_agrees_iff rfl
    (.inr exists_written) injOn_linked inTexts
  have unmasked : ∀ sources, Reads caching [linkingPath] usedConsole sources →
      Linter.IsUnmasked workspace sources := by
    intro sources here
    obtain rfl := reads sources here
    exact Linter.isUnmasked_of_nodup workspace (List.nodup_singleton _)
  rw [loaded] at keeps
  intro equal
  have noStray := (((agrees unmasked).1.mp equal) results ran).2
    [("a.md".toList, linkingText)]
    ((reads_iff loaded).mpr (Outcome.toOption_eq_some.mp found))
  exact noStray (hasStray_linked keeps)

end CommandLine

end AnchorLint
