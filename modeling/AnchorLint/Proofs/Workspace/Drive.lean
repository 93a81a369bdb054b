import AnchorLint.Proofs.Data.Outcome
import AnchorLint.Proofs.Text.Percent
import AnchorLint.Proofs.Workspace.View
import AnchorLint.Workspace.Query

/-!
# Links to drives and network shares

A path with the mark of a network share names no document of a workspace: the mark
is still there when escapes are decoded and segments are carried out.  A drive
letter, however, is the first segment of its path, and a `..` that finds no other
segment to undo undoes the drive.  Such a path leads out of its drive to a relative
path, and this is the only way in which a link to a drive reaches a document.
-/

namespace AnchorLint

namespace Path

/-! ## Climbing out -/

/-- Whether carrying out segments on a stack meets a `..` that finds nothing to
undo. -/
def ClimbsOut (stack pieces : List Text) : Prop :=
  ∃ before after, pieces = before ++ ['.', '.'] :: after ∧
    resolve stack before = []

section

variable {stack pieces : List Text} {piece : Text}

theorem climbsOut_cons_of_skip (skipped : piece = [] ∨ piece = ['.']) :
    ClimbsOut stack (piece :: pieces) ↔ ClimbsOut stack pieces := by
  constructor
  · rintro ⟨before, after, parts, nothing⟩
    cases before with
    | nil =>
        obtain ⟨rfl, -⟩ := List.cons.inj parts
        simp at skipped
    | cons first before =>
        obtain ⟨rfl, rfl⟩ := List.cons.inj parts
        rw [resolve, if_pos skipped] at nothing
        exact ⟨before, after, rfl, nothing⟩
  · rintro ⟨before, after, rfl, nothing⟩
    exact ⟨piece :: before, after, rfl, by rwa [resolve, if_pos skipped]⟩

theorem climbsOut_cons_up :
    ClimbsOut stack (['.', '.'] :: pieces) ↔
      stack = [] ∨ ClimbsOut stack.tail pieces := by
  constructor
  · rintro ⟨before, after, parts, nothing⟩
    cases before with
    | nil => exact Or.inl (List.reverse_eq_nil_iff.mp nothing)
    | cons first before =>
        obtain ⟨rfl, rfl⟩ := List.cons.inj parts
        exact Or.inr ⟨before, after, rfl, nothing⟩
  · rintro (rfl | ⟨before, after, rfl, nothing⟩)
    · exact ⟨[], pieces, rfl, rfl⟩
    · exact ⟨['.', '.'] :: before, after, rfl, nothing⟩

theorem climbsOut_cons_of_name (named : ¬ (piece = [] ∨ piece = ['.']))
    (notUp : piece ≠ ['.', '.']) :
    ClimbsOut stack (piece :: pieces) ↔ ClimbsOut (piece :: stack) pieces := by
  constructor
  · rintro ⟨before, after, parts, nothing⟩
    cases before with
    | nil => exact absurd (List.cons.inj parts).1 notUp
    | cons first before =>
        obtain ⟨rfl, rfl⟩ := List.cons.inj parts
        rw [resolve, if_neg named, if_neg notUp] at nothing
        exact ⟨before, after, rfl, nothing⟩
  · rintro ⟨before, after, rfl, nothing⟩
    exact ⟨piece :: before, after, rfl,
      by rwa [resolve, if_neg named, if_neg notUp]⟩

/-- A segment at the bottom of the stack stays if nothing climbs out, and is gone
otherwise. -/
theorem resolve_append_bottom (stack pieces : List Text) (bottom : Text) :
    (¬ ClimbsOut stack pieces →
      resolve (stack ++ [bottom]) pieces = bottom :: resolve stack pieces) ∧
    (ClimbsOut stack pieces →
      resolve (stack ++ [bottom]) pieces = resolve stack pieces) := by
  induction pieces generalizing stack with
  | nil =>
      refine ⟨fun _ => by simp [resolve], fun climbs => ?_⟩
      obtain ⟨before, after, parts, -⟩ := climbs
      simp at parts
  | cons piece pieces ih =>
      by_cases skipped : piece = [] ∨ piece = ['.']
      · rw [climbsOut_cons_of_skip skipped, resolve, resolve, if_pos skipped,
          if_pos skipped]
        exact ih stack
      by_cases up : piece = ['.', '.']
      · subst up
        rw [climbsOut_cons_up, resolve, resolve, if_neg skipped, if_neg skipped,
          if_pos rfl, if_pos rfl]
        cases stack with
        | nil => exact ⟨fun stays => absurd (Or.inl rfl) stays, fun _ => rfl⟩
        | cons top stack => simpa using ih stack
      · rw [climbsOut_cons_of_name skipped up, resolve, resolve, if_neg skipped,
          if_neg skipped, if_neg up, if_neg up]
        exact ih (piece :: stack)

end

/-! ## Marks at the start of a path -/

def hasShareMark (path : Text) : Bool :=
  Text.startsWith path ['/', '/'] || Text.startsWith path ['\\', '\\']

/-- Whether a path leads out of its drive: a `..` behind the drive letter undoes the
drive, and what is left does not look like a path on a drive. -/
def LeavesDrive (path : Text) : Prop :=
  Target.hasDrive path = true ∧
    ClimbsOut [] (segments
      (unifySeparators (Percent.decodeLossy (path.drop 3)))) ∧
    (normalize (Percent.decodeLossy path))[1]? ≠ some ':'

theorem exists_of_hasShareMark {path : Text} (marked : hasShareMark path = true) :
    ∃ mark rest, path = mark :: mark :: rest ∧ (mark = '/' ∨ mark = '\\') := by
  rcases Bool.or_eq_true_iff.mp marked with slashes | backslashes
  · obtain ⟨rest, rfl⟩ := List.isPrefixOf_iff_prefix.mp slashes
    exact ⟨'/', rest, rfl, Or.inl rfl⟩
  · obtain ⟨rest, rfl⟩ := List.isPrefixOf_iff_prefix.mp backslashes
    exact ⟨'\\', rest, rfl, Or.inr rfl⟩

theorem exists_of_hasDrive {path : Text} (marked : Target.hasDrive path = true) :
    ∃ letter separator rest, path = letter :: ':' :: separator :: rest ∧
      letter.isAlpha = true ∧ (separator = '/' ∨ separator = '\\') := by
  unfold Target.hasDrive at marked
  split at marked
  · rename_i letter separator rest
    simp only [Bool.and_eq_true, Bool.or_eq_true, beq_iff_eq] at marked
    exact ⟨letter, separator, rest, rfl, marked.1, marked.2.symm⟩
  · cases marked

/-- A path with the mark of a network share leads to a place that starts with two
slashes. -/
theorem head?_resolveTarget_of_share (source : Text) {path : Text}
    (marked : hasShareMark path = true) :
    (resolveTarget source .absolutePath (some path)).head? = some '/' := by
  obtain ⟨mark, rest, rfl, isMark⟩ := exists_of_hasShareMark marked
  have decoded : Percent.decodeLossy (mark :: mark :: rest) =
      mark :: mark :: Percent.decodeLossy rest := by
    rcases isMark with rfl | rfl <;>
      rw [Percent.decodeLossy_cons (by decide) (by decide),
        Percent.decodeLossy_cons (by decide) (by decide)]
  have shared : Text.startsWith (unifySeparators
      (mark :: mark :: Percent.decodeLossy rest)) ['/', '/'] = true := by
    rcases isMark with rfl | rfl <;> rfl
  simp only [resolveTarget, Option.getD_some, decoded, if_true, shared, true_or,
    List.head?_cons]

/-! ## Paths on a drive -/

section

variable {letter separator : Char} (isLetter : letter.isAlpha = true)
  (isSeparator : separator = '/' ∨ separator = '\\') (rest : Text)

include isLetter isSeparator

theorem decodeLossy_drive :
    Percent.decodeLossy (letter :: ':' :: separator :: rest) =
      letter :: ':' :: separator :: Percent.decodeLossy rest := by
  have isAscii : Percent.isAscii letter = true :=
    Percent.isAscii_of_isAlphanum (Bool.or_eq_true_iff.mpr (Or.inl isLetter))
  have notPercent : letter ≠ '%' := by rintro rfl; simp at isLetter
  rw [Percent.decodeLossy_cons isAscii notPercent,
    Percent.decodeLossy_cons (by decide) (by decide)]
  rcases isSeparator with rfl | rfl <;>
    rw [Percent.decodeLossy_cons (by decide) (by decide)]

theorem unifySeparators_drive :
    unifySeparators (letter :: ':' :: separator :: rest) =
      letter :: ':' :: '/' :: unifySeparators rest := by
  have notBackslash : letter ≠ '\\' := by rintro rfl; simp at isLetter
  rcases isSeparator with rfl | rfl <;> simp [unifySeparators, notBackslash]

/-- The segments of a path on a drive are carried out on top of the drive. -/
theorem resolve_segments_drive :
    resolve [] (segments (unifySeparators (letter :: ':' :: separator :: rest))) =
      resolve [[letter, ':']] (segments (unifySeparators rest)) := by
  have notSlash : letter ≠ '/' := by rintro rfl; simp at isLetter
  have cut : segments (letter :: ':' :: '/' :: unifySeparators rest) =
      [letter, ':'] :: segments (unifySeparators rest) := by
    simp [segments, Text.splitAt_beq, List.splitOn_cons_eq_if_modifyHead, notSlash]
  rw [unifySeparators_drive isLetter isSeparator, cut, resolve, if_neg (by simp),
    if_neg (by simp)]

theorem head?_unifySeparators_drive :
    (unifySeparators (letter :: ':' :: separator :: rest)).head? ≠ some '/' := by
  rw [unifySeparators_drive isLetter isSeparator]
  rintro same
  obtain rfl := Option.some.inj same
  simp at isLetter

end

/-- A path on a drive leaves it exactly if its normalized form does not look like a
path on a drive: a drive that nothing undoes is the first segment of that form. -/
theorem leavesDrive_iff {path : Text} (marked : Target.hasDrive path = true) :
    LeavesDrive path ↔ (normalize (Percent.decodeLossy path))[1]? ≠ some ':' := by
  refine ⟨fun leaves => leaves.2.2, fun unlike => ⟨marked, ?_, unlike⟩⟩
  obtain ⟨letter, separator, rest, rfl, isLetter, isSeparator⟩ :=
    exists_of_hasDrive marked
  by_contra stays
  have kept := (resolve_append_bottom [] _ [letter, ':']).1 stays
  simp only [List.nil_append, List.drop_succ_cons, List.drop_zero] at kept
  rw [decodeLossy_drive isLetter isSeparator,
    normalize_of_relative (head?_unifySeparators_drive isLetter isSeparator _),
    resolve_segments_drive isLetter isSeparator, kept] at unlike
  generalize resolve [] (segments _) = others at unlike
  cases others <;> simp [Text.join] at unlike

/-- A path on a drive leads to a place that starts with two slashes, or out of its
drive to the path that is left of it. -/
theorem resolveTarget_of_drive (source : Text) {path : Text}
    (marked : Target.hasDrive path = true) :
    (¬ LeavesDrive path →
      (resolveTarget source .absolutePath (some path)).head? = some '/') ∧
    (LeavesDrive path →
      resolveTarget source .absolutePath (some path) =
        normalize (Percent.decodeLossy path)) := by
  rw [leavesDrive_iff marked]
  obtain ⟨letter, separator, rest, rfl, isLetter, isSeparator⟩ :=
    exists_of_hasDrive marked
  rw [decodeLossy_drive isLetter isSeparator]
  have relative := head?_unifySeparators_drive isLetter isSeparator
    (Percent.decodeLossy rest)
  have notShare : ¬ Text.startsWith (unifySeparators
      (letter :: ':' :: separator :: Percent.decodeLossy rest)) ['/', '/'] = true := by
    intro shared
    obtain ⟨behind, starts⟩ := List.isPrefixOf_iff_prefix.mp shared
    exact relative (by rw [← starts]; rfl)
  simp only [resolveTarget, Option.getD_some, if_true, List.head?_drop,
    decodeLossy_drive isLetter isSeparator]
  constructor
  · intro alike
    rw [if_pos (Or.inr (not_not.mp alike))]
    rfl
  · intro unlike
    rw [if_neg (not_or.mpr ⟨notShare, unlike⟩), normalize_of_relative relative]
    exact dropWhile_slash_join (isClean_segments _)

end Path

namespace Workspace

variable {workspace : Workspace}

theorem get?_of_head?_slash (relative : ∀ key ∈ workspace.files.keys, key.head? ≠ some '/')
    {path : Text} (rooted : path.head? = some '/') : workspace.get? path = none :=
  Entries.lookup_eq_none_iff_not_mem.mpr fun member =>
    relative _ member (Path.head?_normalize_of_slash rooted)

/-- A link of a document is reported exactly if it leads to a document that lacks
its anchor. -/
theorem mem_unresolvedLinks {source : Text} {document : Document}
    {unresolved : UnresolvedLink Link} :
    unresolved ∈ workspace.unresolvedLinks source document ↔
      unresolved.link ∈ document.crossFileLinks ∧
      unresolved = ⟨Path.normalize source, unresolved.link,
        Path.resolveTarget (Path.normalize source) unresolved.link.kind
          unresolved.link.path⟩ ∧
      ∃ stored, workspace.get? unresolved.target = some stored ∧
        stored.hasAnchor (unresolved.link.fragment.getD []) = false := by
  rw [unresolvedLinks, List.mem_filterMap]
  constructor
  · rintro ⟨link, member, reported⟩
    dsimp only at reported
    split at reported
    · cases reported
    · rename_i stored found
      split at reported
      · cases reported
      · rename_i lacks
        obtain rfl := Option.some.inj reported
        exact ⟨member, rfl, stored, found, Bool.eq_false_iff.mpr lacks⟩
  · rintro ⟨member, shape, stored, found, lacks⟩
    refine ⟨unresolved.link, member, ?_⟩
    rw [shape] at found
    simp only [found, lacks, Bool.false_eq_true, if_false]
    exact congrArg some shape.symm

theorem get?_of_mem_unresolvedRecords {source : Text} {record : Cache.Record}
    {found : List (UnresolvedLink Cache.LinkRecord)}
    (checked : workspace.unresolvedRecords source record = .ok found)
    {unresolved : UnresolvedLink Cache.LinkRecord} (member : unresolved ∈ found) :
    (workspace.get? (Path.resolveTarget (Path.normalize source)
      unresolved.link.kind (Cache.text? unresolved.link.path))).isSome = true := by
  obtain ⟨link, -, reported⟩ := Outcome.exists_of_mem_filterMapM checked _ member
  dsimp only at reported
  split at reported
  · cases reported
  · rename_i stored
    obtain ⟨resolves, -, outcome⟩ := Outcome.bind_eq_ok.mp reported
    split at outcome
    · cases outcome
    · obtain rfl := Option.some.inj (Except.ok.inj outcome)
      exact Option.isSome_of_eq_some stored

/-- An absolute path on a drive or a network share finds no document and is never
reported, unless it leaves its drive.  Then it leads to what its normalized form
names, and it is reported if the document there lacks its anchor. -/
theorem marked_path_found_iff_leavesDrive
    (relative : ∀ key ∈ workspace.files.keys, key.head? ≠ some '/')
    (source : Text) {path : Text}
    (marked : Path.hasShareMark path = true ∨ Target.hasDrive path = true) :
    (¬ Path.LeavesDrive path →
      workspace.get? (Path.resolveTarget source .absolutePath (some path)) = none ∧
      (∀ document, ∀ unresolved ∈ workspace.unresolvedLinks source document,
        ¬ (unresolved.link.kind = .absolutePath ∧ unresolved.link.path = some path)) ∧
      ∀ record found, workspace.unresolvedRecords source record = .ok found →
        ∀ unresolved ∈ found, ¬ (unresolved.link.kind = .absolutePath ∧
          Cache.text? unresolved.link.path = some path)) ∧
    (Path.LeavesDrive path →
      Path.resolveTarget source .absolutePath (some path) =
        Path.normalize (Percent.decodeLossy path) ∧
      ∀ document, ∀ link ∈ document.crossFileLinks,
        link.kind = .absolutePath → link.path = some path →
        ((⟨Path.normalize source, link, Path.normalize (Percent.decodeLossy path)⟩ :
            UnresolvedLink Link) ∈ workspace.unresolvedLinks source document ↔
          ∃ stored, workspace.get? (Path.normalize (Percent.decodeLossy path)) =
              some stored ∧
            stored.hasAnchor (link.fragment.getD []) = false)) := by
  constructor
  · intro stays
    have nowhere (source : Text) :
        workspace.get? (Path.resolveTarget source .absolutePath (some path)) = none := by
      refine get?_of_head?_slash relative ?_
      rcases marked with share | drive
      · exact Path.head?_resolveTarget_of_share source share
      · exact (Path.resolveTarget_of_drive source drive).1 stays
    refine ⟨nowhere source, ?_, ?_⟩
    · rintro document unresolved member ⟨isAbsolute, leads⟩
      obtain ⟨-, shape, stored, found, -⟩ := mem_unresolvedLinks.mp member
      rw [shape, isAbsolute, leads, nowhere] at found
      cases found
    · rintro record found checked unresolved member ⟨isAbsolute, leads⟩
      have found := get?_of_mem_unresolvedRecords checked member
      rw [isAbsolute, leads, nowhere] at found
      cases found
  · intro leaves
    have leads (source : Text) := (Path.resolveTarget_of_drive source leaves.1).2 leaves
    refine ⟨leads source, fun document link member isAbsolute isPath => ?_⟩
    rw [mem_unresolvedLinks, isAbsolute, isPath, leads]
    exact (and_iff_right member).trans (and_iff_right rfl)

def climbingText : Text := "[x](C:/../b.md#nope)\n".toList

/-- The link of the text is reported when a document of that name is there. -/
theorem marked_path_found_beyond_drive :
    ∃ document link, Document.index .github climbingText = .ok document ∧
      link ∈ document.crossFileLinks ∧ link.path = some "C:/../b.md".toList ∧
      (⟨"a.md".toList, link, "b.md".toList⟩ : UnresolvedLink Link) ∈
        unresolvedLinks
          { dialect := .github, files := [("b.md".toList, .indexed document)] }
          "a.md".toList document := by
  have found : (Document.index .github climbingText).toOption.any (fun document =>
      document.crossFileLinks.any fun link => link.kind == .absolutePath &&
        link.path == some "C:/../b.md".toList &&
        !(Stored.indexed document).hasAnchor (link.fragment.getD [])) = true := by
    decide +kernel
  obtain ⟨document, indexed, found⟩ := (Option.any_eq_true _ _).mp found
  obtain ⟨link, member, found⟩ := List.any_eq_true.mp found
  simp only [Bool.and_eq_true, beq_iff_eq, Bool.not_eq_true'] at found
  obtain ⟨⟨isAbsolute, isPath⟩, lacks⟩ := found
  have leaves : Path.LeavesDrive "C:/../b.md".toList :=
    ⟨by decide, ⟨[], ["b.md".toList], by decide +kernel, rfl⟩, by decide +kernel⟩
  obtain ⟨-, reported⟩ := (@marked_path_found_iff_leavesDrive
    { dialect := .github, files := [("b.md".toList, .indexed document)] }
    (by simp [Entries.keys]) "a.md".toList _ (Or.inr leaves.1)).2 leaves
  have named : Path.normalize (Percent.decodeLossy "C:/../b.md".toList) =
    "b.md".toList := by decide +kernel
  rw [named] at reported
  refine ⟨document, link, Outcome.toOption_eq_some.mp indexed, member, isPath, ?_⟩
  exact (reported document link member isAbsolute isPath).mpr
    ⟨.indexed document, by rfl, lacks⟩

end Workspace

end AnchorLint
