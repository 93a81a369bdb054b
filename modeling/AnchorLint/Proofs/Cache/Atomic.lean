import AnchorLint.Proofs.Cache.File
import AnchorLint.Proofs.FileTree.Kept
import AnchorLint.Proofs.Text.Digits
import Mathlib.Data.List.Nodup
import Mathlib.Data.List.Perm.Subperm
import Mathlib.Logic.Relation

/-!
# Saving the whole cache file or nothing

The cache file is replaced in steps: a temporary file with a name of its own is
opened, the text is made and written to it piece by piece, and at last the file is
moved to the place of the cache file.  Any of these steps may fail, and then the
temporary file is removed.  This file follows the steps with every fault that may
come between them.  At no moment does the cache file hold anything but its old
content or the whole new one, and in the end no other file is changed, added or
missing.
-/

namespace AnchorLint

namespace Cache

/-! ## A temporary file that is not there yet -/

/-- The name of the temporary file with a number. -/
def temporaryName (number : Nat) : Text :=
  ".workspace_index.".toList ++ Text.padZeros 8 (Text.ofNat number) ++ ".tmp".toList

theorem temporaryName_injective : temporaryName.Injective := by
  intro one other same
  have digits := List.append_cancel_left (List.append_cancel_right same)
  have values := congrArg (Text.digitsValue 10) digits
  simpa only [Text.padZeros, Text.digitsValue_append, Text.digitsValue_zeros,
    Nat.zero_mul, Nat.zero_add, Text.digitsValue_ofNat] using values

theorem temporaryName_ne_climb (number : Nat) :
    temporaryName number ≠ FileTree.climb := by
  intro same
  have second : (temporaryName number)[1]? = some 'w' := rfl
  rw [same] at second
  cases second

/-- Temporary files stand side by side, each at a place of its own. -/
theorem locate_temporaryIn {tree : FileTree} {directory : FilePath} {number : Nat}
    {place : List Text} (leads : tree.locate (temporaryIn directory number) = .ok place) :
    ∃ base, tree.follow (tree.start directory) directory.parts = .ok base ∧
      place = base ++ [temporaryName number] := by
  unfold FileTree.locate at leads
  split at leads
  · cases leads
  · split at leads
    · cases leads
    · obtain ⟨base, upTo, last⟩ := FileTree.follow_append_eq_ok.mp leads
      refine ⟨base, upTo, FileTree.follow_eq_append ?_ last⟩
      simpa using (temporaryName_ne_climb number).symm

theorem isFree_of_contains {tree : FileTree} {path : FilePath}
    (absent : tree.contains path ≠ .ok true) : tree.IsFree path := by
  intro place leads
  by_contra present
  refine absent ?_
  rw [FileTree.contains, FileTree.node?, leads]
  exact congrArg Except.ok (Option.isSome_iff_ne_none.mpr present)

theorem not_isFree_of_contains {tree : FileTree} {path : FilePath}
    (present : tree.contains path = .ok true) : ¬ tree.IsFree path := by
  intro free
  rw [FileTree.contains, FileTree.node?] at present
  split at present
  · rename_i place leads
    rw [free place leads] at present
    cases present
  · cases present
  · cases present

/-- Of more temporary files than there are files, one is not there. -/
theorem exists_isFree (tree : FileTree) (directory : FilePath) :
    ∃ number ≤ tree.nodes.length, tree.IsFree (temporaryIn directory number) := by
  by_contra taken
  push Not at taken
  have stands : ∀ number ≤ tree.nodes.length, ∃ base,
      tree.follow (tree.start directory) directory.parts = .ok base ∧
        base ++ [temporaryName number] ∈ Entries.keys tree.nodes := by
    intro number few
    have present := taken number few
    simp only [FileTree.IsFree, not_forall] at present
    obtain ⟨place, leads, present⟩ := present
    obtain ⟨base, upTo, rfl⟩ := locate_temporaryIn leads
    refine ⟨base, upTo, ?_⟩
    by_contra missing
    refine present ?_
    rw [FileTree.nodeAt?, if_neg (by simp)]
    exact Entries.lookup_eq_none_iff_not_mem.mpr missing
  obtain ⟨base, upTo, -⟩ := stands 0 (Nat.zero_le _)
  -- All of them together would be more places than the tree has.
  let places := (List.range (tree.nodes.length + 1)).map fun number =>
    base ++ [temporaryName number]
  have distinct : places.Nodup := by
    apply List.nodup_range.map
    intro one other same
    exact temporaryName_injective (by simpa using same)
  have within : places ⊆ Entries.keys tree.nodes := by
    intro place member
    obtain ⟨number, inRange, rfl⟩ := List.mem_map.mp member
    obtain ⟨same, upToSame, present⟩ :=
      stands number (Nat.lt_succ_iff.mp (List.mem_range.mp inRange))
    obtain rfl := Except.ok.inj (upTo.symm.trans upToSame)
    exact present
  have short := (distinct.subperm within).length_le
  simp [places, Entries.keys] at short

theorem isFree_freshTemporary_of_reached {tree : FileTree} {directory : FilePath}
    {steps start : Nat}
    (reached : ∃ count ≤ steps, tree.IsFree (temporaryIn directory (start + count))) :
    tree.IsFree (freshTemporary tree directory steps start) := by
  induction steps generalizing start with
  | zero =>
      obtain ⟨count, none_, free⟩ := reached
      obtain rfl := Nat.le_zero.mp none_
      exact free
  | succ steps ih =>
      rw [freshTemporary]
      split
      · rename_i present
        obtain ⟨count, few, free⟩ := reached
        cases count with
        | zero => exact absurd free (not_isFree_of_contains present)
        | succ count =>
            exact ih ⟨count, by omega, by rwa [Nat.add_right_comm, Nat.add_assoc]⟩
      · rename_i absent
        exact isFree_of_contains absent

/-- As many steps as there are files lead to a temporary file that is not there. -/
theorem isFree_freshTemporary (tree : FileTree) (directory : FilePath) :
    tree.IsFree (freshTemporary tree directory tree.nodes.length 0) := by
  obtain ⟨number, few, free⟩ := exists_isFree tree directory
  exact isFree_freshTemporary_of_reached
    ⟨number, few, (Nat.zero_add number).symm ▸ free⟩

/-! ## The steps of saving -/

/-- What the end of saving has to be: either the cache file holds the whole text and
everything else is as before, or everything is as before.  A complaint about the
content is the one that making the text came to. -/
inductive IsClean (ready : FileTree) (target : FilePath)
    (content : Except Json.WriteError Text) :
    Except SaveError FilePath × FileTree → Prop where
  | replaced (text : Text) (after : FileTree) (made : content = .ok text)
      (receives : ready.Receives target (Utf8.encode text) after) :
      IsClean ready target content (.ok target, after)
  | kept (error : SaveError) (after : FileTree) (agree : ready.Agree after)
      (known : ∀ complaint, error = .content complaint → content = .error complaint) :
      IsClean ready target content (.error error, after)

namespace Saving

/-- How far the cache file is replaced, once the temporary file is open: a part of
the text is written, or something has failed, or all is over. -/
inductive Phase where
  | writing (part : Bytes)
  | failed (error : SaveError)
  | ended (outcome : Except SaveError FilePath)

/-- The files and how far the cache file is replaced. -/
structure State where
  tree : FileTree
  phase : Phase

/-- One step.  The text cannot be made; a piece of it is written; a fault of the file
system comes at any moment before the end; the whole text takes the place of the
cache file; the temporary file is removed after a failure. -/
inductive Step (temporary target : FilePath) (content : Except Json.WriteError Text) :
    State → State → Prop where
  | reject (tree : FileTree) (complaint : Json.WriteError)
      (rejected : content = .error complaint) :
      Step temporary target content ⟨tree, .writing []⟩
        ⟨tree, .failed (.content complaint)⟩
  | write (tree next : FileTree) (text : Text) (part piece : Bytes)
      (made : content = .ok text) (within : part ++ piece <+: Utf8.encode text)
      (written : tree.write temporary (part ++ piece) = .ok next) :
      Step temporary target content ⟨tree, .writing part⟩
        ⟨next, .writing (part ++ piece)⟩
  | stop (tree : FileTree) (part : Bytes) (fault : FileFault) :
      Step temporary target content ⟨tree, .writing part⟩
        ⟨tree, .failed (.file fault)⟩
  | replace (tree next : FileTree) (text : Text) (made : content = .ok text)
      (moved : tree.rename temporary target = .ok next) :
      Step temporary target content ⟨tree, .writing (Utf8.encode text)⟩
        ⟨next, .ended (.ok target)⟩
  | discard (tree next : FileTree) (error : SaveError)
      (removed : tree.delete temporary = .ok next) :
      Step temporary target content ⟨tree, .failed error⟩
        ⟨next, .ended (.error error)⟩

/-- What is known about a state: before the end all files but the temporary one are
as before, and the end is as it has to be. -/
def Follows (ready : FileTree) (temporary target : FilePath)
    (content : Except Json.WriteError Text) (state : State) : Prop :=
  match state.phase with
  | .writing part => ready.Receives temporary part state.tree
  | .failed error =>
    (∃ part, ready.Receives temporary part state.tree) ∧
      ∀ complaint, error = .content complaint → content = .error complaint
  | .ended outcome => IsClean ready target content (outcome, state.tree)

variable {ready opened : FileTree} {temporary target : FilePath}
  {content : Except Json.WriteError Text} {state next : State}

theorem Follows.step (follows : Follows ready temporary target content state)
    (free : ready.IsFree temporary) (step : Step temporary target content state next) :
    Follows ready temporary target content next := by
  cases step with
  | reject tree complaint rejected =>
      refine ⟨⟨[], follows⟩, ?_⟩
      rintro other ⟨rfl⟩
      exact rejected
  | write tree next text part piece made within written =>
      exact FileTree.Receives.write follows written
  | stop tree part fault =>
      refine ⟨⟨part, follows⟩, ?_⟩
      rintro complaint ⟨⟩
  | replace tree next text made moved =>
      exact .replaced text next made (FileTree.Receives.of_rename follows free moved)
  | discard tree next error removed =>
      obtain ⟨⟨part, receives⟩, known⟩ := follows
      exact .kept error next (receives.agree_of_delete free removed) known

theorem follows_of_run (free : ready.IsFree temporary)
    (opens : ready.write temporary [] = .ok opened)
    (run : Relation.ReflTransGen (Step temporary target content)
      ⟨opened, .writing []⟩ state) :
    Follows ready temporary target content state := by
  induction run with
  | refl => exact FileTree.differsAt_of_write opens
  | tail _ step ih => exact ih.step free step

/-- Before the end all files but the temporary one are as before. -/
theorem Follows.elsewhere (follows : Follows ready temporary target content state)
    (open_ : ∀ outcome, state.phase ≠ .ended outcome) {place : List Text}
    (different : ready.locate temporary ≠ .ok place) :
    state.tree.nodeAt? place = ready.nodeAt? place := by
  have receives : ∃ part, ready.Receives temporary part state.tree := by
    unfold Follows at follows
    split at follows
    · exact ⟨_, follows⟩
    · exact follows.1
    · rename_i outcome ended
      exact absurd ended (open_ outcome)
  obtain ⟨part, goal, leads, differs, -⟩ := receives
  refine differs.elsewhere place ?_
  rintro rfl
  exact different leads

/-- Saving comes to an end: before it, there is a step to take. -/
theorem Follows.exists_step (follows : Follows ready temporary target content state)
    (open_ : ∀ outcome, state.phase ≠ .ended outcome) :
    ∃ next, Step temporary target content state next := by
  obtain ⟨tree, phase⟩ := state
  cases phase with
  | writing part => exact ⟨_, .stop tree part ⟨temporary, .notFound⟩⟩
  | failed error =>
      obtain ⟨⟨part, receives⟩, -⟩ := follows
      obtain ⟨-, next, -, removed, -, -⟩ :=
        FileTree.exists_delete_of_read receives.read
      exact ⟨_, .discard tree next error removed⟩
  | ended outcome => exact absurd rfl (open_ outcome)

end Saving

/-- Replacing the cache file is one way to take these steps. -/
theorem run_replaceFile {ready opened : FileTree} {directory : FilePath}
    (content : Except Json.WriteError Text)
    (opens : ready.write (freshTemporary ready directory ready.nodes.length 0) [] =
      .ok opened) :
    Relation.ReflTransGen
      (Saving.Step (freshTemporary ready directory ready.nodes.length 0)
        (fileIn directory) content)
      ⟨opened, .writing []⟩
      ⟨(replaceFile ready directory content).2,
        .ended (replaceFile ready directory content).1⟩ := by
  obtain ⟨-, discarded, -, removed, -, -⟩ :=
    FileTree.exists_delete_of_read (FileTree.read_of_write opens)
  have restored : (opened.delete (freshTemporary ready directory ready.nodes.length
      0)).toOption.getD opened = discarded := by
    rw [removed]
    rfl
  unfold replaceFile
  dsimp only
  rw [opens]
  dsimp only
  rw [restored]
  cases content with
  | error complaint =>
      exact .tail (.single (.reject opened complaint rfl))
        (.discard opened discarded _ removed)
  | ok text =>
      have receives := FileTree.differsAt_of_write opens
      obtain ⟨written, wrote⟩ :=
        FileTree.Receives.exists_write receives (Utf8.encode text)
      have writes : Saving.Step
          (freshTemporary ready directory ready.nodes.length 0) (fileIn directory)
          (.ok text) ⟨opened, .writing []⟩ ⟨written, .writing (Utf8.encode text)⟩ :=
        .write opened written text [] _ rfl (List.prefix_refl _) wrote
      dsimp only
      rw [wrote]
      dsimp only
      cases moved : written.rename (freshTemporary ready directory ready.nodes.length 0)
          (fileIn directory) with
      | ok renamed => exact .tail (.single writes) (.replace written renamed text rfl moved)
      | error error =>
          have removedToo := FileTree.delete_of_write (FileTree.read_of_write opens) wrote
          exact .tail (.tail (.single writes) (.stop written _ _))
            (.discard written discarded _ (removedToo.trans removed))

theorem isClean_replaceFile (ready : FileTree) (directory : FilePath)
    (content : Except Json.WriteError Text) :
    IsClean ready (fileIn directory) content (replaceFile ready directory content) := by
  cases opens : ready.write (freshTemporary ready directory ready.nodes.length 0) [] with
  | error error =>
      unfold replaceFile
      dsimp only
      rw [opens]
      exact .kept _ ready (.refl ready) nofun
  | ok opened =>
      exact Saving.follows_of_run (isFree_freshTemporary ready directory) opens
        (run_replaceFile content opens)

theorem replaceFile_of_rejected {ready opened : FileTree} {directory : FilePath}
    {complaint : Json.WriteError}
    (opens : ready.write (freshTemporary ready directory ready.nodes.length 0) [] =
      .ok opened) :
    (replaceFile ready directory (.error complaint)).1 = .error (.content complaint) := by
  unfold replaceFile
  dsimp only
  rw [opens]

theorem replaceFile_of_admits {ready opened : FileTree} {directory : FilePath}
    (opens : ready.write (freshTemporary ready directory ready.nodes.length 0) [] =
      .ok opened) (admits : ready.Admits (fileIn directory)) (text : Text) :
    (replaceFile ready directory (.ok text)).1 = .ok (fileIn directory) := by
  have receives := FileTree.differsAt_of_write opens
  obtain ⟨written, wrote⟩ := FileTree.Receives.exists_write receives (Utf8.encode text)
  obtain ⟨renamed, moved⟩ := (FileTree.Receives.write receives wrote).exists_rename
    (isFree_freshTemporary ready directory) admits
  unfold replaceFile
  dsimp only
  rw [opens]
  dsimp only
  rw [wrote]
  dsimp only
  rw [moved]

/-- Saving is atomic, whatever stands in the directory and whatever is saved.  Making
the directory only adds directories, and none if it exists.  If saving succeeds, the
cache file holds the whole text, and the same as before stands at every other place; if
it fails, the same as before stands at every place.  Either way nothing is left of the
temporary file.  Content that cannot be made a text is complained about as such once
the temporary file is open, and else the cache file is replaced wherever a file may
stand there.  And saving is one way to take steps that a fault may stop at any moment:
whenever that is, these steps lead to such an end, and up to it nothing but the temporary
file is touched. -/
theorem save_is_atomic (tree : FileTree) (directory : FilePath) (dialect : Text)
    (records : List (Text × Record)) :
    let content := encodeRecords dialect records
    let ready := (tree.makeDirectories directory).2
    let target := fileIn directory
    let temporary := freshTemporary ready directory ready.nodes.length 0
    let saved := save tree directory dialect records
    tree.AddsDirectories ready ∧
    (tree.isDirectory directory = .ok true → ready = tree) ∧
    ready.IsFree temporary ∧ IsClean ready target content saved ∧
    ∀ opened, (tree.makeDirectories directory).1 = .ok () →
      ready.write temporary [] = .ok opened →
        (∀ complaint, content = .error complaint →
          saved.1 = .error (.content complaint)) ∧
        (∀ text, content = .ok text → ready.Admits target → saved.1 = .ok target) ∧
        Relation.ReflTransGen (Saving.Step temporary target content)
          ⟨opened, .writing []⟩ ⟨saved.2, .ended saved.1⟩ ∧
        ∀ state, Relation.ReflTransGen (Saving.Step temporary target content)
            ⟨opened, .writing []⟩ state →
          (∀ outcome, state.phase = .ended outcome →
            IsClean ready target content (outcome, state.tree)) ∧
          ((∀ outcome, state.phase ≠ .ended outcome) →
            (∃ next, Saving.Step temporary target content state next) ∧
            ∀ place, ready.locate temporary ≠ .ok place →
              state.tree.nodeAt? place = ready.nodeAt? place) := by
  intro content ready target temporary saved
  have free : ready.IsFree temporary := isFree_freshTemporary ready directory
  have eventually (made : (tree.makeDirectories directory).1 = .ok ()) :
      saved = replaceFile ready directory content := by
    have whole : tree.makeDirectories directory = (.ok (), ready) := Prod.ext made rfl
    simp only [saved, save, whole, content]
  have clean : IsClean ready target content saved := by
    cases made : (tree.makeDirectories directory).1 with
    | ok => exact eventually made ▸ isClean_replaceFile ready directory content
    | error fault =>
        have whole : tree.makeDirectories directory = (.error fault, ready) :=
          Prod.ext made rfl
        have same : saved = (.error (.file fault), ready) := by
          simp only [saved, save, whole]
        rw [same]
        exact .kept _ ready (.refl ready) nofun
  refine ⟨tree.addsDirectories_makeDirectories directory, ?_, free, clean, ?_⟩
  · intro isDirectory
    exact congrArg Prod.snd (FileTree.makeDirectories_of_isDirectory isDirectory)
  intro opened made opens
  rw [eventually made]
  refine ⟨?_, ?_, run_replaceFile content opens, ?_⟩
  · intro complaint rejected
    rw [rejected]
    exact replaceFile_of_rejected opens
  · intro text isText admits
    rw [isText]
    exact replaceFile_of_admits opens admits text
  · intro state run
    have follows := Saving.follows_of_run free opens run
    refine ⟨fun outcome ended => ?_, fun open_ => ⟨follows.exists_step open_,
      fun place different => follows.elsewhere open_ different⟩⟩
    unfold Saving.Follows at follows
    rw [ended] at follows
    exact follows

/-- The record of a page with nothing but some front matter. -/
def pageWith (frontMatter : List (Value × Value)) : Record where
  digest := .str []
  lines := []
  codeBlocks := []
  headings := []
  htmlAnchors := []
  anchors := []
  footnoteRefs := []
  footnoteDefs := []
  links := []
  definitions := []
  regions := []
  frontMatter := frontMatter
  frontMatterSpan := none
  frontMatterError := .null
  configuration := []

/-- A cache directory with an old cache file and a temporary file that another run has
left. -/
def usedCache : FileTree where
  nodes := [(["cache".toList], .directory),
    (["cache".toList, temporaryName 0], .file [1]),
    (["cache".toList, "workspace_index.json".toList], .file [2, 3])]

/-- A page is saved in place of the old cache file, and the other file stays.  A page
with a date among the keys of its front matter is complained about, and all stays. -/
theorem save_is_atomic_used :
    let directory : FilePath := ⟨[], ["cache".toList]⟩
    let day : Value := .date ⟨2024, 1, 1⟩
    let plain := [("a.md".toList, pageWith [])]
    let dated := [("a.md".toList, pageWith [(.str ['x'], .list [.map [(day, .null)]])])]
    (∃ text after,
      save usedCache directory "github".toList plain =
        (.ok (fileIn directory), after) ∧
      encodeRecords "github".toList plain = .ok text ∧
      usedCache.Receives (fileIn directory) (Utf8.encode text) after) ∧
    ∃ complaint after,
      save usedCache directory "github".toList dated =
        (.error (.content complaint), after) ∧
      complaint.message =
        "keys must be str, int, float, bool or None, not datetime.date".toList ∧
      usedCache.Agree after := by
  intro directory day plain dated
  have made : usedCache.makeDirectories directory = (.ok (), usedCache) :=
    FileTree.makeDirectories_of_isDirectory (by decide +kernel)
  have writes : (usedCache.write (freshTemporary usedCache directory
      usedCache.nodes.length 0) []).toOption.isSome = true := by decide +kernel
  obtain ⟨opened, isOpened⟩ := Option.isSome_iff_exists.mp writes
  have opens := Outcome.toOption_eq_some.mp isOpened
  constructor
  · have encodes : (encodeRecords "github".toList plain).toOption.isSome = true := by
      decide +kernel
    obtain ⟨text, isText⟩ := Option.isSome_iff_exists.mp encodes
    have encoded := Outcome.toOption_eq_some.mp isText
    obtain ⟨-, -, -, clean, steps⟩ :=
      save_is_atomic usedCache directory "github".toList plain
    rw [made] at clean steps
    have admits : usedCache.Admits (fileIn directory) :=
      ⟨["cache".toList, "workspace_index.json".toList], by decide +kernel,
        by decide +kernel⟩
    have succeeds := (steps opened rfl opens).2.1 text encoded admits
    rcases saved : save usedCache directory "github".toList plain with ⟨outcome, after⟩
    rw [saved] at clean succeeds
    obtain rfl : outcome = .ok (fileIn directory) := succeeds
    cases clean with
    | replaced found after made receives => exact ⟨found, after, rfl, made, receives⟩
  · have rejected : (encodeRecords "github".toList dated).mapError (·.message) =
        .error "keys must be str, int, float, bool or None, not datetime.date".toList := by
      decide +kernel
    obtain ⟨complaint, fails, message⟩ := Outcome.mapError_eq_error.mp rejected
    obtain ⟨-, -, -, clean, steps⟩ :=
      save_is_atomic usedCache directory "github".toList dated
    rw [made] at clean steps
    have complains := (steps opened rfl opens).1 _ fails
    rcases saved : save usedCache directory "github".toList dated with ⟨outcome, after⟩
    rw [saved] at clean complains
    obtain rfl : outcome = .error (.content complaint) := complains
    cases clean with
    | kept error after agree known => exact ⟨complaint, after, rfl, message, agree⟩

end Cache

end AnchorLint
