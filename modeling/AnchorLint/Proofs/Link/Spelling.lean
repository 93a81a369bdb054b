import AnchorLint.Proofs.Link.Path
import Mathlib.Data.List.DropRight

/-!
# The spelling of a path

One path can be spelled in many ways: with either separator, with empty segments,
with `.` and with `..`.  All of them have the same normalized form, which is a path
without any of that.  Where a relative link leads depends on its source only through
the segments in front of the last one, once they are carried out.  So a link leads to
the same place however its source is spelled, as long as the last segment of the
source names something.
-/

namespace AnchorLint

namespace Text

theorem dropEndWhile_append_cons {drop : Char → Bool} {cut : Char}
    (kept : drop cut = false) {last : Text}
    (dropped : ∀ character ∈ last, drop character = true) (head : Text) :
    dropEndWhile drop (head ++ cut :: last) = head ++ [cut] := by
  have dropped' : ∀ character ∈ last.reverse, drop character = true :=
    fun character member => dropped character (List.mem_reverse.mp member)
  simp [dropEndWhile, List.dropWhile_append_of_pos dropped', kept]

end Text

namespace Path

/-- The segments of a path behind the slash that it may start with. -/
def parts (path : Text) : List Text :=
  let rest := if Text.startsWith path ['/'] then path.tail else path
  if rest.isEmpty then [] else segments rest

/-- The names that remain of a path once its segments are carried out. -/
def names (path : Text) : List Text :=
  resolve [] (segments (unifySeparators path))

def IsAbsolute (path : Text) : Prop :=
  (unifySeparators path).head? = some '/'

/-! ## What a normalized path consists of -/

theorem isAbsolute_iff (path : Text) :
    IsAbsolute path ↔ path.head? = some '/' ∨ path.head? = some '\\' := by
  cases path with
  | nil => simp [IsAbsolute, unifySeparators]
  | cons first rest =>
      by_cases backslash : first = '\\' <;>
        simp [IsAbsolute, unifySeparators, backslash]

theorem normalize_of_absolute {path : Text} (absolute : IsAbsolute path) :
    normalize path = '/' :: Text.join ['/'] (names path) :=
  if_pos ((Text.startsWith_singleton _ _).mpr absolute)

/-- Paths that start at the same place and leave the same names have the same
normalized form. -/
theorem normalize_congr {first second : Text}
    (start : IsAbsolute first ↔ IsAbsolute second)
    (same : names first = names second) : normalize first = normalize second := by
  by_cases absolute : IsAbsolute first
  · rw [normalize_of_absolute absolute, normalize_of_absolute (start.mp absolute),
      same]
  · have relative : ¬ IsAbsolute second := fun other => absolute (start.mpr other)
    rw [normalize_of_relative absolute, normalize_of_relative relative]
    exact congrArg (Text.join ['/']) same

theorem head?_normalize_iff (path : Text) :
    (normalize path).head? = some '/' ↔ IsAbsolute path := by
  by_cases absolute : IsAbsolute path
  · simp [normalize_of_absolute absolute, absolute]
  · rw [normalize_of_relative absolute]
    exact iff_of_false (head?_join_ne_slash (isClean_segments path)) absolute

theorem backslash_not_mem_normalize (path : Text) : '\\' ∉ normalize path := by
  obtain ⟨pieces, clean, relative | absolute⟩ := normalize_cases path
  · exact relative ▸ backslash_not_mem_join clean
  · rw [absolute, List.mem_cons, not_or]
    exact ⟨by decide, backslash_not_mem_join clean⟩

theorem parts_join {pieces : List Text} (clean : IsClean pieces) :
    (if (Text.join ['/'] pieces).isEmpty then []
      else segments (Text.join ['/'] pieces)) = pieces := by
  cases pieces with
  | nil => rfl
  | cons piece pieces =>
      have cut := segments_join clean (List.cons_ne_nil piece pieces)
      have nonempty : Text.join ['/'] (piece :: pieces) ≠ [] := by
        intro empty
        rw [empty] at cut
        have pieceEmpty : [] = piece := (List.cons.inj cut).1
        exact (clean piece List.mem_cons_self).1 pieceEmpty.symm
      rw [if_neg (by simpa using nonempty), cut]

theorem parts_normalize (path : Text) : parts (normalize path) = names path := by
  have clean : IsClean (names path) := isClean_segments path
  unfold parts
  by_cases absolute : IsAbsolute path
  · rw [normalize_of_absolute absolute,
      if_pos ((Text.startsWith_singleton _ _).mpr rfl)]
    exact parts_join clean
  · have relative : ¬ Text.startsWith (normalize path) ['/'] = true :=
      fun slash => absolute ((head?_normalize_iff path).mp
        ((Text.startsWith_singleton _ _).mp slash))
    rw [if_neg relative, normalize_of_relative absolute]
    exact parts_join clean

/-! ## Carrying out segments in two goes -/

theorem resolve_append (stack first second : List Text) :
    resolve stack (first ++ second) =
      resolve (resolve stack first).reverse second := by
  induction first generalizing stack with
  | nil => simp [resolve]
  | cons piece first ih =>
      rw [List.cons_append, resolve, resolve]
      split
      · exact ih stack
      · split
        · exact ih stack.tail
        · exact ih (piece :: stack)

theorem unifySeparators_append (first second : Text) :
    unifySeparators (first ++ second) =
      unifySeparators first ++ unifySeparators second :=
  List.map_append

theorem names_append_slash (first second : Text) :
    names (first ++ '/' :: second) =
      resolve (names first).reverse (segments (unifySeparators second)) := by
  have unified : unifySeparators (first ++ '/' :: second) =
      unifySeparators first ++ '/' :: unifySeparators second :=
    unifySeparators_append first ('/' :: second)
  rw [names, unified, segments, Text.splitAt_append_cons, resolve_append]
  rfl

theorem names_concat_slash (path : Text) : names (path ++ ['/']) = names path := by
  rw [names_append_slash]
  exact List.reverse_reverse _

theorem names_dropEndWhile_slash (path : Text) :
    names (Text.dropEndWhile (· == '/') path) = names path := by
  induction path using List.reverseRecOn with
  | nil => rfl
  | append_singleton path character ih =>
      by_cases slash : character = '/'
      · have dropped : Text.dropEndWhile (· == '/') (path ++ [character]) =
            Text.dropEndWhile (· == '/') path :=
          List.rdropWhile_concat_pos _ _ _ (by simpa using slash)
        rw [dropped, ih, slash, names_concat_slash]
      · have kept : Text.dropEndWhile (· == '/') (path ++ [character]) =
            path ++ [character] :=
          List.rdropWhile_concat_neg _ _ _ (by simpa using slash)
        rw [kept]

/-! ## The directory of a source -/

theorem directory_of_free {path : Text} (free : '/' ∉ path) :
    directory path = [] := by
  have nothing : Text.dropEndWhile (· != '/') path = [] := by
    refine List.rdropWhile_eq_nil_iff.mpr fun character member => ?_
    have different : character ≠ '/' := fun same => free (same ▸ member)
    simpa using different
  simp [directory, nothing]

theorem exists_last_slash {path : Text} (slash : '/' ∈ path) :
    ∃ head last, path = head ++ '/' :: last ∧ '/' ∉ last := by
  obtain ⟨last, head, reversed, free⟩ :=
    List.eq_append_cons_of_mem (List.mem_reverse.mpr slash)
  refine ⟨head.reverse, last.reverse, ?_, by simpa using free⟩
  rw [← List.reverse_reverse path, reversed]
  simp

/-- The directory of a path leaves the names in front of the last slash, and starts
where the path starts. -/
theorem directory_append_slash (head : Text) {last : Text} (free : '/' ∉ last) :
    names (directory (head ++ '/' :: last)) = names head ∧
      (IsAbsolute (directory (head ++ '/' :: last)) ↔
        IsAbsolute (head ++ '/' :: last)) := by
  have cut : Text.dropEndWhile (· != '/') (head ++ '/' :: last) =
      head ++ ['/'] := by
    refine Text.dropEndWhile_append_cons (by decide) (fun character member => ?_)
      head
    have different : character ≠ '/' := fun same => free (same ▸ member)
    simpa using different
  have inPath : head ++ ['/'] <+: head ++ '/' :: last := ⟨last, by simp⟩
  -- A proper beginning of a path starts where the path starts.
  have starts {front : Text} (nonempty : front ≠ [])
      (begins : front <+: head ++ ['/']) :
      IsAbsolute front ↔ IsAbsolute (head ++ '/' :: last) := by
    obtain ⟨first, front, rfl⟩ := List.exists_cons_of_ne_nil nonempty
    obtain ⟨rest, whole⟩ := begins.trans inPath
    rw [← whole, isAbsolute_iff, isAbsolute_iff]
    rfl
  unfold directory
  dsimp only
  rw [cut]
  split
  · exact ⟨names_concat_slash head, starts (by simp) (List.prefix_refl _)⟩
  · rename_i mixed
    refine ⟨(names_dropEndWhile_slash _).trans (names_concat_slash head),
      starts ?_ ?_⟩
    · intro empty
      have slashes := List.rdropWhile_eq_nil_iff.mp empty
      exact mixed (List.all_eq_true.mpr slashes)
    · exact List.rdropWhile_prefix _ _

/-- The directory of a source leaves what its segments in front of the last one
leave, and starts where the source starts. -/
theorem directory_unifySeparators (source : Text) :
    names (directory (unifySeparators source)) =
        resolve [] (segments (unifySeparators source)).dropLast ∧
      (IsAbsolute (directory (unifySeparators source)) ↔ IsAbsolute source) := by
  have unified : unifySeparators (unifySeparators source) =
      unifySeparators source :=
    unifySeparators_eq_self (backslash_not_mem_unifySeparators source)
  have same : IsAbsolute (unifySeparators source) ↔ IsAbsolute source := by
    rw [IsAbsolute, unified, IsAbsolute]
  by_cases slash : '/' ∈ unifySeparators source
  · obtain ⟨head, last, whole, free⟩ := exists_last_slash slash
    have plain : '\\' ∉ head := fun backslash =>
      backslash_not_mem_unifySeparators source (whole ▸ by simp [backslash])
    obtain ⟨namesEq, starts⟩ := directory_append_slash head free
    rw [whole] at same ⊢
    refine ⟨?_, starts.trans same⟩
    rw [namesEq, names, unifySeparators_eq_self plain, segments, segments,
      Text.splitAt_append_cons, Text.splitAt_of_free free, List.dropLast_concat]
  · have alone : segments (unifySeparators source) = [unifySeparators source] := by
      rw [segments, Text.splitAt_beq]
      exact List.splitOn_eq_singleton slash
    have relative : ¬ IsAbsolute source := fun absolute =>
      slash (List.mem_of_mem_head? absolute)
    rw [directory_of_free slash, alone]
    exact ⟨rfl, iff_of_false (by simp [IsAbsolute, unifySeparators]) relative⟩

/-- A last segment that names something is the last name that a source leaves. -/
theorem names_of_last {source last : Text}
    (ends : (segments (unifySeparators source)).getLast? = some last)
    (named : last ≠ [] ∧ last ≠ ['.']) (notUp : last ≠ ['.', '.']) :
    names source =
      resolve [] (segments (unifySeparators source)).dropLast ++ [last] := by
  obtain ⟨front, cut⟩ := List.getLast?_eq_some_iff.mp ends
  rw [names, cut, List.dropLast_concat, resolve_append, resolve,
    if_neg (not_or.mpr named), if_neg notUp, resolve]
  simp

/-- The segments of a normalized path without the last one leave the names of the
path without the last one. -/
theorem resolve_dropLast_segments_normalize (source : Text)
    (nonempty : names source ≠ []) :
    resolve [] (segments (unifySeparators (normalize source))).dropLast =
      (names source).dropLast := by
  have clean : IsClean (names source) := isClean_segments source
  have cleanFront : IsClean (names source).dropLast := fun name member =>
    clean name (List.dropLast_subset _ member)
  rw [unifySeparators_eq_self (backslash_not_mem_normalize source)]
  by_cases absolute : IsAbsolute source
  · rw [normalize_of_absolute absolute, segments_cons_slash,
      segments_join clean nonempty, List.dropLast_cons_of_ne_nil nonempty, resolve,
      if_pos (Or.inl rfl), resolve_of_isClean cleanFront]
    rfl
  · have relative : normalize source = Text.join ['/'] (names source) :=
      normalize_of_relative absolute
    rw [relative, segments_join clean nonempty, resolve_of_isClean cleanFront]
    rfl

/-! ## Links from a source -/

/-- A relative path behind a directory is carried out on the names of the directory,
and starts where the directory starts. -/
theorem append_relative (base : Text) {target : Text}
    (relative : ¬ IsAbsolute target) :
    names (append base target) =
        resolve (names base).reverse (segments (unifySeparators target)) ∧
      (IsAbsolute (append base target) ↔ IsAbsolute base) := by
  have notRooted : ¬ Text.startsWith target ['/'] = true := fun slash =>
    relative ((isAbsolute_iff target).mpr
      (Or.inl ((Text.startsWith_singleton _ _).mp slash)))
  by_cases empty : base = []
  · subst empty
    have alone : append [] target = target := by
      rw [append, if_neg notRooted]
      rfl
    rw [alone]
    exact ⟨rfl, iff_of_false relative (by simp [IsAbsolute, unifySeparators])⟩
  have starts (rest : Text) : IsAbsolute (base ++ rest) ↔ IsAbsolute base := by
    obtain ⟨first, base, rfl⟩ := List.exists_cons_of_ne_nil empty
    rw [isAbsolute_iff, isAbsolute_iff]
    rfl
  unfold append
  rw [if_neg notRooted]
  split
  · rename_i closed
    refine ⟨?_, starts target⟩
    have slash : Text.endsWith base ['/'] = true :=
      closed.resolve_left (by simpa using empty)
    obtain ⟨front, rfl⟩ := List.isSuffixOf_iff_suffix.mp slash
    rw [List.append_assoc, List.singleton_append, names_append_slash,
      names_concat_slash]
  · exact ⟨names_append_slash base target, starts _⟩

/-- Where a link leads depends on where its source starts, and on what the segments
of the source in front of the last one leave. -/
theorem resolveRelative_congr {first second : Text} (target : Text)
    (start : IsAbsolute first ↔ IsAbsolute second)
    (same : resolve [] (segments (unifySeparators first)).dropLast =
      resolve [] (segments (unifySeparators second)).dropLast) :
    resolveRelative first target = resolveRelative second target := by
  unfold resolveRelative
  dsimp only
  split
  · rfl
  · rename_i notRooted
    have unified : unifySeparators (unifySeparators target) =
        unifySeparators target :=
      unifySeparators_eq_self (backslash_not_mem_unifySeparators target)
    have relative : ¬ IsAbsolute (unifySeparators target) := by
      rw [IsAbsolute, unified]
      exact fun slash => notRooted ((Text.startsWith_singleton _ _).mpr slash)
    obtain ⟨namesFirst, startsFirst⟩ := directory_unifySeparators first
    obtain ⟨namesSecond, startsSecond⟩ := directory_unifySeparators second
    obtain ⟨onFirst, asFirst⟩ :=
      append_relative (directory (unifySeparators first)) relative
    obtain ⟨onSecond, asSecond⟩ :=
      append_relative (directory (unifySeparators second)) relative
    refine normalize_congr ?_ ?_
    · rw [asFirst, asSecond, startsFirst, startsSecond]
      exact start
    · rw [onFirst, onSecond, namesFirst, namesSecond, same]

theorem normalize_resolveRelative (source target : Text) :
    normalize (resolveRelative source target) = resolveRelative source target := by
  unfold resolveRelative
  dsimp only
  split <;> exact normalize_normalize _

/-- The segments of a path between separators of either kind are those between the
slashes once the separators are unified. -/
theorem splitAt_separators (path : Text) :
    Text.splitAt (fun character => character == '/' || character == '\\') path =
      segments (unifySeparators path) := by
  unfold segments unifySeparators
  induction path with
  | nil => rfl
  | cons character path ih =>
      obtain ⟨piece, pieces, cut⟩ := List.exists_cons_of_ne_nil
        (Text.splitAt_ne_nil '/' (unifySeparators path))
      rw [unifySeparators] at cut
      rw [List.map_cons, Text.splitAt, Text.splitAt, ih, cut]
      by_cases backslash : character = '\\' <;> simp [backslash]

/-- A normalized path has only slashes between its segments, none of its segments is
empty or stands for the same or the upper directory, it starts at the root exactly if
the path does, and it is its own normalized form.  A link leads to a normalized path,
and from a source whose last segment names something it leads where it leads from the
normalized source. -/
theorem normalize_is_canonical :
    (∀ path : Text,
      '\\' ∉ normalize path ∧
      (∀ segment ∈ parts (normalize path),
        segment ≠ [] ∧ segment ≠ ['.'] ∧ segment ≠ ['.', '.']) ∧
      ((normalize path).head? = some '/' ↔
        path.head? = some '/' ∨ path.head? = some '\\') ∧
      normalize (normalize path) = normalize path) ∧
    ∀ source last target : Text,
      (Text.splitAt (fun character => character == '/' || character == '\\')
        source).getLast? = some last →
      last ≠ [] ∧ last ≠ ['.'] ∧ last ≠ ['.', '.'] →
      resolveRelative source target =
          resolveRelative (normalize source) target ∧
        normalize (resolveRelative source target) =
          resolveRelative source target := by
  refine ⟨fun path => ⟨backslash_not_mem_normalize path, ?_, ?_,
    normalize_normalize path⟩, ?_⟩
  · intro segment member
    rw [parts_normalize] at member
    obtain ⟨notEmpty, notSame, notUp, -⟩ := isClean_segments path segment member
    exact ⟨notEmpty, notSame, notUp⟩
  · rw [head?_normalize_iff, isAbsolute_iff]
  · rintro source last target ends ⟨notEmpty, notSame, notUp⟩
    refine ⟨?_, normalize_resolveRelative source target⟩
    rw [splitAt_separators] at ends
    have namesEq := names_of_last ends ⟨notEmpty, notSame⟩ notUp
    have start : IsAbsolute source ↔ IsAbsolute (normalize source) := by
      rw [← head?_normalize_iff (normalize source), normalize_normalize,
        head?_normalize_iff]
    have front := resolve_dropLast_segments_normalize source (by simp [namesEq])
    refine resolveRelative_congr target start ?_
    rw [front, namesEq, List.dropLast_concat]

/-- A source with both separators, empty segments, and a `..` that climbs above the
first segment. -/
theorem normalize_is_canonical_mixed :
    let source := "docs\\..//..\\guide/.\\a.md".toList
    let target := "..\\img/./logo.png".toList
    (Text.splitAt (fun character => character == '/' || character == '\\')
        source).getLast? = some "a.md".toList ∧
    resolveRelative source target = "img/logo.png".toList ∧
    resolveRelative (normalize source) target = "img/logo.png".toList := by
  intro source target
  have ends : (Text.splitAt (fun character => character == '/' || character == '\\')
      source).getLast? = some "a.md".toList := by decide
  have same := (normalize_is_canonical.2 source _ target ends (by decide)).1
  exact ⟨ends, by decide, same ▸ by decide⟩

end Path

end AnchorLint
