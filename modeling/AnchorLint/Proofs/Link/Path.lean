import AnchorLint.Link.Path
import Mathlib.Data.List.Basic

/-!
# Normalized paths

A normalized path is made of segments that name something: none is empty, none
stands for the same or the upper directory, and none holds a separator.  Such a
path is its own normalized form.  What a link leads to is normalized too, unless
the link goes to a drive or a network share: then it starts with two slashes,
and its normalized form is an absolute path.
-/

namespace AnchorLint

namespace Text

theorem startsWith_singleton (text : Text) (character : Char) :
    startsWith text [character] = true ↔ text.head? = some character := by
  cases text with
  | nil => simp [startsWith]
  | cons first rest =>
      simp only [startsWith, List.isPrefixOf_cons_cons, List.isPrefixOf_nil_left,
        Bool.and_true, beq_iff_eq, List.head?_cons, Option.some.injEq]
      exact eq_comm

theorem splitAt_beq (separator : Char) (text : Text) :
    splitAt (· == separator) text = text.splitOn separator := by
  induction text with
  | nil => simp [splitAt]
  | cons character rest ih =>
      rw [splitAt, ih, List.splitOn_cons_eq_if_modifyHead]
      obtain ⟨piece, pieces, split⟩ :=
        List.exists_cons_of_ne_nil (List.splitOn_ne_nil separator rest)
      simp [split]

theorem splitAt_ne_nil (separator : Char) (text : Text) :
    splitAt (· == separator) text ≠ [] := by
  rw [splitAt_beq]
  exact List.splitOn_ne_nil separator text

theorem splitAt_of_free {separator : Char} {text : Text} (free : separator ∉ text) :
    splitAt (· == separator) text = [text] := by
  rw [splitAt_beq]
  exact List.splitOn_eq_singleton free

theorem splitAt_append_cons (separator : Char) (first second : Text) :
    splitAt (· == separator) (first ++ separator :: second) =
      splitAt (· == separator) first ++ splitAt (· == separator) second := by
  simp only [splitAt_beq]
  exact List.splitOnP_append_cons first second (beq_self_eq_true separator)

theorem mem_of_mem_splitOn {separator : Char} {text piece : Text}
    (member : piece ∈ text.splitOn separator) :
    ∀ character ∈ piece, character ≠ separator ∧ character ∈ text := by
  induction text generalizing piece with
  | nil =>
      obtain rfl : piece = [] := by simpa using member
      simp
  | cons first rest ih =>
      rw [List.splitOn_cons_eq_if_modifyHead] at member
      obtain ⟨head, tail, split⟩ :=
        List.exists_cons_of_ne_nil (List.splitOn_ne_nil separator rest)
      rw [split] at member ih
      intro character inside
      have fromRest {piece : Text} (later : piece ∈ head :: tail)
          (inside : character ∈ piece) :
          character ≠ separator ∧ character ∈ first :: rest :=
        (ih later character inside).imp_right (List.mem_cons_of_mem first)
      by_cases cut : first = separator
      · simp only [cut, beq_self_eq_true, if_true] at member
        rcases List.mem_cons.mp member with rfl | later
        · simp at inside
        · exact cut ▸ fromRest later inside
      · simp only [beq_eq_false_iff_ne.mpr cut, Bool.false_eq_true, if_false,
          List.modifyHead_cons] at member
        rcases List.mem_cons.mp member with rfl | later
        · rcases List.mem_cons.mp inside with rfl | inHead
          · exact ⟨cut, List.mem_cons_self⟩
          · exact fromRest List.mem_cons_self inHead
        · exact fromRest (List.mem_cons_of_mem _ later) inside

end Text

namespace Path

/-- Segments of a normalized path: all of them name something. -/
def IsClean (segments : List Text) : Prop :=
  ∀ segment ∈ segments, segment ≠ [] ∧ segment ≠ ['.'] ∧
    segment ≠ ['.', '.'] ∧ '/' ∉ segment ∧ '\\' ∉ segment

theorem backslash_not_mem_unifySeparators (path : Text) :
    '\\' ∉ unifySeparators path := by
  intro member
  obtain ⟨character, -, equal⟩ := List.mem_map.mp member
  split at equal
  · simp at equal
  · contradiction

theorem unifySeparators_eq_self {path : Text} (unified : '\\' ∉ path) :
    unifySeparators path = path := by
  have same : ∀ character ∈ path,
      (if character = '\\' then '/' else character) = character := by
    intro character member
    have different : character ≠ '\\' := fun equal => unified (equal ▸ member)
    exact if_neg different
  exact (List.map_congr_left same).trans (List.map_id' path)

theorem mem_segments {path segment : Text} (member : segment ∈ segments path) :
    ∀ character ∈ segment, character ≠ '/' ∧ character ∈ path :=
  Text.mem_of_mem_splitOn (Text.splitAt_beq '/' path ▸ member)

theorem segments_join {pieces : List Text} (clean : IsClean pieces)
    (nonempty : pieces ≠ []) : segments (Text.join ['/'] pieces) = pieces := by
  rw [segments, Text.splitAt_beq]
  exact List.splitOn_intercalate '/'
    (fun piece member => (clean piece member).2.2.2.1) nonempty

theorem segments_cons_slash (path : Text) :
    segments ('/' :: path) = [] :: segments path := by
  simp [segments, Text.splitAt_beq, List.splitOn_cons_eq_if_modifyHead]

/-! ## Carrying out segments -/

theorem isClean_resolve {stack pieces : List Text} (clean : IsClean stack)
    (plain : ∀ piece ∈ pieces, '/' ∉ piece ∧ '\\' ∉ piece) :
    IsClean (resolve stack pieces) := by
  induction pieces generalizing stack with
  | nil =>
      intro segment member
      exact clean segment (List.mem_reverse.mp member)
  | cons piece pieces ih =>
      obtain ⟨plainHere, plainRest⟩ := List.forall_mem_cons.mp plain
      unfold resolve
      split
      · exact ih clean plainRest
      · rename_i named
        split
        · exact ih (fun segment member =>
            clean segment (List.mem_of_mem_tail member)) plainRest
        · rename_i notUp
          refine ih ?_ plainRest
          refine List.forall_mem_cons.mpr ⟨?_, clean⟩
          obtain ⟨notEmpty, notSame⟩ := not_or.mp named
          exact ⟨notEmpty, notSame, notUp, plainHere⟩

theorem resolve_of_isClean {stack pieces : List Text} (clean : IsClean pieces) :
    resolve stack pieces = stack.reverse ++ pieces := by
  induction pieces generalizing stack with
  | nil => simp [resolve]
  | cons piece pieces ih =>
      obtain ⟨cleanHere, cleanRest⟩ := List.forall_mem_cons.mp clean
      obtain ⟨notEmpty, notSame, notUp, -⟩ := cleanHere
      rw [resolve, if_neg (not_or.mpr ⟨notEmpty, notSame⟩), if_neg notUp,
        ih cleanRest]
      simp

theorem isClean_segments (path : Text) :
    IsClean (resolve [] (segments (unifySeparators path))) := by
  refine isClean_resolve (fun _ member => absurd member (by simp)) ?_
  intro piece member
  refine ⟨fun slash => (mem_segments member _ slash).1 rfl, fun backslash => ?_⟩
  exact backslash_not_mem_unifySeparators path
    (mem_segments member _ backslash).2

/-! ## Normalized paths -/

theorem head?_join_ne_slash {pieces : List Text} (clean : IsClean pieces) :
    (Text.join ['/'] pieces).head? ≠ some '/' := by
  cases pieces with
  | nil => simp [Text.join]
  | cons piece pieces =>
      obtain ⟨notEmpty, -, -, noSlash, -⟩ := clean piece List.mem_cons_self
      obtain ⟨first, rest, rfl⟩ := List.exists_cons_of_ne_nil notEmpty
      have different : first ≠ '/' := fun equal => noSlash (by simp [equal])
      cases pieces <;> simpa [Text.join] using different

theorem backslash_not_mem_join {pieces : List Text} (clean : IsClean pieces) :
    '\\' ∉ Text.join ['/'] pieces := by
  induction pieces with
  | nil => simp [Text.join]
  | cons piece pieces ih =>
      obtain ⟨cleanHere, cleanRest⟩ := List.forall_mem_cons.mp clean
      have notHere := cleanHere.2.2.2.2
      have notLater := ih cleanRest
      cases pieces with
      | nil => simpa [Text.join] using notHere
      | cons second rest =>
          simp only [Text.join, List.intercalate_cons_cons, List.mem_append,
            List.mem_singleton, not_or]
          exact ⟨⟨notHere, by decide⟩, notLater⟩

theorem resolve_segments_join {pieces : List Text} (clean : IsClean pieces) :
    resolve [] (segments (Text.join ['/'] pieces)) = pieces := by
  by_cases nonempty : pieces = []
  · subst nonempty
    rfl
  · rw [segments_join clean nonempty, resolve_of_isClean clean]
    rfl

/-- A path of clean segments is its own normalized form. -/
theorem normalize_join {pieces : List Text} (clean : IsClean pieces) :
    normalize (Text.join ['/'] pieces) = Text.join ['/'] pieces := by
  have unified := unifySeparators_eq_self (backslash_not_mem_join clean)
  have relative : ¬ Text.startsWith (Text.join ['/'] pieces) ['/'] = true :=
    fun slash => head?_join_ne_slash clean
      ((Text.startsWith_singleton _ _).mp slash)
  simp only [normalize, unified, resolve_segments_join clean, if_neg relative]

theorem normalize_slash_join {pieces : List Text} (clean : IsClean pieces) :
    normalize ('/' :: Text.join ['/'] pieces) =
      '/' :: Text.join ['/'] pieces := by
  have unified : unifySeparators ('/' :: Text.join ['/'] pieces) =
      '/' :: Text.join ['/'] pieces :=
    unifySeparators_eq_self (by simp [backslash_not_mem_join clean])
  have absolute : Text.startsWith ('/' :: Text.join ['/'] pieces) ['/'] =
      true := (Text.startsWith_singleton _ _).mpr rfl
  have skipped : resolve [] (segments ('/' :: Text.join ['/'] pieces)) =
      pieces := by
    rw [segments_cons_slash, resolve, if_pos (Or.inl rfl)]
    exact resolve_segments_join clean
  simp only [normalize, unified, skipped, absolute, if_true]

theorem normalize_of_relative {path : Text}
    (relative : (unifySeparators path).head? ≠ some '/') :
    normalize path =
      Text.join ['/'] (resolve [] (segments (unifySeparators path))) :=
  if_neg fun slash => relative ((Text.startsWith_singleton _ _).mp slash)

/-- A normalized path consists of clean segments, maybe behind a slash. -/
theorem normalize_cases (path : Text) :
    ∃ pieces, IsClean pieces ∧
      (normalize path = Text.join ['/'] pieces ∨
        normalize path = '/' :: Text.join ['/'] pieces) := by
  refine ⟨_, isClean_segments path, ?_⟩
  unfold normalize
  dsimp only
  split
  · exact Or.inr rfl
  · exact Or.inl rfl

@[simp]
theorem normalize_normalize (path : Text) :
    normalize (normalize path) = normalize path := by
  obtain ⟨pieces, clean, relative | absolute⟩ := normalize_cases path
  · rw [relative, normalize_join clean]
  · rw [absolute, normalize_slash_join clean]

theorem head?_normalize_of_slash {path : Text} (absolute : path.head? = some '/') :
    (normalize path).head? = some '/' := by
  obtain ⟨rest, rfl⟩ : ∃ rest, path = '/' :: rest := by
    cases path with
    | nil => simp at absolute
    | cons first rest => exact ⟨rest, by simpa using absolute⟩
  have starts : Text.startsWith (unifySeparators ('/' :: rest)) ['/'] = true :=
    (Text.startsWith_singleton _ _).mpr rfl
  simp only [normalize, starts, if_true, List.head?_cons]

theorem dropWhile_slash_join {pieces : List Text} (clean : IsClean pieces) :
    (Text.join ['/'] pieces).dropWhile (· == '/') = Text.join ['/'] pieces := by
  have relative := head?_join_ne_slash clean
  cases joined : Text.join ['/'] pieces with
  | nil => rfl
  | cons first rest =>
      rw [joined] at relative
      have different : first ≠ '/' := by simpa using relative
      simp [different]

theorem dropWhile_slash_normalize (path : Text) :
    ∃ pieces, IsClean pieces ∧
      (normalize path).dropWhile (· == '/') = Text.join ['/'] pieces := by
  obtain ⟨pieces, clean, either⟩ := normalize_cases path
  refine ⟨pieces, clean, ?_⟩
  rcases either with equal | equal <;> simp [equal, dropWhile_slash_join clean]

/-- What a link leads to is normalized, or a place that no relative path
names. -/
theorem normalize_resolveTarget (source : Text) (kind : LinkKind)
    (path : Option Text) :
    normalize (resolveTarget source kind path) =
        resolveTarget source kind path ∨
      (normalize (resolveTarget source kind path)).head? = some '/' := by
  unfold resolveTarget
  dsimp only
  split
  · split
    · exact Or.inr (head?_normalize_of_slash rfl)
    · obtain ⟨pieces, clean, equal⟩ :=
        dropWhile_slash_normalize (Percent.decodeLossy (path.getD []))
      exact Or.inl (equal ▸ normalize_join clean)
  · refine Or.inl ?_
    unfold resolveRelative
    dsimp only
    split <;> exact normalize_normalize _

end Path

end AnchorLint
