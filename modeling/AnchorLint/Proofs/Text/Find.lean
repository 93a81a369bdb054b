import AnchorLint.Text.Scan
import Mathlib.Order.Bounds.Basic

/-!
# Searching a text

A word is found in a text if and only if it occurs in it, the place where it is
found is the first one, and the last place where it is found lies behind a position
if and only if it occurs behind that position.  A word that is found in the first part of a text is found there whatever
follows.  Matches of a pattern lie inside the text, and each of them is what the
pattern reads there.
-/

namespace AnchorLint

namespace Text

theorem isSome_find?_iff {word text : Text} :
    (find? word text).isSome = true ↔ word <:+: text := by
  induction text with
  | nil => cases word <;> simp [find?]
  | cons character rest ih =>
      rw [find?, List.infix_cons_iff, ← ih, ← List.isPrefixOf_iff_prefix]
      cases word.isPrefixOf (character :: rest) <;> simp

theorem prefix_of_find? {word text : Text} {position : Nat}
    (found : find? word text = some position) :
    word <+: text.drop position := by
  induction text generalizing position with
  | nil =>
      cases word with
      | nil => exact List.nil_prefix
      | cons character rest => simp [find?] at found
  | cons character rest ih =>
      rw [find?] at found
      split at found
      · rename_i here
        cases found
        exact List.isPrefixOf_iff_prefix.mp here
      · obtain ⟨later, foundLater, rfl⟩ := Option.map_eq_some_iff.mp found
        exact ih foundLater

theorem bounds_of_findFrom? {word text : Text} {start position : Nat}
    (found : findFrom? word text start = some position) (proper : word ≠ []) :
    start ≤ position ∧ position + word.length ≤ text.length := by
  obtain ⟨later, foundLater, rfl⟩ := Option.map_eq_some_iff.mp found
  have fits := (prefix_of_find? foundLater).length_le
  have positive := List.length_pos_iff.mpr proper
  simp only [List.length_drop] at fits
  omega

/-- The places at or behind a position where a word occurs in a text. -/
def occurrences (word text : Text) (start : Nat) : Set Nat :=
  {place | start ≤ place ∧ word <+: text.drop place}

theorem prefix_of_mem_occurrences {word text : Text} {start place : Nat}
    (occurs : place ∈ occurrences word text start) :
    word <+: (text.drop start).drop (place - start) := by
  obtain ⟨behind, found⟩ := occurs
  rwa [List.drop_drop, Nat.add_sub_of_le behind]

theorem le_of_find? {word text : Text} {position place : Nat}
    (found : find? word text = some position) (occurs : word <+: text.drop place) :
    position ≤ place := by
  induction text generalizing position place with
  | nil =>
      cases word with
      | nil =>
          obtain rfl : 0 = position := Option.some.inj found
          exact Nat.zero_le _
      | cons character rest => simp [find?] at found
  | cons character rest ih =>
      rw [find?] at found
      split at found
      · obtain rfl := Option.some.inj found
        exact Nat.zero_le _
      · rename_i notHere
        obtain ⟨later, foundLater, rfl⟩ := Option.map_eq_some_iff.mp found
        cases place with
        | zero => exact absurd (List.isPrefixOf_iff_prefix.mpr occurs) notHere
        | succ place => exact Nat.succ_le_succ (ih foundLater occurs)

theorem isLeast_findFrom? {word text : Text} {start position : Nat}
    (found : findFrom? word text start = some position) :
    IsLeast (occurrences word text start) position := by
  obtain ⟨later, foundLater, rfl⟩ := Option.map_eq_some_iff.mp found
  constructor
  · have occurs := prefix_of_find? foundLater
    rw [List.drop_drop, Nat.add_comm] at occurs
    exact ⟨Nat.le_add_left _ _, occurs⟩
  · intro place occurs
    have le := le_of_find? foundLater (prefix_of_mem_occurrences occurs)
    have behind := occurs.1
    omega

theorem occurrences_eq_empty {word text : Text} {start : Nat}
    (missing : findFrom? word text start = none) :
    occurrences word text start = ∅ := by
  ext place
  simp only [Set.mem_empty_iff_false, iff_false]
  intro occurs
  have within := (prefix_of_mem_occurrences occurs).isInfix
  have found := isSome_find?_iff.mpr (within.trans (List.drop_suffix _ _).isInfix)
  rw [Option.map_eq_none_iff.mp missing] at found
  cases found

theorem isSome_findLast?_iff {word text : Text} :
    (findLast? word text).isSome = true ↔ word <:+: text := by
  induction text with
  | nil => cases word <;> simp [findLast?]
  | cons character rest ih =>
      rw [findLast?, List.infix_cons_iff, ← ih, ← List.isPrefixOf_iff_prefix]
      cases findLast? word rest <;> simp

theorem findLast?_append {word text : Text} {position : Nat}
    (found : findLast? word text = some position) (front : Text) :
    findLast? word (front ++ text) = some (position + front.length) := by
  induction front with
  | nil => exact found
  | cons character front ih =>
      rw [List.cons_append, findLast?, ih]
      rfl

/-- The last place of a word lies behind a position if and only if the word
occurs behind it. -/
theorem any_findLast?_iff {word text : Text} (proper : word ≠ [])
    (position : Nat) :
    (findLast? word text).any (position < ·) = true ↔
      word <:+: text.drop (position + 1) := by
  induction text generalizing position with
  | nil => cases word <;> simp_all [findLast?]
  | cons character rest ih =>
      rw [List.drop_succ_cons, findLast?]
      cases position with
      | zero =>
          rw [List.drop_zero, ← isSome_findLast?_iff]
          cases findLast? word rest with
          | none => cases word.isPrefixOf (character :: rest) <;> simp
          | some last => simp
      | succ position =>
          rw [← ih position]
          cases findLast? word rest with
          | none => cases word.isPrefixOf (character :: rest) <;> simp
          | some last => simp

/-- A word without a character that cuts a text occurs before or behind it. -/
theorem infix_append_cons {word first second : Text} {cut : Char}
    (whole : cut ∉ word) (found : word <:+: first ++ cut :: second) :
    word <:+: first ∨ word <:+: second := by
  obtain ⟨before, behind, equal⟩ := found
  rcases List.append_eq_append_iff.mp equal with
    ⟨rest, inFirst, -⟩ | ⟨rest, longer, tail⟩
  · exact Or.inl ⟨before, rest, inFirst.symm⟩
  · cases rest with
    | nil => exact Or.inl ⟨before, [], by simpa using longer⟩
    | cons character rest =>
        obtain ⟨rfl, rfl⟩ := List.cons.inj tail
        rw [List.append_cons] at longer
        rcases List.append_eq_append_iff.mp longer with
          ⟨start, cutEq, wordEq⟩ | ⟨start, -, restEq⟩
        · rcases List.eq_nil_or_concat start with rfl | ⟨start, last, rfl⟩
          · exact Or.inr ⟨[], behind, by simp [wordEq]⟩
          · have last : last = cut := by
              have := congrArg List.getLast? cutEq
              simpa using this.symm
            exact absurd (by simp [wordEq, last]) whole
        · exact Or.inr ⟨start, behind, by simp [restEq]⟩

theorem isPrefixOf_append {word shared : Text}
    (short : word.length ≤ shared.length) (rest : Text) :
    word.isPrefixOf (shared ++ rest) = word.isPrefixOf shared := by
  rw [Bool.eq_iff_iff, List.isPrefixOf_iff_prefix, List.isPrefixOf_iff_prefix]
  exact ⟨fun found => List.prefix_of_prefix_length_le found
    (List.prefix_append _ _) short, List.prefix_append_of_prefix⟩

/-- A word that is found in the first part of a text is found there whatever
follows that part. -/
theorem find?_append {word shared rest : Text} {position : Nat}
    (found : find? word (shared ++ rest) = some position)
    (inside : position + word.length ≤ shared.length) (other : Text) :
    find? word (shared ++ other) = some position := by
  induction shared generalizing position with
  | nil =>
      obtain rfl := List.eq_nil_of_length_eq_zero
        (Nat.le_zero.mp (Nat.le_of_add_left_le inside))
      obtain rfl : position = 0 := Nat.le_zero.mp inside
      cases other <;> rfl
  | cons character shared ih =>
      have short : word.length ≤ (character :: shared).length :=
        Nat.le_of_add_left_le inside
      rw [List.cons_append, find?, ← List.cons_append, isPrefixOf_append short]
        at found ⊢
      split at found
      · rename_i here
        rw [if_pos here, found]
      · rename_i notHere
        obtain ⟨later, foundLater, rfl⟩ := Option.map_eq_some_iff.mp found
        rw [List.length_cons] at inside
        rw [if_neg notHere, ih foundLater (by omega)]
        rfl

theorem findFrom?_append {word shared rest : Text} {start position : Nat}
    (found : findFrom? word (shared ++ rest) start = some position)
    (inside : position + word.length ≤ shared.length) (other : Text) :
    findFrom? word (shared ++ other) start = some position := by
  obtain ⟨later, foundLater, rfl⟩ := Option.map_eq_some_iff.mp found
  have reached : start ≤ shared.length := by omega
  rw [List.drop_append_of_le_length reached] at foundLater
  rw [findFrom?, List.drop_append_of_le_length reached,
    find?_append foundLater (by rw [List.length_drop]; omega)]
  rfl

theorem slice_append {shared : Text} {start stop : Nat}
    (inside : stop ≤ shared.length) (rest : Text) :
    (shared ++ rest).slice start stop = shared.slice start stop := by
  rcases Nat.le_total start shared.length with reached | passed
  · rw [slice, slice, List.drop_append_of_le_length reached,
      List.take_append_of_le_length (by rw [List.length_drop]; omega)]
  · have empty : stop - start = 0 := by omega
    rw [slice, slice, empty, List.take_zero, List.take_zero]

end Text

namespace Pattern

variable {α : Type}

/-- Whether a pattern matches at a place in a text. -/
structure IsMatch (pattern : Pattern α) (text : Text) (found : Found α) :
    Prop where
  lt_stop : found.start < found.stop
  stop_le : found.stop ≤ text.length
  reads : ∃ before after,
    pattern before (text.drop found.start) = some (found.value, after) ∧
      found.stop = found.start + 1 +
        (text.length - (found.start + 1) - after.length)

theorem IsMatch.cons {pattern : Pattern α} {text : Text} {position : Nat}
    {found : Found α} (behind : position + 1 ≤ found.start)
    (isMatch : IsMatch pattern text
      ⟨found.start - (position + 1), found.stop - (position + 1), found.value⟩)
    (character : Char) :
    IsMatch pattern (character :: text)
      ⟨found.start - position, found.stop - position, found.value⟩ where
  lt_stop := by
    have := isMatch.lt_stop
    dsimp only at this ⊢
    omega
  stop_le := by
    have := isMatch.lt_stop
    have := isMatch.stop_le
    simp only [List.length_cons] at *
    omega
  reads := by
    obtain ⟨before, after, read, stop⟩ := isMatch.reads
    have start : found.start - position = found.start - (position + 1) + 1 := by
      omega
    refine ⟨before, after, ?_, ?_⟩
    · simpa only [start, List.drop_succ_cons] using read
    · have := isMatch.lt_stop
      simp only [List.length_cons] at this stop ⊢
      omega

theorem isMatch_of_mem_findFrom {pattern : Pattern α} {skip position : Nat}
    {before : Option Char} {text : Text} {found : Found α}
    (member : found ∈ findFrom pattern skip position before text) :
    position ≤ found.start ∧ IsMatch pattern text
      ⟨found.start - position, found.stop - position, found.value⟩ := by
  induction text generalizing skip position before with
  | nil => simp [findFrom] at member
  | cons character rest ih =>
      have later {skip : Nat}
          (member : found ∈
            findFrom pattern skip (position + 1) (some character) rest) :
          position ≤ found.start ∧ IsMatch pattern (character :: rest)
            ⟨found.start - position, found.stop - position, found.value⟩ := by
        obtain ⟨behind, isMatch⟩ := ih member
        exact ⟨Nat.le_of_succ_le behind, isMatch.cons behind character⟩
      cases skip with
      | succ skip =>
          rw [findFrom] at member
          exact later member
      | zero =>
          rw [findFrom] at member
          split at member
          · exact later member
          · rename_i value after read
            rcases List.mem_cons.mp member with rfl | member
            · refine ⟨Nat.le_refl _, ?_, ?_, before, after, ?_, ?_⟩
              · dsimp only
                omega
              · simp only [List.length_cons]
                omega
              · simpa only [Nat.sub_self, List.drop_zero] using read
              · simp only [List.length_cons]
                omega
            · exact later member

theorem isMatch_of_mem_findAll {pattern : Pattern α} {text : Text}
    {found : Found α} (member : found ∈ findAll pattern text) :
    IsMatch pattern text found :=
  (isMatch_of_mem_findFrom member).2

theorem le_start_of_mem_findFrom {pattern : Pattern α} {skip position : Nat}
    {before : Option Char} {text : Text} {found : Found α}
    (member : found ∈ findFrom pattern skip position before text) :
    position + skip ≤ found.start := by
  induction text generalizing skip position before with
  | nil => simp [findFrom] at member
  | cons character rest ih =>
      cases skip with
      | succ skip =>
          have later := ih member
          omega
      | zero =>
          rw [findFrom] at member
          split at member
          · have later := ih member
            omega
          · rcases List.mem_cons.mp member with rfl | member
            · exact Nat.le_refl _
            · have later := ih member
              omega

/-- Matches are found from left to right, and none of them begins before the one
found earlier has ended. -/
theorem pairwise_findAll (pattern : Pattern α) (text : Text) :
    (findAll pattern text).Pairwise fun first second =>
      first.stop ≤ second.start := by
  have scanned (text : Text) : ∀ (skip position : Nat) (before : Option Char),
      (findFrom pattern skip position before text).Pairwise fun first second =>
        first.stop ≤ second.start := by
    induction text with
    | nil => exact fun _ _ _ => by simp [findFrom]
    | cons character rest ih =>
        intro skip position before
        cases skip with
        | succ skip => exact ih _ _ _
        | zero =>
            rw [findFrom]
            split
            · exact ih _ _ _
            · exact List.pairwise_cons.mpr
                ⟨fun found member => le_start_of_mem_findFrom member, ih _ _ _⟩
  exact scanned text 0 0 none

/-- Whether a pattern matches only where something visible stands. -/
def IsSolid (pattern : Pattern α) : Prop :=
  ∀ before text value after, pattern before text = some (value, after) →
    ∃ first rest, text = first :: rest ∧ first ≠ ' '

/-- Whether what a pattern matches is a word that its value tells. -/
def Spells (pattern : Pattern α) (word : α → Text) : Prop :=
  ∀ before text value after, pattern before text = some (value, after) →
    text = word value ++ after

theorem IsSolid.exists_getElem? {pattern : Pattern α} (solid : pattern.IsSolid)
    {text : Text} {found : Found α} (isMatch : IsMatch pattern text found) :
    ∃ first, text[found.start]? = some first ∧ first ≠ ' ' := by
  obtain ⟨before, after, read, -⟩ := isMatch.reads
  obtain ⟨first, rest, shown, visible⟩ := solid _ _ _ _ read
  refine ⟨first, ?_, visible⟩
  rw [← List.head?_drop, shown, List.head?_cons]

/-- A match covers the word that its value tells. -/
theorem Spells.stop_eq {pattern : Pattern α} {word : α → Text}
    (spells : pattern.Spells word) {text : Text} {found : Found α}
    (isMatch : IsMatch pattern text found) (nonempty : word found.value ≠ []) :
    found.stop = found.start + (word found.value).length := by
  obtain ⟨before, after, read, stop⟩ := isMatch.reads
  have lengths := congrArg List.length (spells _ _ _ _ read)
  have positive := List.length_pos_iff.mpr nonempty
  rw [List.length_drop, List.length_append] at lengths
  omega

end Pattern

end AnchorLint
