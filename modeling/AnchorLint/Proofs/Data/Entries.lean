import AnchorLint.Workspace.Basic
import Mathlib.Data.List.Nodup
import Mathlib.Data.List.Perm.Basic

/-!
# Entries as finite maps

Entries are lists of pairs, and what counts about them is which value they hold
for a key.  Putting a value and erasing a key change what is held for that key
and nothing else, and keep the keys distinct.  As long as the keys are distinct,
the order of the entries does not matter.
-/

namespace AnchorLint

namespace Entries

variable {κ α β : Type}

def keys (entries : Entries κ α) : List κ :=
  entries.map Prod.fst

theorem mem_keys_of_mem {entries : Entries κ α} {key : κ} {value : α}
    (member : (key, value) ∈ entries) : key ∈ entries.keys :=
  List.mem_map_of_mem member

theorem keys_map_value (entries : Entries κ α) (change : κ × α → β) :
    keys (entries.map fun entry => (entry.1, change entry)) = entries.keys := by
  rw [keys, List.map_map]
  rfl

section Lookup

variable [BEq κ] [LawfulBEq κ]

theorem lookup_cons_of_ne {first key : κ} (different : key ≠ first)
    (value : α) (entries : Entries κ α) :
    List.lookup key ((first, value) :: entries) = entries.lookup key := by
  have notSame : (key == first) = false := beq_eq_false_iff_ne.mpr different
  rw [List.lookup_cons, notSame]

theorem mem_of_lookup {entries : Entries κ α} {key : κ} {value : α}
    (found : entries.lookup key = some value) : (key, value) ∈ entries := by
  obtain ⟨before, behind, rfl, -⟩ := List.lookup_eq_some_iff.mp found
  simp

theorem lookup_of_mem {entries : Entries κ α} {key : κ} {value : α}
    (nodup : entries.keys.Nodup) (member : (key, value) ∈ entries) :
    entries.lookup key = some value := by
  induction entries with
  | nil => simp at member
  | cons entry entries ih =>
      obtain ⟨missing, nodupRest⟩ := List.nodup_cons.mp nodup
      obtain ⟨first, held⟩ := entry
      rcases List.mem_cons.mp member with equal | later
      · obtain ⟨rfl, rfl⟩ := Prod.mk.inj equal
        exact List.lookup_cons_self
      · have different : key ≠ first := by
          rintro rfl
          exact missing (mem_keys_of_mem later)
        rw [lookup_cons_of_ne different]
        exact ih nodupRest later

theorem lookup_eq_some_iff_mem {entries : Entries κ α} {key : κ} {value : α}
    (nodup : entries.keys.Nodup) :
    entries.lookup key = some value ↔ (key, value) ∈ entries :=
  ⟨mem_of_lookup, lookup_of_mem nodup⟩

theorem isSome_lookup_iff {entries : Entries κ α} {key : κ} :
    (entries.lookup key).isSome = true ↔ key ∈ entries.keys := by
  rw [List.lookup_isSome_iff, keys, List.mem_map]
  constructor
  · rintro ⟨entry, member, same⟩
    exact ⟨entry, member, (eq_of_beq same).symm⟩
  · rintro ⟨entry, member, rfl⟩
    exact ⟨entry, member, beq_self_eq_true _⟩

theorem lookup_eq_none_iff_not_mem {entries : Entries κ α} {key : κ} :
    entries.lookup key = none ↔ key ∉ entries.keys := by
  rw [← isSome_lookup_iff, Option.not_isSome_iff_eq_none]

/-- Entries with the same distinct keys and values hold the same, in whatever
order they stand. -/
theorem lookup_eq_of_perm {first second : Entries κ α}
    (perm : first.Perm second) (nodup : first.keys.Nodup) (key : κ) :
    first.lookup key = second.lookup key := by
  have nodup' : second.keys.Nodup := (perm.map Prod.fst).nodup_iff.mp nodup
  apply Option.ext
  intro value
  rw [lookup_eq_some_iff_mem nodup, lookup_eq_some_iff_mem nodup']
  exact perm.mem_iff

theorem lookup_map_value (entries : Entries κ α) (change : κ → α → β)
    (key : κ) :
    List.lookup key (entries.map fun entry =>
        (entry.1, change entry.1 entry.2)) =
      (entries.lookup key).map (change key) := by
  induction entries with
  | nil => rfl
  | cons entry entries ih =>
      obtain ⟨first, held⟩ := entry
      rw [List.map_cons]
      by_cases same : key = first
      · subst same
        rw [List.lookup_cons_self, List.lookup_cons_self]
        rfl
      · rw [lookup_cons_of_ne same, lookup_cons_of_ne same]
        exact ih

end Lookup

section Put

variable [BEq κ] [LawfulBEq κ]

theorem put_cons_self (key : κ) (old value : α) (entries : Entries κ α) :
    put ((key, old) :: entries) key value = (key, value) :: entries := by
  simp [put, putBy]

theorem put_cons_of_ne {first key : κ} (different : first ≠ key)
    (old value : α) (entries : Entries κ α) :
    put ((first, old) :: entries) key value =
      (first, old) :: entries.put key value := by
  simp [put, putBy, different]

@[simp]
theorem lookup_put_self (entries : Entries κ α) (key : κ) (value : α) :
    (entries.put key value).lookup key = some value := by
  induction entries with
  | nil => simp [put, putBy]
  | cons entry entries ih =>
      obtain ⟨first, held⟩ := entry
      by_cases same : first = key
      · subst same
        rw [put_cons_self, List.lookup_cons_self]
      · rw [put_cons_of_ne same, lookup_cons_of_ne (Ne.symm same)]
        exact ih

theorem lookup_put_of_ne (entries : Entries κ α) {key other : κ}
    (different : other ≠ key) (value : α) :
    (entries.put key value).lookup other = entries.lookup other := by
  induction entries with
  | nil => exact lookup_cons_of_ne different value []
  | cons entry entries ih =>
      obtain ⟨first, held⟩ := entry
      by_cases same : first = key
      · subst same
        rw [put_cons_self, lookup_cons_of_ne different,
          lookup_cons_of_ne different]
      · rw [put_cons_of_ne same, List.lookup_cons, List.lookup_cons, ih]

theorem mem_keys_put {entries : Entries κ α} {key other : κ} {value : α} :
    other ∈ (entries.put key value).keys ↔ other = key ∨ other ∈ entries.keys := by
  rw [← isSome_lookup_iff]
  by_cases same : other = key
  · subst same
    simp
  · rw [lookup_put_of_ne entries same, isSome_lookup_iff]
    simp [same]

theorem keys_put_of_mem {entries : Entries κ α} {key : κ}
    (member : key ∈ entries.keys) (value : α) :
    (entries.put key value).keys = entries.keys := by
  induction entries with
  | nil => simp [keys] at member
  | cons entry entries ih =>
      obtain ⟨first, held⟩ := entry
      by_cases same : first = key
      · subst same
        rw [put_cons_self]
        rfl
      · rw [put_cons_of_ne same]
        have later : key ∈ keys entries :=
          (List.mem_cons.mp member).resolve_left (Ne.symm same)
        exact congrArg (first :: ·) (ih later)

theorem put_of_not_mem {entries : Entries κ α} {key : κ}
    (missing : key ∉ entries.keys) (value : α) :
    entries.put key value = entries ++ [(key, value)] := by
  induction entries with
  | nil => rfl
  | cons entry entries ih =>
      have different : entry.1 ≠ key := fun same =>
        missing (same ▸ List.mem_cons_self)
      rw [put_cons_of_ne different,
        ih fun member => missing (List.mem_cons_of_mem _ member)]
      rfl

theorem nodup_keys_put {entries : Entries κ α} (nodup : entries.keys.Nodup)
    (key : κ) (value : α) : (entries.put key value).keys.Nodup := by
  by_cases member : key ∈ entries.keys
  · rw [keys_put_of_mem member]
    exact nodup
  · rw [put_of_not_mem member, keys, List.map_append]
    exact nodup.append (List.nodup_singleton key)
      (by simpa [List.disjoint_singleton] using member)

theorem foldl_put_eq_append {known entries : Entries κ α}
    (nodup : (known.keys ++ entries.keys).Nodup) :
    entries.foldl (fun known entry => known.put entry.1 entry.2) known =
      known ++ entries := by
  induction entries generalizing known with
  | nil => simp
  | cons entry entries ih =>
      have missing : entry.1 ∉ known.keys := fun member =>
        List.disjoint_of_nodup_append nodup member List.mem_cons_self
      rw [List.foldl_cons, put_of_not_mem missing,
        ih (by simpa [keys] using nodup)]
      simp

theorem nodup_keys_foldl_put {known : Entries κ α} (nodup : known.keys.Nodup)
    (entries : Entries κ α) :
    (keys (entries.foldl (fun known entry => known.put entry.1 entry.2)
      known)).Nodup := by
  induction entries generalizing known with
  | nil => exact nodup
  | cons entry entries ih => exact ih (nodup_keys_put nodup entry.1 entry.2)

/-- Of several entries with one key, the last one that is put counts. -/
theorem lookup_foldl_put (known entries : Entries κ α) (key : κ) :
    List.lookup key (entries.foldl (fun known entry => put known entry.1 entry.2)
        known) =
      (entries.reverse.lookup key).or (known.lookup key) := by
  induction entries generalizing known with
  | nil => simp
  | cons entry entries ih =>
      obtain ⟨first, value⟩ := entry
      rw [List.foldl_cons, ih, List.reverse_cons, List.lookup_append, Option.or_assoc]
      congr 1
      by_cases same : key = first
      · subst same
        simp
      · rw [lookup_put_of_ne known same, lookup_cons_of_ne same, List.lookup_nil,
          Option.none_or]

theorem forall_mem_put {holds : α → Prop} {entries : Entries κ α} {value : α}
    (old : ∀ entry ∈ entries, holds entry.2) (new : holds value) (key : κ) :
    ∀ entry ∈ entries.put key value, holds entry.2 := by
  induction entries with
  | nil => simpa [put, putBy] using new
  | cons entry entries ih =>
      obtain ⟨first, held⟩ := entry
      obtain ⟨oldHere, oldLater⟩ := List.forall_mem_cons.mp old
      by_cases same : first = key
      · subst same
        rw [put_cons_self]
        exact List.forall_mem_cons.mpr ⟨new, oldLater⟩
      · rw [put_cons_of_ne same]
        exact List.forall_mem_cons.mpr ⟨oldHere, ih oldLater⟩

theorem lookup_putNew (entries : Entries κ α) (key other : κ) (value : α) :
    (entries.putNew key value).lookup other =
      (entries.lookup other).or (if other == key then some value else none) := by
  unfold putNew
  split
  · rename_i known
    by_cases same : other = key
    · obtain ⟨old, found⟩ := Option.isSome_iff_exists.mp known
      rw [same, found]
      rfl
    · simp [same]
  · rw [List.lookup_append]
    cases same : other == key with
    | true => rw [List.lookup_cons, same, if_pos rfl]
    | false => rw [List.lookup_cons, same, List.lookup_nil, if_neg (by simp)]

end Put

section Erase

variable [BEq κ] [LawfulBEq κ]

@[simp]
theorem lookup_erase_self (entries : Entries κ α) (key : κ) :
    (entries.erase key).lookup key = none := by
  rw [lookup_eq_none_iff_not_mem, keys, List.mem_map]
  rintro ⟨entry, member, same⟩
  simp [erase, same] at member

theorem lookup_erase_of_ne (entries : Entries κ α) {key other : κ}
    (different : other ≠ key) :
    (entries.erase key).lookup other = entries.lookup other := by
  unfold erase
  induction entries with
  | nil => rfl
  | cons entry entries ih =>
      obtain ⟨first, held⟩ := entry
      rw [List.filter_cons]
      by_cases same : first = key
      · subst same
        rw [if_neg (by simp), lookup_cons_of_ne different]
        exact ih
      · rw [if_pos (by simpa using same), List.lookup_cons, List.lookup_cons,
          ih]

theorem mem_keys_erase {entries : Entries κ α} {key other : κ} :
    other ∈ (entries.erase key).keys ↔ other ≠ key ∧ other ∈ entries.keys := by
  rw [← isSome_lookup_iff]
  by_cases same : other = key
  · subst same
    simp
  · rw [lookup_erase_of_ne entries same, isSome_lookup_iff]
    simp [same]

/-- What a key was put to does not matter once it is erased. -/
theorem erase_put_self (entries : Entries κ α) (key : κ) (value : α) :
    (entries.put key value).erase key = entries.erase key := by
  induction entries with
  | nil => simp [put, putBy, erase]
  | cons entry entries ih =>
      obtain ⟨first, held⟩ := entry
      by_cases same : first = key
      · subst same
        simp [put_cons_self, erase]
      · rw [put_cons_of_ne same]
        unfold erase at ih ⊢
        rw [List.filter_cons, List.filter_cons, ih]

omit [LawfulBEq κ] in
theorem nodup_keys_erase {entries : Entries κ α} (nodup : entries.keys.Nodup)
    (key : κ) : (entries.erase key).keys.Nodup :=
  nodup.sublist (List.filter_sublist.map Prod.fst)

end Erase

end Entries

end AnchorLint
