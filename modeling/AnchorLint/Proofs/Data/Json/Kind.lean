import AnchorLint.Proofs.Data.Entries
import AnchorLint.Proofs.Data.Json.RoundTrip

/-!
# What JSON can hold

Whatever a reader finds in a text is made of the values that JSON knows: the keys
of maps are texts, each of them once, and numbers with a fraction are numbers of
the binary format.  Such a value counts as true exactly if it does once it has
been written and read again.
-/

namespace AnchorLint

namespace Value

/-- The entries of a map whose keys are texts. -/
def named (entries : Entries Text Value) : List (Value × Value) :=
  entries.map fun entry => (.str entry.1, entry.2)

theorem putEntry_named (entries : Entries Text Value) (key : Text)
    (value : Value) :
    putEntry (named entries) (.str key) value =
      named (entries.put key value) := by
  induction entries with
  | nil => rfl
  | cons entry entries ih =>
      obtain ⟨first, held⟩ := entry
      by_cases same : first = key
      · subst same
        rw [Entries.put_cons_self]
        simp [named, putEntry, Entries.putBy, sameKey, asInteger?]
      · rw [Entries.put_cons_of_ne same]
        have other : sameKey (.str first) (.str key) = false :=
          beq_eq_false_iff_ne.mpr same
        simp only [named, List.map_cons, putEntry, Entries.putBy, other,
          Bool.false_eq_true, if_false]
        exact congrArg _ ih

theorem field?_named (entries : Entries Text Value) (name : String) :
    (Value.map (named entries)).field? name =
      entries.lookup name.toList := by
  induction entries with
  | nil => rfl
  | cons entry entries ih =>
      obtain ⟨first, held⟩ := entry
      by_cases same : name.toList = first
      · subst same
        rw [List.lookup_cons_self]
        simp [field?, named, sameKey, asInteger?]
      · rw [Entries.lookup_cons_of_ne same, ← ih]
        have other : sameKey (.str first) (.str name.toList) = false :=
          beq_eq_false_iff_ne.mpr (Ne.symm same)
        simp [field?, named, other]

/-! ## Values of JSON -/

/-- The values that JSON can hold. -/
inductive IsJson : Value → Prop where
  | null : IsJson .null
  | bool (value : Bool) : IsJson (.bool value)
  | int (value : Int) : IsJson (.int value)
  | float {value : Binary64} (inRange : value.IsInRange) :
      IsJson (.float value)
  | str (value : Text) : IsJson (.str value)
  | list {items : List Value} (each : ∀ item ∈ items, IsJson item) :
      IsJson (.list items)
  | map {entries : Entries Text Value} (nodup : entries.keys.Nodup)
      (each : ∀ entry ∈ entries, IsJson entry.2) : IsJson (.map (named entries))

end Value

namespace Json

open Value (IsJson named)

theorem isJson_of_number {text rest : Text} {content : Value}
    (read : number text = .ok (content, rest)) : content.IsJson := by
  unfold number at read
  dsimp only at read
  repeat' split at read
  all_goals simp only [Except.ok.injEq, Prod.mk.injEq, reduceCtorEq] at read
  · exact read.1 ▸ .int _
  · exact read.1 ▸ .int _
  · exact read.1 ▸ .float (Binary64.isInRange_ofDecimal _ _ _)

theorem isJson_of_word? {text rest : Text} {content : Value}
    (read : word? text = some (content, rest)) : content.IsJson := by
  obtain ⟨entry, member, found⟩ := List.exists_of_findSome?_eq_some read
  obtain ⟨after, -, equal⟩ := Option.map_eq_some_iff.mp found
  obtain ⟨rfl, rfl⟩ := Prod.mk.inj equal
  simp only [words, List.mem_cons, List.not_mem_nil, or_false] at member
  rcases member with rfl | rfl | rfl | rfl | rfl | rfl
  · exact .null
  · exact .bool true
  · exact .bool false
  all_goals exact .float trivial

/-- Whether entries are those of a map that JSON can hold. -/
def AreJson (contents : List (Value × Value)) : Prop :=
  ∃ entries : Entries Text Value, contents = named entries ∧
    entries.keys.Nodup ∧ ∀ entry ∈ entries, entry.2.IsJson

theorem AreJson.put {contents : List (Value × Value)} (known : AreJson contents)
    (key : Text) {content : Value} (isJson : content.IsJson) :
    AreJson (Value.putEntry contents (.str key) content) := by
  obtain ⟨entries, rfl, nodup, each⟩ := known
  rw [Value.putEntry_named]
  exact ⟨_, rfl, Entries.nodup_keys_put nodup _ _,
    Entries.forall_mem_put each isJson key⟩

/-- What is found by a reader with a number of steps is made of values that
JSON can hold. -/
structure FindsJson (limit steps : Nat) : Prop where
  value : ∀ {text content rest}, value limit steps text = .ok (content, rest) →
    content.IsJson
  items : ∀ {text contents rest},
    items limit steps text = .ok (contents, rest) →
      ∀ content ∈ contents, content.IsJson
  entries : ∀ {known text contents rest}, AreJson known →
    entries limit steps known text = .ok (contents, rest) → AreJson contents

namespace FindsJson

variable {limit steps : Nat} (finds : FindsJson limit steps)

include finds

theorem value_succ {text content rest}
    (read : Json.value limit (steps + 1) text = .ok (content, rest)) :
    content.IsJson := by
  unfold Json.value at read
  split at read
  · split at read
    · obtain ⟨rfl, -⟩ := Prod.mk.inj (Except.ok.inj read)
      exact .str _
    · cases read
  · split at read
    · obtain ⟨rfl, -⟩ := Prod.mk.inj (Except.ok.inj read)
      exact .list (by simp)
    · obtain ⟨⟨contents, behind⟩, found, equal⟩ := Outcome.bind_eq_ok.mp read
      obtain ⟨rfl, -⟩ := Prod.mk.inj (Except.ok.inj equal)
      exact .list (finds.items found)
  · split at read
    · obtain ⟨rfl, -⟩ := Prod.mk.inj (Except.ok.inj read)
      exact @IsJson.map [] List.nodup_nil (by simp)
    · obtain ⟨⟨contents, behind⟩, found, equal⟩ := Outcome.bind_eq_ok.mp read
      obtain ⟨rfl, -⟩ := Prod.mk.inj (Except.ok.inj equal)
      obtain ⟨entries, rfl, nodup, each⟩ :=
        finds.entries ⟨[], rfl, List.nodup_nil, by simp⟩ found
      exact .map nodup each
  · split at read
    · rename_i result found
      obtain rfl := Except.ok.inj read
      exact isJson_of_word? found
    · exact isJson_of_number read

theorem items_succ {text contents rest}
    (read : Json.items limit (steps + 1) text = .ok (contents, rest)) :
    ∀ content ∈ contents, content.IsJson := by
  unfold Json.items at read
  obtain ⟨⟨first, behind⟩, found, more⟩ := Outcome.bind_eq_ok.mp read
  have here := finds.value found
  dsimp only at more
  split at more
  · obtain ⟨⟨others, after⟩, later, equal⟩ := Outcome.bind_eq_ok.mp more
    obtain ⟨rfl, -⟩ := Prod.mk.inj (Except.ok.inj equal)
    exact List.forall_mem_cons.mpr ⟨here, finds.items later⟩
  · obtain ⟨rfl, -⟩ := Prod.mk.inj (Except.ok.inj more)
    simpa using here
  · cases more

theorem entries_succ {known text contents rest} (areJson : AreJson known)
    (read : Json.entries limit (steps + 1) known text =
      .ok (contents, rest)) : AreJson contents := by
  unfold Json.entries at read
  split at read
  · split at read
    · cases read
    · rename_i key _ _
      split at read
      · obtain ⟨⟨content, behind⟩, found, more⟩ := Outcome.bind_eq_ok.mp read
        have next := areJson.put key (finds.value found)
        dsimp only at more
        split at more
        · exact finds.entries next more
        · obtain ⟨rfl, -⟩ := Prod.mk.inj (Except.ok.inj more)
          exact next
        · cases more
      · cases read
  · cases read

end FindsJson

theorem findsJson (limit steps : Nat) : FindsJson limit steps := by
  induction steps with
  | zero =>
      exact
        { value := fun read => by cases read
          items := fun read => by cases read
          entries := fun _ read => by cases read }
  | succ steps ih =>
      exact
        { value := ih.value_succ
          items := ih.items_succ
          entries := ih.entries_succ }

/-- Whatever a text denotes is a value that JSON can hold. -/
theorem isJson_of_read {text : Text} {content : Value}
    (denotes : read text = .ok content) : content.IsJson := by
  obtain ⟨⟨found, rest⟩, whole, equal⟩ := Outcome.bind_eq_ok.mp denotes
  dsimp only at equal
  split at equal
  · obtain rfl := Except.ok.inj equal
    exact (findsJson _ _).value whole
  · cases equal

end Json

namespace Value

/-! ## Values of JSON that are written and read again -/

theorem rereadEntries_named (known entries : Entries Text Value) :
    rereadEntries (named known) (named entries) =
      named (entries.foldl (fun known entry =>
        known.put entry.1 entry.2.reread) known) := by
  induction entries generalizing known with
  | nil => rfl
  | cons entry entries ih =>
      rw [List.foldl_cons, ← ih, ← putEntry_named]
      rfl

/-- A map with distinct texts as keys reads back key by key. -/
theorem reread_named {entries : Entries Text Value}
    (nodup : entries.keys.Nodup) :
    (Value.map (named entries)).reread =
      .map (named (entries.map fun entry => (entry.1, entry.2.reread))) := by
  have keys := Entries.keys_map_value entries fun entry => entry.2.reread
  have distinct : (Entries.keys ([] : Entries Text Value) ++
      Entries.keys (entries.map fun entry =>
        (entry.1, entry.2.reread))).Nodup := by
    rw [keys]
    simpa [Entries.keys] using nodup
  have appended := Entries.foldl_put_eq_append distinct
  rw [List.foldl_map] at appended
  have read := rereadEntries_named [] entries
  rw [appended] at read
  exact congrArg Value.map read

theorem rereadItems_eq_map (items : List Value) :
    rereadItems items = items.map reread := by
  induction items with
  | nil => rfl
  | cons item items ih => rw [rereadItems, ih, List.map_cons]

theorem IsJson.isTruthy_reread {value : Value} (isJson : value.IsJson) :
    value.reread.isTruthy = value.isTruthy := by
  cases isJson with
  | null => rfl
  | bool value => rfl
  | int value => rfl
  | str value => rfl
  | float inRange =>
      have same := (Json.value_float _).2.2.1 inRange
      simp only [reread, isTruthy, same]
  | @list items _ =>
      simp only [reread, isTruthy, rereadItems_eq_map, List.isEmpty_map]
  | @map entries nodup _ =>
      rw [reread_named nodup]
      simp only [isTruthy, named, List.isEmpty_map]

end Value

end AnchorLint
