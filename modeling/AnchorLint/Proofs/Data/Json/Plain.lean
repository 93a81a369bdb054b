import AnchorLint.Proofs.Data.Json.Kind

/-!
# Plain data

Nothing, truth values, integers, texts, lists and maps with texts as keys read
back as they were.  All that can keep such data from being written is an integer
with too many digits.
-/

namespace AnchorLint

namespace Value

/-- The values without fractions, bytes, calendar values and sets, whose maps
have distinct texts as keys. -/
inductive IsPlain : Value → Prop where
  | null : IsPlain .null
  | bool (value : Bool) : IsPlain (.bool value)
  | int (value : Int) : IsPlain (.int value)
  | str (value : Text) : IsPlain (.str value)
  | list {items : List Value} (each : ∀ item ∈ items, IsPlain item) :
      IsPlain (.list items)
  | map {entries : Entries Text Value} (nodup : entries.keys.Nodup)
      (each : ∀ entry ∈ entries, IsPlain entry.2) :
      IsPlain (.map (named entries))

attribute [simp] IsPlain.null IsPlain.bool IsPlain.int IsPlain.str

@[simp]
theorem isPlain_list_iff {items : List Value} :
    (list items).IsPlain ↔ ∀ item ∈ items, item.IsPlain := by
  constructor
  · rintro (_ | _ | _ | _ | each)
    exact each
  · exact .list

theorem IsPlain.reread_eq {value : Value} (plain : value.IsPlain) :
    value.reread = value := by
  induction plain with
  | null => rfl
  | bool value => rfl
  | int value => rfl
  | str value => rfl
  | @list items _ each =>
      rw [reread, rereadItems_eq_map, List.map_congr_left each, List.map_id']
  | @map entries nodup _ each =>
      have same : entries.map (fun entry => (entry.1, entry.2.reread)) =
          entries := by
        conv_rhs => rw [← List.map_id entries]
        apply List.map_congr_left
        intro entry member
        exact Prod.ext rfl (each entry member)
      rw [reread_named nodup, same]

mutual

def integers : Value → List Int
  | int number => [number]
  | list items => integersIn items
  | map entries => integersOf entries
  | _ => []

def integersIn : List Value → List Int
  | [] => []
  | item :: items => item.integers ++ integersIn items

def integersOf : List (Value × Value) → List Int
  | [] => []
  | entry :: entries => entry.2.integers ++ integersOf entries

end

end Value

namespace Json

open Value (IsPlain named)

/-- Whether an integer has few enough digits to be written. -/
def Fits (number : Int) : Prop :=
  (Text.ofNat number.natAbs).length ≤ ReadError.digitLimit

/-- What comes of writing data with some integers: a text if all of them fit, and
a complaint about the digits if not. -/
inductive Writes {α : Type} (integers : List Int) :
    Except WriteError α → Prop where
  | text (result : α) (fit : ∀ number ∈ integers, Fits number) :
      Writes integers (.ok result)
  | tooLong {number : Int} (member : number ∈ integers)
      (long : ¬ Fits number) : Writes integers (.error .integerTooLong)

namespace Writes

variable {α β : Type} {integers others : List Int}

theorem of_ok (result : α) : Writes [] (.ok result) :=
  .text result (by simp)

theorem bind {first : Except WriteError α} {next : α → Except WriteError β}
    (here : Writes integers first) (later : ∀ result, Writes others (next result)) :
    Writes (integers ++ others) (first >>= next) := by
  cases here with
  | tooLong member long => exact .tooLong (List.mem_append_left _ member) long
  | text result fit =>
      change Writes _ (next result)
      generalize written : next result = outcome
      have behind := later result
      rw [written] at behind
      cases behind with
      | tooLong member long =>
          exact .tooLong (List.mem_append_right _ member) long
      | text last fitLater =>
          refine .text last fun number member => ?_
          rcases List.mem_append.mp member with left | right
          · exact fit number left
          · exact fitLater number right

theorem map {first : Except WriteError α} (here : Writes integers first)
    (finish : α → β) : Writes integers (first >>= fun result =>
      .ok (finish result)) := by
  simpa using here.bind fun result => of_ok (finish result)

end Writes

theorem writes_integer (number : Int) :
    Writes [number] (writeInteger number) := by
  unfold writeInteger
  split
  · rename_i long
    exact .tooLong (List.mem_singleton_self number) (Nat.not_le.mpr long)
  · rename_i short
    refine .text _ fun other member => ?_
    rw [List.mem_singleton.mp member]
    exact Nat.not_lt.mp short

theorem writes_items {style : Style} {items : List Value}
    (each : ∀ item ∈ items, ∀ depth,
      Writes item.integers (style.value depth item)) (depth : Nat) :
    Writes (Value.integersIn items) (style.items depth items) := by
  induction items with
  | nil => exact .of_ok []
  | cons item items ih =>
      obtain ⟨here, later⟩ := List.forall_mem_cons.mp each
      rw [Value.integersIn, Style.items]
      exact (here depth).bind fun first => (ih later).map (first :: ·)

theorem writes_entries {style : Style} {entries : Entries Text Value}
    (each : ∀ entry ∈ entries, ∀ depth,
      Writes entry.2.integers (style.value depth entry.2)) (depth : Nat) :
    Writes (Value.integersOf (named entries))
      (style.entries depth (named entries)) := by
  induction entries with
  | nil => exact .of_ok []
  | cons entry entries ih =>
      obtain ⟨here, later⟩ := List.forall_mem_cons.mp each
      change Writes (entry.2.integers ++ Value.integersOf (named entries))
        (style.entries depth ((.str entry.1, entry.2) :: named entries))
      rw [Style.entries]
      exact (here depth).bind fun first => (ih later).map _

/-- Plain data can be written exactly if all integers in it fit. -/
theorem writes_plain {value : Value} (plain : value.IsPlain) (style : Style)
    (depth : Nat) : Writes value.integers (style.value depth value) := by
  induction plain generalizing depth with
  | null => exact .of_ok _
  | bool value => exact .of_ok _
  | str value => exact .of_ok _
  | int number =>
      rw [Value.integers, Style.value]
      exact writes_integer number
  | list _ each =>
      rw [Value.integers, Style.value]
      exact (writes_items each (depth + 1)).map _
  | map _ _ each =>
      rw [Value.integers, Style.value]
      exact (writes_entries each (depth + 1)).map _

end Json

end AnchorLint
