import AnchorLint.Text.Utf8

/-!
# UTF-8 reads back

The bytes of a text are well formed, and they decode to the text: each character
is one unit, whatever bytes follow it.
-/

namespace AnchorLint

namespace Utf8

theorem unitsFrom_skip (taken rest : Bytes) :
    unitsFrom taken.length (taken ++ rest) = units rest := by
  induction taken with
  | nil => rfl
  | cons byte taken ih => exact ih

theorem toNat_valid (character : Char) :
    character.toNat < 0xD800 ∨
      (0xDFFF < character.toNat ∧ character.toNat < 0x110000) :=
  character.valid

theorem toNat_ofNat_of_lt {number : Nat} (small : number < 256) :
    (UInt8.ofNat number).toNat = number := by
  simpa using small

/-- One step of a reader that finds a byte in the interval it is promised. -/
theorem continuation_cons {taken bits following low high byte : Nat}
    (least : low ≤ byte) (most : byte ≤ high) (small : byte < 256)
    (rest : Bytes) :
    continuation taken bits (following + 1) low high
        (UInt8.ofNat byte :: rest) =
      continuation (taken + 1) (bits * 64 + byte % 64) following 0x80 0xBF
        rest := by
  rw [continuation, toNat_ofNat_of_lt small, if_pos ⟨least, most⟩]

theorem lead?_two {byte : Nat} (least : 0xC2 ≤ byte) (most : byte < 0xE0) :
    lead? byte = some ⟨1, 0x80, 0xBF, byte - 0xC0⟩ := by
  rw [lead?, if_neg (by omega), if_neg (by omega), if_pos most]

theorem lead?_three {byte : Nat} (least : 0xE0 ≤ byte) (most : byte < 0xF0) :
    lead? byte = some ⟨2, if byte = 0xE0 then 0xA0 else 0x80,
      if byte = 0xED then 0x9F else 0xBF, byte - 0xE0⟩ := by
  rw [lead?, if_neg (by omega), if_neg (by omega), if_neg (by omega),
    if_pos most]

theorem lead?_four {byte : Nat} (least : 0xF0 ≤ byte) (most : byte < 0xF5) :
    lead? byte = some ⟨3, if byte = 0xF0 then 0x90 else 0x80,
      if byte = 0xF4 then 0x8F else 0xBF, byte - 0xF0⟩ := by
  rw [lead?, if_neg (by omega), if_neg (by omega), if_neg (by omega),
    if_neg (by omega), if_pos most]

/-- A leading byte and what it promises are one unit. -/
theorem units_cons {byte : Nat} {lead : Lead} (taken : Bytes)
    {character : Char} {rest : Bytes} (small : byte < 256)
    (promise : lead? byte = some lead)
    (read : continuation 0 lead.bits lead.following lead.low lead.high
      (taken ++ rest) = (some character, taken.length)) :
    units (UInt8.ofNat byte :: (taken ++ rest)) =
      some character :: units rest := by
  rw [units, unitsFrom, toNat_ofNat_of_lt small, promise]
  dsimp only
  rw [read]
  exact congrArg _ (unitsFrom_skip taken rest)

theorem units_encodeCharacter (character : Char) (rest : Bytes) :
    units (encodeCharacter character ++ rest) =
      some character :: units rest := by
  have valid := toNat_valid character
  have same {number : Nat} (equal : number = character.toNat) :
      Char.ofNat number = character := by
    rw [equal, Char.ofNat_toNat]
  unfold encodeCharacter
  simp only [Nat.pow_eq]
  generalize character.toNat = codePoint at valid same ⊢
  split
  · rename_i one
    refine units_cons [] (by omega) (if_pos one) ?_
    rw [continuation, same rfl]
    rfl
  split
  · refine units_cons [_] (by omega) (lead?_two (by omega) (by omega)) ?_
    dsimp only
    rw [List.singleton_append,
      continuation_cons (by omega) (by omega) (by omega), continuation,
      same (by omega)]
    rfl
  split
  · refine units_cons [_, _] (by omega) (lead?_three (by omega) (by omega)) ?_
    dsimp only
    rw [List.cons_append, List.singleton_append,
      continuation_cons (by split <;> omega) (by split <;> omega) (by omega),
      continuation_cons (by omega) (by omega) (by omega), continuation,
      same (by omega)]
    rfl
  · refine units_cons [_, _, _] (by omega) (lead?_four (by omega) (by omega))
      ?_
    dsimp only
    rw [List.cons_append, List.cons_append, List.singleton_append,
      continuation_cons (by split <;> omega) (by split <;> omega) (by omega),
      continuation_cons (by omega) (by omega) (by omega),
      continuation_cons (by omega) (by omega) (by omega), continuation,
      same (by omega)]
    rfl

theorem units_encode (text : Text) :
    units (encode text) = text.map some := by
  induction text with
  | nil => rfl
  | cons character text ih =>
      rw [encode, List.flatMap_cons, units_encodeCharacter, ← encode, ih,
        List.map_cons]

theorem decode?_encode (text : Text) : decode? (encode text) = some text := by
  rw [decode?, units_encode]
  induction text with
  | nil => rfl
  | cons character text ih =>
      rw [List.map_cons, List.mapM_cons, ih]
      rfl

end Utf8

end AnchorLint
