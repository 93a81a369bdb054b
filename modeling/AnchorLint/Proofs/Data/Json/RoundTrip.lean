import AnchorLint.Proofs.Data.Json.Scalar
import AnchorLint.Proofs.Data.Outcome

/-!
# Values read back

What is written on one line can always be read again.  The reader finds the same
value up to what the format cannot tell apart: calendar values, bytes and sets
have become texts, keys have become texts too, and numbers with a fraction are
what their shortest digits denote.
-/

namespace AnchorLint

/-- A number as it reads back from its text. -/
def Binary64.reread (number : Binary64) : Binary64 :=
  match Json.read (Json.numberLayout.write number) with
  | .ok (.float read) => read
  | _ => .nan

namespace Value

mutual

/-- A value as it reads back from its text. -/
def reread : Value → Value
  | .null => .null
  | .bool value => .bool value
  | .int value => .int value
  | .float value => .float value.reread
  | .str value => .str value
  | .bytes value => .str (Quoted.ofBytes value)
  | .date value => .str value.write
  | .time value => .str value.write
  | .moment value => .str (value.write ' ')
  | .list items => .list (rereadItems items)
  | .set items => .str (Value.set items).display
  | .map entries => .map (rereadEntries [] entries)
  | .cycle => .cycle

def rereadItems : List Value → List Value
  | [] => []
  | item :: items => item.reread :: rereadItems items

/-- The entries of a map as they read back behind some others. -/
def rereadEntries (known : List (Value × Value)) :
    List (Value × Value) → List (Value × Value)
  | [] => known
  | (key, value) :: entries =>
    rereadEntries (putEntry known
      (.str ((Json.keyText key).toOption.getD [])) value.reread) entries

end

end Value

namespace Json

open Decimal (Parts)

/-- One line, with all characters as they are. -/
def compact : Style := ⟨false, none⟩

/-! ## Space -/

/-- Whether a text begins with the first character of a value. -/
def Begins (text : Text) : Prop :=
  ∃ first rest, text = first :: rest ∧ isSpace first = false ∧ first ≠ ']'

theorem Begins.append {text : Text} (begins : Begins text) (rest : Text) :
    Begins (text ++ rest) := by
  obtain ⟨first, more, rfl, visible, notEnd⟩ := begins
  exact ⟨first, more ++ rest, rfl, visible, notEnd⟩

theorem Begins.skipSpace {text : Text} (begins : Begins text) :
    skipSpace text = text := by
  obtain ⟨first, more, rfl, visible, -⟩ := begins
  simp [Json.skipSpace, visible]

theorem skipSpace_cons {first : Char} (visible : isSpace first = false)
    (rest : Text) : skipSpace (first :: rest) = first :: rest := by
  simp [skipSpace, visible]

/-! ## Numbers -/

theorem begins_number {parts : Parts} (proper : parts.IsProper)
    (negative : Bool) :
    Begins ((if negative then ['-'] else []) ++ parts.text) := by
  cases negative with
  | true => exact ⟨'-', parts.text, rfl, by decide, by decide⟩
  | false =>
      obtain ⟨first, digits, written⟩ :=
        List.exists_cons_of_ne_nil proper.whole_ne_nil
      have digit := proper.whole_isNumeral first (by simp [written])
      refine ⟨first, parts.text.tail, by simp [Parts.text, written], ?_, ?_⟩
      · by_contra space
        simp only [isSpace, Bool.not_eq_false, Bool.or_eq_true,
          beq_iff_eq] at space
        rcases space with ((rfl | rfl) | rfl) | rfl <;>
          exact absurd digit (by decide)
      · rintro rfl
        exact absurd digit (by decide)

theorem value_parts {parts : Parts} (proper : parts.IsProper)
    (limit steps : Nat) (negative : Bool) (rest : Text) :
    value limit (steps + 1)
        ((if negative then ['-'] else []) ++ parts.text ++ rest) =
      number ((if negative then ['-'] else []) ++ parts.text ++ rest) := by
  obtain ⟨first, digits, written⟩ :=
    List.exists_cons_of_ne_nil proper.whole_ne_nil
  have digit := proper.whole_isNumeral first (by simp [written])
  have text : parts.text = first :: parts.text.tail := by
    simp [Parts.text, written]
  rw [text, List.append_assoc, List.cons_append]
  exact value_number digit limit steps negative _

theorem value_integer {integer : Int} {text : Text}
    (written : writeInteger integer = .ok text) :
    Begins text ∧ '\r' ∉ text ∧ ∀ limit steps rest, Delimits rest →
      value limit (steps + 1) (text ++ rest) = .ok (.int integer, rest) := by
  let parts : Parts := ⟨Text.ofNat integer.natAbs, [], none⟩
  have proper : parts.IsProper :=
    { whole_isNumeral := Text.isNumeral_ofNat _
      whole_ne_nil := Text.ofNat_ne_nil _
      leading := by
        intro zero
        by_cases none : integer.natAbs = 0
        · simp only [parts, none]
          rfl
        · exact absurd zero (Text.head?_ofNat_ne_zero none)
      fraction_isNumeral := by simp [parts, Text.IsNumeral]
      exponent_isNumeral := by simp [parts] }
  unfold writeInteger at written
  split at written
  · cases written
  · rename_i short
    have equal : text =
        (if decide (integer < 0) then ['-'] else []) ++ parts.text := by
      rw [← Except.ok.inj written]
      simp only [Text.ofInt, Parts.text, Parts.exponentText, parts, decide_eq_true_eq]
      split <;> simp
    rw [equal]
    refine ⟨begins_number proper _, unbroken_parts proper _,
      fun limit steps rest delimits => ?_⟩
    have whole : Text.digitsValue 10 parts.whole = integer.natAbs :=
      Text.digitsValue_ofNat _
    rw [value_parts proper, number_text proper _ delimits, if_pos ⟨rfl, rfl⟩,
      if_neg short, whole]
    simp only [decide_eq_true_eq]
    congr 3
    split <;> omega

/-- The text of a number with a fraction or an exponent is read as a binary
number. -/
theorem value_fractional {parts : Parts} (proper : parts.IsProper)
    (fractional : parts.IsFractional) (negative : Bool) (limit steps : Nat)
    {rest : Text} (delimits : Delimits rest) :
    value limit (steps + 1)
        ((if negative then ['-'] else []) ++ parts.text ++ rest) =
      .ok (.float (Binary64.ofDecimal negative
        (Text.digitsValue 10 parts.digits) parts.lastPower), rest) := by
  have notWhole : ¬(parts.fraction.isEmpty = true ∧ parts.power? = none) := by
    rintro ⟨empty, none⟩
    rcases fractional with some | some
    · exact some (by simpa using empty)
    · exact some (by simpa [Parts.power?] using none)
  rw [value_parts proper, number_text proper _ delimits, if_neg notWhole]

/-- Zero is laid out with one digit in front of the point and one behind it. -/
theorem isProper_zero : Parts.IsProper ⟨['0'], ['0'], none⟩ where
  whole_isNumeral := Text.isNumeral_zeros 1
  whole_ne_nil := List.cons_ne_nil _ _
  leading := fun _ => rfl
  fraction_isNumeral := Text.isNumeral_zeros 1
  exponent_isNumeral := by simp

/-- The text of a number that is laid out with its digits reads back; zero
stays zero, and other numbers of the format do not become zero. -/
theorem value_finite (negative : Bool) (mantissa : Nat) (exponent : Int) :
    let number := Binary64.finite negative mantissa exponent
    Begins (numberLayout.write number) ∧
    '\r' ∉ numberLayout.write number ∧
    ∃ read : Binary64,
      (number.IsInRange → read.isZero = number.isZero) ∧
      ∀ limit steps rest, Delimits rest →
        value limit (steps + 1) (numberLayout.write number ++ rest) =
          .ok (.float read, rest) := by
  intro number
  by_cases zero : mantissa = 0
  · have text : numberLayout.write number =
        (if negative then ['-'] else [])
          ++ Parts.text ⟨['0'], ['0'], none⟩ := by
      simp only [number, zero]
      rfl
    rw [text]
    refine ⟨begins_number isProper_zero _, unbroken_parts isProper_zero _, _,
      fun _ => ?_, fun limit steps rest =>
        value_fractional isProper_zero (Or.inl (by simp)) negative limit steps⟩
    simp only [number, zero]
    rfl
  · obtain ⟨significant, large⟩ := Decimal.shortest_spec zero exponent
    obtain ⟨parts, text, proper, fractional, same⟩ :=
      numberLayout.exists_parts significant
        (Decimal.shortest mantissa exponent).2
    have written : numberLayout.write number =
        (if negative then ['-'] else []) ++ parts.text := by
      simp only [number, Decimal.Layout.write, zero, if_false, text]
    rw [written]
    refine ⟨begins_number proper _, unbroken_parts proper _, _, fun inRange => ?_,
      fun limit steps rest =>
        value_fractional proper fractional negative limit steps⟩
    have tiny : Binary64.tiny ≤ 2 ^ (exponent - 1) :=
      zpow_le_zpow_right₀ (by norm_num) (by
        have least : Binary64.minExponent ≤ exponent := inRange
        omega)
    rw [Binary64.isZero_ofDecimal]
    · exact (beq_eq_false_iff_ne.mpr zero).symm
    · calc Binary64.tiny ≤ 2 ^ (exponent - 1) := tiny
        _ < _ := large
        _ = _ := same.symm

theorem exists_value_float (number : Binary64) :
    Begins (numberLayout.write number) ∧
    '\r' ∉ numberLayout.write number ∧
    ∃ read : Binary64,
      (number.IsInRange → read.isZero = number.isZero) ∧
      ∀ limit steps rest, Delimits rest →
        value limit (steps + 1) (numberLayout.write number ++ rest) =
          .ok (.float read, rest) := by
  cases number with
  | nan =>
      exact ⟨⟨'N', _, rfl, by decide, by decide⟩, by decide, .nan, fun _ => rfl,
        fun limit steps rest _ => value_nan limit steps rest⟩
  | infinity negative =>
      refine ⟨?_, by cases negative <;> decide, .infinity negative, fun _ => rfl,
        fun limit steps rest _ => value_infinity limit steps negative rest⟩
      cases negative with
      | true => exact ⟨'-', _, rfl, by decide, by decide⟩
      | false => exact ⟨'I', _, rfl, by decide, by decide⟩
  | finite negative mantissa exponent =>
      exact value_finite negative mantissa exponent

theorem value_float (number : Binary64) :
    Begins (numberLayout.write number) ∧
    '\r' ∉ numberLayout.write number ∧
    (number.IsInRange → number.reread.isZero = number.isZero) ∧
    ∀ limit steps rest, Delimits rest →
      value limit (steps + 1) (numberLayout.write number ++ rest) =
        .ok (.float number.reread, rest) := by
  obtain ⟨begins, unbroken, read, same, readBack⟩ :=
    exists_value_float number
  have alone : Json.read (numberLayout.write number) = .ok (.float read) := by
    have whole := readBack ((numberLayout.write number).length + 1)
      (numberLayout.write number).length [] Delimits.nil
    rw [List.append_nil] at whole
    rw [Json.read, begins.skipSpace, whole]
    rfl
  have equal : number.reread = read := by
    rw [Binary64.reread, alone]
  rw [equal]
  exact ⟨begins, unbroken, same, readBack⟩

/-! ## Texts that are read as values -/

theorem forall_of_forall₂ {α β : Type} {relation : α → β → Prop}
    {first : List α} {second : List β}
    (related : List.Forall₂ relation first second) :
    ∀ item ∈ first, ∃ other, relation item other := by
  induction related with
  | nil => simp
  | cons here _ ih =>
      exact List.forall_mem_cons.mpr ⟨⟨_, here⟩, ih⟩

/-- Whether a text without carriage returns is read as a value, whatever follows
it. -/
structure ReadsAs (text : Text) (content : Value) : Prop where
  begins : Begins text
  unbroken : '\r' ∉ text
  reads : ∀ limit steps rest, text.length < limit → text.length < steps →
    Delimits rest → value limit steps (text ++ rest) = .ok (content, rest)

/-- It is enough that a text is read in any number of further steps. -/
theorem ReadsAs.ofSteps {text : Text} {content : Value} (begins : Begins text)
    (unbroken : '\r' ∉ text)
    (reads : ∀ limit steps rest, text.length < limit →
      text.length ≤ steps → Delimits rest →
      value limit (steps + 1) (text ++ rest) = .ok (content, rest)) :
    ReadsAs text content where
  begins := begins
  unbroken := unbroken
  reads := by
    intro limit steps rest short few delimits
    obtain ⟨more, rfl⟩ := Nat.exists_eq_add_one_of_ne_zero
      (Nat.ne_of_gt (Nat.lt_of_le_of_lt (Nat.zero_le _) few))
    exact reads limit more rest short (Nat.le_of_lt_succ few) delimits

theorem length_le_writeText (text : Text) :
    text.length < (writeText false text).length := by
  have each (character : Char) :
      1 ≤ (writeCharacter false character).length := by
    by_contra short
    have nil : writeCharacter false character = [] := by
      simpa using short
    have read := string?_character character 1 ['"']
    rw [nil] at read
    exact absurd read (by simp [string?])
  have body : text.length ≤
      (text.flatMap (writeCharacter false)).length := by
    induction text with
    | nil => rfl
    | cons character text ih =>
        have here := each character
        rw [List.flatMap_cons, List.length_append, List.length_cons]
        omega
  simp only [writeText, List.cons_append, List.length_cons,
    List.length_append]
  omega

theorem readsAs_text (text : Text) :
    ReadsAs (writeText false text) (.str text) :=
  .ofSteps ⟨'"', _, rfl, by decide, by decide⟩ (unbroken_writeText text)
    fun limit steps rest short _ _ => value_quote limit steps text rest
      ((length_le_writeText text).trans short)

theorem readsAs_null : ReadsAs "null".toList .null :=
  .ofSteps ⟨'n', _, rfl, by decide, by decide⟩ (by decide)
    fun limit steps rest _ _ _ => value_null limit steps rest

theorem readsAs_bool (truth : Bool) :
    ReadsAs (if truth then "true".toList else "false".toList) (.bool truth) := by
  refine .ofSteps ?_ (by cases truth <;> decide) fun limit steps rest _ _ _ =>
    value_bool limit steps truth rest
  cases truth with
  | true => exact ⟨'t', _, rfl, by decide, by decide⟩
  | false => exact ⟨'f', _, rfl, by decide, by decide⟩

theorem readsAs_integer {integer : Int} {text : Text}
    (written : writeInteger integer = .ok text) :
    ReadsAs text (.int integer) := by
  obtain ⟨begins, unbroken, reads⟩ := value_integer written
  exact .ofSteps begins unbroken fun limit steps rest _ _ => reads limit steps rest

theorem readsAs_float (number : Binary64) :
    ReadsAs (numberLayout.write number) (.float number.reread) := by
  obtain ⟨begins, unbroken, -, reads⟩ := value_float number
  exact .ofSteps begins unbroken fun limit steps rest _ _ => reads limit steps rest

/-! ## Lists and maps -/

theorem join_cons (item : Text) (items : List Text) (closing : Text) :
    Text.join [',', ' '] (item :: items) ++ closing =
      item ++ if items = [] then closing
        else ',' :: ' ' :: (Text.join [',', ' '] items ++ closing) := by
  cases items with
  | nil => simp [Text.join]
  | cons next items => simp [Text.join, List.intercalate_cons_cons]

theorem length_join_cons (item : Text) (items : List Text) :
    (Text.join [',', ' '] (item :: items)).length =
      item.length + if items = [] then 0
        else 2 + (Text.join [',', ' '] items).length := by
  have joined := congrArg List.length (join_cons item items [])
  rw [List.append_nil, List.length_append] at joined
  rw [joined]
  split <;> simp
  omega

theorem begins_join {texts : List Text} (ne_nil : texts ≠ [])
    (begin : ∀ text ∈ texts, Begins text) (closing : Text) :
    Begins (Text.join [',', ' '] texts ++ closing) := by
  obtain ⟨text, more, rfl⟩ := List.exists_cons_of_ne_nil ne_nil
  rw [join_cons]
  exact (begin text List.mem_cons_self).append _

theorem items_join {texts : List Text} {contents : List Value}
    (each : List.Forall₂ ReadsAs texts contents) (ne_nil : texts ≠ [])
    {limit steps : Nat} (rest : Text)
    (short : (Text.join [',', ' '] texts).length < limit)
    (few : (Text.join [',', ' '] texts).length + 1 < steps) :
    items limit steps (Text.join [',', ' '] texts ++ ']' :: rest) =
      .ok (contents, rest) := by
  induction each generalizing steps with
  | nil => exact absurd rfl ne_nil
  | @cons text content texts contents reads others ih =>
      obtain ⟨steps, rfl⟩ := Nat.exists_eq_add_one_of_ne_zero
        (Nat.ne_of_gt (Nat.lt_of_le_of_lt (Nat.zero_le _) few))
      rw [length_join_cons] at short few
      rw [join_cons, items]
      by_cases last : texts = []
      · subst last
        have read := reads.reads limit steps (']' :: rest) (by simpa using short)
          (by simpa using few) (.cons rest (by simp))
        obtain rfl := (List.forall₂_nil_left_iff.mp others)
        rw [if_pos rfl, read]
        rfl
      · rw [if_neg last] at short few ⊢
        have read := reads.reads limit steps
          (',' :: ' ' :: (Text.join [',', ' '] texts ++ ']' :: rest))
          (by omega) (by omega) (.cons _ (by simp))
        have begins := begins_join last
          (fun text member => (forall_of_forall₂ others text member).elim
            fun _ reads => reads.begins) (']' :: rest)
        rw [read]
        change (items limit steps (skipSpace (' ' ::
          (Text.join [',', ' '] texts ++ ']' :: rest))) >>= _) = _
        have space : skipSpace (' ' ::
            (Text.join [',', ' '] texts ++ ']' :: rest)) =
              Text.join [',', ' '] texts ++ ']' :: rest :=
          begins.skipSpace
        rw [space, ih last (by omega) (by omega)]
        rfl

/-- Whether a text is read as an entry of a map. -/
def EntryReadsAs (text : Text) (entry : Text × Value) : Prop :=
  ∃ content, text = writeText false entry.1 ++ [':', ' '] ++ content ∧
    ReadsAs content entry.2

theorem EntryReadsAs.unbroken {text : Text} {entry : Text × Value}
    (reads : EntryReadsAs text entry) : '\r' ∉ text := by
  obtain ⟨content, rfl, reads⟩ := reads
  have key := unbroken_writeText entry.1
  have value := reads.unbroken
  simp [key, value]

/-- The entries of a map behind some others, where keys are texts. -/
def putAll (known : List (Value × Value)) (entries : Entries Text Value) :
    List (Value × Value) :=
  entries.foldl (fun known entry =>
    Value.putEntry known (.str entry.1) entry.2) known

theorem entries_join {texts : List Text} {contents : Entries Text Value}
    (each : List.Forall₂ EntryReadsAs texts contents) (ne_nil : texts ≠ [])
    {limit steps : Nat} (known : List (Value × Value)) (rest : Text)
    (short : (Text.join [',', ' '] texts).length < limit)
    (few : (Text.join [',', ' '] texts).length + 1 < steps) :
    entries limit steps known (Text.join [',', ' '] texts ++ '}' :: rest) =
      .ok (putAll known contents, rest) := by
  induction each generalizing steps known with
  | nil => exact absurd rfl ne_nil
  | @cons text entry texts contents reads others ih =>
      obtain ⟨steps, rfl⟩ := Nat.exists_eq_add_one_of_ne_zero
        (Nat.ne_of_gt (Nat.lt_of_le_of_lt (Nat.zero_le _) few))
      obtain ⟨content, rfl, reads⟩ := reads
      have keyLength := length_le_writeText entry.1
      rw [length_join_cons] at short few
      simp only [List.length_append, List.length_cons,
        List.length_nil] at short few
      rw [join_cons]
      generalize closing : (if texts = [] then '}' :: rest
        else ',' :: ' ' :: (Text.join [',', ' '] texts ++ '}' :: rest)) = tail
      have delimits : Delimits tail := by
        rw [← closing]
        split <;> exact .cons _ (by simp)
      have key := string?_written entry.1 (':' :: ' ' :: (content ++ tail))
        (by omega : entry.1.length < limit)
      have read := reads.reads limit steps tail (by omega) (by omega) delimits
      have space : skipSpace (' ' :: (content ++ tail)) = content ++ tail :=
        (reads.begins.append tail).skipSpace
      have text : writeText false entry.1 ++ [':', ' '] ++ content ++ tail =
          '"' :: (entry.1.flatMap (writeCharacter false)
            ++ '"' :: ':' :: ' ' :: (content ++ tail)) := by
        simp [writeText]
      rw [text, entries, key]
      change (value limit steps (skipSpace (' ' :: (content ++ tail))) >>= _) = _
      rw [space, read]
      by_cases last : texts = []
      · subst last
        obtain rfl := List.forall₂_nil_left_iff.mp others
        rw [← closing, if_pos rfl]
        rfl
      · rw [if_neg last] at short few
        rw [← closing, if_neg last]
        have begins := begins_join last (fun text member => by
          obtain ⟨entry, content, rfl, -⟩ := forall_of_forall₂ others text member
          exact ⟨'"', _, rfl, by decide, by decide⟩) ('}' :: rest)
        change entries limit steps _ (skipSpace (' ' ::
          (Text.join [',', ' '] texts ++ '}' :: rest))) = _
        have space : skipSpace (' ' ::
            (Text.join [',', ' '] texts ++ '}' :: rest)) =
              Text.join [',', ' '] texts ++ '}' :: rest :=
          begins.skipSpace
        rw [space]
        exact ih last _ (by omega) (by omega)

theorem enclose_of_ne_nil (depth : Nat) (opening closing : Char)
    {texts : List Text} (ne_nil : texts ≠ []) (rest : Text) :
    compact.enclose depth opening closing texts ++ rest =
      opening :: (Text.join [',', ' '] texts ++ closing :: rest) := by
  have notEmpty : texts.isEmpty = false := by simpa using ne_nil
  simp [Style.enclose, compact, Style.lineBreak, Style.separator, notEmpty]

theorem length_enclose (depth : Nat) (opening closing : Char)
    {texts : List Text} (ne_nil : texts ≠ []) :
    (compact.enclose depth opening closing texts).length =
      (Text.join [',', ' '] texts).length + 2 := by
  have text := congrArg List.length
    (enclose_of_ne_nil depth opening closing ne_nil [])
  simpa using text

theorem unbroken_enclose (depth : Nat) {opening closing : Char}
    (noOpening : opening ≠ '\r') (noClosing : closing ≠ '\r')
    {texts : List Text} (each : ∀ text ∈ texts, '\r' ∉ text) :
    '\r' ∉ compact.enclose depth opening closing texts := by
  have joined : '\r' ∉ Text.join [',', ' '] texts := by
    induction texts with
    | nil => simp [Text.join]
    | cons text texts ih =>
        obtain ⟨here, later⟩ := List.forall_mem_cons.mp each
        have parts := join_cons text texts []
        rw [List.append_nil] at parts
        rw [parts]
        intro member
        rcases List.mem_append.mp member with inText | behind
        · exact here inText
        · split at behind
          · simp at behind
          · simp only [List.append_nil, List.mem_cons, Char.reduceEq,
              false_or] at behind
            exact ih later behind
  by_cases empty : texts = []
  · rw [empty]
    simpa [Style.enclose] using ⟨noOpening.symm, noClosing.symm⟩
  · have text := enclose_of_ne_nil depth opening closing empty []
    rw [List.append_nil] at text
    rw [text]
    simpa [joined] using ⟨noOpening.symm, noClosing.symm⟩

theorem readsAs_list (depth : Nat) {texts : List Text} {contents : List Value}
    (each : List.Forall₂ ReadsAs texts contents) :
    ReadsAs (compact.enclose depth '[' ']' texts) (.list contents) := by
  have unbroken := unbroken_enclose depth (by decide : '[' ≠ '\r')
    (by decide : ']' ≠ '\r') fun text member =>
      (forall_of_forall₂ each text member).elim fun _ reads => reads.unbroken
  by_cases empty : texts = []
  · subst empty
    obtain rfl := List.forall₂_nil_left_iff.mp each
    exact .ofSteps ⟨'[', _, rfl, by decide, by decide⟩ unbroken
      fun _ _ _ _ _ _ => rfl
  · have begins := enclose_of_ne_nil depth '[' ']' empty []
    rw [List.append_nil] at begins
    refine .ofSteps ⟨'[', _, begins, by decide, by decide⟩ unbroken ?_
    intro limit steps rest short few _
    rw [length_enclose depth _ _ empty] at short few
    have read := items_join each empty rest (by omega : _ < limit)
      (by omega : _ < steps)
    have first := begins_join empty
      (fun text member => (forall_of_forall₂ each text member).elim
        fun _ reads => reads.begins) (']' :: rest)
    rw [enclose_of_ne_nil depth _ _ empty, value, first.skipSpace]
    obtain ⟨character, more, equal, -, notEnd⟩ := first
    split
    · rename_i same
      exact absurd (List.cons.inj (equal.symm.trans same)).1 notEnd
    · rw [read]
      rfl

theorem readsAs_map (depth : Nat) {texts : List Text}
    {contents : Entries Text Value}
    (each : List.Forall₂ EntryReadsAs texts contents) :
    ReadsAs (compact.enclose depth '{' '}' texts)
      (.map (putAll [] contents)) := by
  have unbroken := unbroken_enclose depth (by decide : '{' ≠ '\r')
    (by decide : '}' ≠ '\r') fun text member =>
      (forall_of_forall₂ each text member).elim fun _ reads => reads.unbroken
  by_cases empty : texts = []
  · subst empty
    obtain rfl := List.forall₂_nil_left_iff.mp each
    exact .ofSteps ⟨'{', _, rfl, by decide, by decide⟩ unbroken
      fun _ _ _ _ _ _ => rfl
  · have begins := enclose_of_ne_nil depth '{' '}' empty []
    rw [List.append_nil] at begins
    refine .ofSteps ⟨'{', _, begins, by decide, by decide⟩ unbroken ?_
    intro limit steps rest short few _
    rw [length_enclose depth _ _ empty] at short few
    have read := entries_join each empty [] rest (by omega : _ < limit)
      (by omega : _ < steps)
    obtain ⟨more, equal⟩ : ∃ more,
        Text.join [',', ' '] texts ++ '}' :: rest = '"' :: more := by
      cases each with
      | nil => exact absurd rfl empty
      | cons here _ =>
          obtain ⟨content, rfl, -⟩ := here
          rw [join_cons]
          exact ⟨_, rfl⟩
    have visible : skipSpace (Text.join [',', ' '] texts ++ '}' :: rest) =
        Text.join [',', ' '] texts ++ '}' :: rest := by
      rw [equal]
      exact skipSpace_cons (by decide) more
    rw [enclose_of_ne_nil depth _ _ empty, value, visible]
    split
    · rename_i same
      exact absurd (List.cons.inj (equal.symm.trans same)).1 (by decide)
    · rw [read]
      rfl

mutual

/-- A value that is written on one line reads back, whatever follows it. -/
theorem value_readsAs (depth : Nat) : (content : Value) → (text : Text) →
    compact.value depth content = .ok text → ReadsAs text content.reread
  | .null, text, written => by
      obtain rfl := Except.ok.inj written
      exact readsAs_null
  | .bool truth, text, written => by
      obtain rfl := Except.ok.inj written
      exact readsAs_bool truth
  | .int integer, text, written => readsAs_integer written
  | .float number, text, written => by
      obtain rfl := Except.ok.inj written
      exact readsAs_float number
  | .str content, text, written => by
      obtain rfl := Except.ok.inj written
      exact readsAs_text content
  | .bytes content, text, written => by
      obtain rfl := Except.ok.inj written
      exact readsAs_text _
  | .date content, text, written => by
      obtain rfl := Except.ok.inj written
      exact readsAs_text _
  | .time content, text, written => by
      obtain rfl := Except.ok.inj written
      exact readsAs_text _
  | .moment content, text, written => by
      obtain rfl := Except.ok.inj written
      exact readsAs_text _
  | .set contents, text, written => by
      obtain ⟨shown, checked, rfl⟩ := Outcome.map_eq_ok.mp written
      obtain ⟨_, -, equal⟩ := Outcome.bind_eq_ok.mp checked
      obtain rfl := Except.ok.inj equal
      exact readsAs_text _
  | .list contents, text, written => by
      obtain ⟨texts, items, equal⟩ := Outcome.bind_eq_ok.mp written
      obtain rfl := Except.ok.inj equal
      exact readsAs_list depth (items_readAs (depth + 1) contents texts items)
  | .map contents, text, written => by
      obtain ⟨texts, entries, equal⟩ := Outcome.bind_eq_ok.mp written
      obtain rfl := Except.ok.inj equal
      obtain ⟨pairs, each, reread⟩ :=
        entries_readAs (depth + 1) contents texts entries
      rw [Value.reread, reread]
      exact readsAs_map depth each
  | .cycle, text, written => by cases written

theorem items_readAs (depth : Nat) : (contents : List Value) →
    (texts : List Text) → compact.items depth contents = .ok texts →
    List.Forall₂ ReadsAs texts (Value.rereadItems contents)
  | [], texts, written => by
      obtain rfl := Except.ok.inj written
      exact .nil
  | content :: contents, texts, written => by
      obtain ⟨text, first, more⟩ := Outcome.bind_eq_ok.mp written
      obtain ⟨others, later, equal⟩ := Outcome.bind_eq_ok.mp more
      obtain rfl := Except.ok.inj equal
      exact .cons (value_readsAs depth content text first)
        (items_readAs depth contents others later)

theorem entries_readAs (depth : Nat) : (contents : List (Value × Value)) →
    (texts : List Text) → compact.entries depth contents = .ok texts →
    ∃ pairs : Entries Text Value, List.Forall₂ EntryReadsAs texts pairs ∧
      ∀ known, Value.rereadEntries known contents = putAll known pairs
  | [], texts, written => by
      obtain rfl := Except.ok.inj written
      exact ⟨[], .nil, fun _ => rfl⟩
  | (key, content) :: contents, texts, written => by
      obtain ⟨name, named, behind⟩ := Outcome.bind_eq_ok.mp written
      obtain ⟨text, first, more⟩ := Outcome.bind_eq_ok.mp behind
      obtain ⟨others, later, equal⟩ := Outcome.bind_eq_ok.mp more
      obtain rfl := Except.ok.inj equal
      obtain ⟨pairs, each, reread⟩ :=
        entries_readAs depth contents others later
      refine ⟨(name, content.reread) :: pairs, .cons
        ⟨text, rfl, value_readsAs depth content text first⟩ each, ?_⟩
      intro known
      rw [Value.rereadEntries, named, reread]
      rfl

end

theorem unbroken_write {content : Value} {text : Text}
    (written : compact.write content = .ok text) : '\r' ∉ text :=
  (value_readsAs 0 content text written).unbroken

/-- What is written on one line is read as the value that reads back. -/
theorem read_write {content : Value} {text : Text}
    (written : compact.write content = .ok text) :
    read text = .ok content.reread := by
  have reads := value_readsAs 0 content text written
  have whole := reads.reads (text.length + 1) (text.length + 1) []
    (Nat.lt_succ_self _) (Nat.lt_succ_self _) Delimits.nil
  rw [List.append_nil] at whole
  rw [read, reads.begins.skipSpace, whole]
  rfl

end Json

end AnchorLint
