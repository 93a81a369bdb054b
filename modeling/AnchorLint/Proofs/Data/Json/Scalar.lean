import AnchorLint.Data.Json.Read
import AnchorLint.Data.Json.Write
import AnchorLint.Proofs.Number.Decimal

/-!
# Scalars read back

Numbers and texts are written in such a way that the reader finds them again,
whatever follows them in a document.
-/

namespace AnchorLint

namespace Json

open Decimal (Parts)

/-- Whether a text may follow a value: it is empty or ends an item. -/
def Delimits (rest : Text) : Prop :=
  ∀ character ∈ rest.head?, character = ',' ∨ character = ']' ∨ character = '}'

theorem Delimits.nil : Delimits [] := by
  simp [Delimits]

theorem Delimits.cons {character : Char} (rest : Text)
    (ends : character = ',' ∨ character = ']' ∨ character = '}') :
    Delimits (character :: rest) := by
  intro first member
  obtain rfl : first = character := by simpa using member.symm
  exact ends

/-! ## Numbers -/

section

variable {parts : Parts} {rest : Text}

theorem exponent?_text (proper : parts.IsProper) (delimits : Delimits rest) :
    exponent? (parts.exponentText ++ rest) =
      (parts.power?, rest) := by
  have stops : ∀ character ∈ rest.head?, character.isDigit = false := by
    intro character member
    rcases delimits character member with rfl | rfl | rfl <;> decide
  cases written : parts.exponent with
  | none =>
      simp only [Parts.exponentText, Parts.power?, written, List.nil_append,
        Option.map_none]
      cases rest with
      | nil => rfl
      | cons character rest =>
          have noMark : ¬(character = 'e' ∨ character = 'E') := by
            rcases delimits character (by simp) with rfl | rfl | rfl <;> decide
          unfold exponent?
          exact if_neg noMark
  | some exponent =>
      obtain ⟨negative, digits⟩ := exponent
      obtain ⟨numeral, ne_nil⟩ := proper.exponent_isNumeral _ _ written
      have taken := Text.takeWhile_isDigit numeral stops
      have notEmpty : digits.isEmpty = false := by simpa using ne_nil
      cases negative with
      | true =>
          simp [Parts.exponentText, exponent?, Parts.power?, written, taken,
            notEmpty]
      | false =>
          simp [Parts.exponentText, exponent?, Parts.power?, written, taken,
            notEmpty]

theorem head_exponentText (delimits : Delimits rest) :
    ∀ character ∈ (parts.exponentText ++ rest).head?,
      character.isDigit = false ∧ character ≠ '.' := by
  intro character member
  unfold Parts.exponentText at member
  cases written : parts.exponent with
  | none =>
      rw [written] at member
      rcases delimits character member with rfl | rfl | rfl <;> decide
  | some exponent =>
      rw [written] at member
      obtain rfl : character = 'e' := by simpa using member.symm
      decide

theorem fraction_text (proper : parts.IsProper) {more : Text}
    (stops : ∀ character ∈ more.head?,
      character.isDigit = false ∧ character ≠ '.') :
    fraction ((if parts.fraction.isEmpty then [] else '.' :: parts.fraction)
      ++ more) = (parts.fraction, more) := by
  have taken := Text.takeWhile_isDigit proper.fraction_isNumeral
    fun character member => (stops character member).1
  by_cases written : parts.fraction = []
  · cases more with
    | nil => rw [written]; rfl
    | cons character more =>
        have noPoint := (stops character (by simp)).2
        rw [written]
        simp only [List.isEmpty_nil, if_true, List.nil_append]
        unfold fraction
        split
        · rename_i equal
          exact absurd (List.cons.inj equal).1 noPoint
        · rfl
  · have notEmpty : parts.fraction.isEmpty = false := by simpa using written
    rw [if_neg (by simp [notEmpty])]
    simp only [List.cons_append, fraction, taken, notEmpty, Bool.false_eq_true,
      if_false, List.drop_left]

theorem wholeDigits_text (proper : parts.IsProper) {more : Text}
    (stops : ∀ character ∈ more.head?, character.isDigit = false) :
    wholeDigits (parts.whole ++ more) = parts.whole := by
  obtain ⟨first, digits, written⟩ :=
    List.exists_cons_of_ne_nil proper.whole_ne_nil
  have taken := Text.takeWhile_isDigit proper.whole_isNumeral stops
  unfold wholeDigits
  split
  · rename_i equal
    rw [written] at equal
    have zero : first = '0' := (List.cons.inj equal).1
    exact (proper.leading (by rw [written, zero]; rfl)).symm
  · exact taken

theorem sign_text (proper : parts.IsProper) (negative : Bool) (more : Text) :
    sign ((if negative then ['-'] else []) ++ (parts.whole ++ more)) =
      (negative, parts.whole ++ more) := by
  cases negative with
  | true => rfl
  | false =>
      obtain ⟨first, digits, written⟩ :=
        List.exists_cons_of_ne_nil proper.whole_ne_nil
      have digit := proper.whole_isNumeral first (by simp [written])
      rw [written]
      unfold sign
      split
      · rename_i equal
        obtain rfl : first = '-' := (List.cons.inj equal).1
        exact absurd digit (by decide)
      · rfl

theorem number_text (proper : parts.IsProper) (negative : Bool)
    (delimits : Delimits rest) :
    number ((if negative then ['-'] else []) ++ parts.text ++ rest) =
      if parts.fraction.isEmpty ∧ parts.power? = none then
        if ReadError.digitLimit < parts.whole.length then
          .error (.integerTooLong parts.whole.length)
        else
          let value : Int := Text.digitsValue 10 parts.whole
          .ok (.int (if negative then -value else value), rest)
      else
        .ok (.float (Binary64.ofDecimal negative
          (Text.digitsValue 10 parts.digits) parts.lastPower), rest) := by
  have stops := @head_exponentText parts rest delimits
  have fractionRead := fraction_text proper stops
  have exponentRead := exponent?_text proper delimits
  have behind : ∀ character ∈ ((if parts.fraction.isEmpty then []
      else '.' :: parts.fraction)
        ++ (parts.exponentText ++ rest)).head?,
      character.isDigit = false := by
    intro character member
    split at member
    · exact (stops character member).1
    · obtain rfl : character = '.' := by simpa using member.symm
      decide
  have text : (if negative then ['-'] else []) ++ parts.text ++ rest =
      (if negative then ['-'] else []) ++ (parts.whole
        ++ ((if parts.fraction.isEmpty then [] else '.' :: parts.fraction)
          ++ (parts.exponentText ++ rest))) := by
    simp only [Parts.text, List.append_assoc]
  have notEmpty : parts.whole.isEmpty = false := by
    simpa using proper.whole_ne_nil
  simp only [text, number, sign_text proper, wholeDigits_text proper behind,
    notEmpty, List.drop_left, fractionRead, exponentRead, Bool.false_eq_true,
    if_false]
  rfl

end

/-! ## Texts -/

theorem hexQuad?_append {digits rest : Text} {value : Nat}
    (read : hexQuad? digits = some (value, rest)) (more : Text) :
    hexQuad? (digits ++ more) = some (value, rest ++ more) := by
  match digits with
  | a :: b :: c :: d :: behind =>
      simp only [hexQuad?, List.cons_append, Option.bind_eq_bind,
        Option.bind_eq_some_iff, Option.pure_def, Option.some.injEq,
        Prod.mk.injEq] at read ⊢
      grind
  | [] | [_] | [_, _] | [_, _, _] => simp [hexQuad?] at read

theorem hexQuad?_hex : ∀ codePoint < 32,
    hexQuad? (Text.hex 4 codePoint) = some (codePoint, []) := by
  decide

theorem escape?_control {character : Char} (control : character.toNat < 32)
    (more : Text) :
    escape? ('u' :: Text.hex 4 character.toNat ++ more) =
      some (character, more) := by
  have read := hexQuad?_append (hexQuad?_hex _ control) more
  have plain : ¬(0xD800 ≤ character.toNat ∧ character.toNat ≤ 0xDBFF) := by
    omega
  change unicodeEscape? (Text.hex 4 character.toNat ++ more) = _
  simp [unicodeEscape?, read, plain, Char.ofNat_toNat]

theorem string?_escape {character : Char} {escape more : Text}
    (read : escape? (escape ++ more) = some (character, more)) (steps : Nat) :
    string? (steps + 1) ('\\' :: escape ++ more) =
      (string? steps more).map fun read => (character :: read.1, read.2) := by
  rw [List.cons_append, string?, if_neg (by decide), if_pos rfl, read]
  simp only [Option.bind_eq_bind, Option.bind_some]
  cases string? steps more <;> rfl

theorem string?_character (character : Char) (steps : Nat) (more : Text) :
    string? (steps + 1) (writeCharacter false character ++ more) =
      (string? steps more).map fun read => (character :: read.1, read.2) := by
  have known {codePoint : Nat} (equal : character.toNat = codePoint) :
      Char.ofNat codePoint = character := by
    rw [← equal, Char.ofNat_toNat]
  rw [writeCharacter]
  by_cases quote : character = '"'
  · rw [if_pos quote]
    exact string?_escape (by rw [quote]; rfl) steps
  rw [if_neg quote]
  by_cases backslash : character = '\\'
  · rw [if_pos backslash]
    exact string?_escape (by rw [backslash]; rfl) steps
  rw [if_neg backslash]
  by_cases feed : character = '\n'
  · rw [if_pos feed]
    exact string?_escape (by rw [feed]; rfl) steps
  rw [if_neg feed]
  by_cases carriage : character = '\r'
  · rw [if_pos carriage]
    exact string?_escape (by rw [carriage]; rfl) steps
  rw [if_neg carriage]
  by_cases tab : character = '\t'
  · rw [if_pos tab]
    exact string?_escape (by rw [tab]; rfl) steps
  rw [if_neg tab]
  by_cases back : character.toNat = 8
  · rw [if_pos back]
    exact string?_escape (by rw [← known back]; rfl) steps
  rw [if_neg back]
  by_cases form : character.toNat = 12
  · rw [if_pos form]
    exact string?_escape (by rw [← known form]; rfl) steps
  rw [if_neg form]
  by_cases control : character.toNat < 32
  · rw [if_pos control]
    exact string?_escape (escape?_control control more) steps
  rw [if_neg control, if_neg (by simp), List.singleton_append, string?,
    if_neg quote, if_neg backslash, if_neg control]
  cases string? steps more <;> rfl

theorem string?_written (text rest : Text) {limit : Nat}
    (enough : text.length < limit) :
    string? limit (text.flatMap (writeCharacter false) ++ '"' :: rest) =
      some (text, rest) := by
  induction text generalizing limit with
  | nil =>
      obtain ⟨steps, rfl⟩ := Nat.exists_eq_add_one.mpr enough
      rfl
  | cons character text ih =>
      obtain ⟨steps, rfl⟩ :=
        Nat.exists_eq_add_one.mpr (Nat.lt_of_le_of_lt (Nat.zero_le _) enough)
      rw [List.flatMap_cons, List.append_assoc, string?_character,
        ih (by simpa using enough)]
      rfl

/-- No character is written with a carriage return, which files do not keep. -/
theorem unbroken_writeCharacter (character : Char) :
    '\r' ∉ writeCharacter false character := by
  have controls : ∀ codePoint < 32, '\r' ∉ escapeUnit codePoint := by decide
  rw [writeCharacter]
  by_cases quote : character = '"'
  · rw [if_pos quote]
    decide
  rw [if_neg quote]
  by_cases backslash : character = '\\'
  · rw [if_pos backslash]
    decide
  rw [if_neg backslash]
  by_cases feed : character = '\n'
  · rw [if_pos feed]
    decide
  rw [if_neg feed]
  by_cases carriage : character = '\r'
  · rw [if_pos carriage]
    decide
  rw [if_neg carriage]
  by_cases tab : character = '\t'
  · rw [if_pos tab]
    decide
  rw [if_neg tab]
  by_cases back : character.toNat = 8
  · rw [if_pos back]
    decide
  rw [if_neg back]
  by_cases form : character.toNat = 12
  · rw [if_pos form]
    decide
  rw [if_neg form]
  by_cases control : character.toNat < 32
  · rw [if_pos control]
    exact controls _ control
  rw [if_neg control, if_neg (by simp)]
  simpa using Ne.symm carriage

theorem unbroken_writeText (text : Text) : '\r' ∉ writeText false text := by
  simp only [writeText, List.cons_append, List.mem_cons, List.mem_append,
    List.mem_flatMap, List.not_mem_nil, or_false, not_or, not_exists, not_and]
  exact ⟨by decide, fun character _ => unbroken_writeCharacter character,
    by decide⟩

theorem unbroken_parts {parts : Parts} (proper : parts.IsProper)
    (negative : Bool) :
    '\r' ∉ (if negative then ['-'] else []) ++ parts.text := by
  have numeral {digits : Text} (isNumeral : digits.IsNumeral) :
      '\r' ∉ digits :=
    fun member => absurd (isNumeral _ member) (by decide)
  have sign : '\r' ∉ (if negative then ['-'] else []) := by
    cases negative <;> decide
  have whole := numeral proper.whole_isNumeral
  have fraction := numeral proper.fraction_isNumeral
  have point : '\r' ∉ (if parts.fraction.isEmpty then []
      else '.' :: parts.fraction) := by
    split
    · simp
    · simpa using fraction
  have exponent : '\r' ∉ parts.exponentText := by
    unfold Parts.exponentText
    split
    · simp
    · rename_i negative digits written
      have digits := numeral (proper.exponent_isNumeral _ _ written).1
      cases negative <;> simpa using digits
  intro member
  rcases List.mem_append.mp member with inSign | inText
  · exact sign inSign
  · rcases List.mem_append.mp inText with inDigits | inExponent
    · rcases List.mem_append.mp inDigits with inWhole | inFraction
      · exact whole inWhole
      · exact point inFraction
    · exact exponent inExponent

/-! ## Scalars at the start of a text -/

theorem value_quote (limit steps : Nat) (text rest : Text)
    (enough : text.length < limit) :
    value limit (steps + 1) (writeText false text ++ rest) =
      .ok (.str text, rest) := by
  have read := string?_written text rest enough
  rw [writeText, List.cons_append, List.cons_append, List.append_assoc,
    List.singleton_append, value, read]

theorem value_null (limit steps : Nat) (rest : Text) :
    value limit (steps + 1) ("null".toList ++ rest) = .ok (.null, rest) := by
  rfl

theorem value_bool (limit steps : Nat) (truth : Bool) (rest : Text) :
    value limit (steps + 1)
        ((if truth then "true".toList else "false".toList) ++ rest) =
      .ok (.bool truth, rest) := by
  cases truth <;> rfl

theorem value_nan (limit steps : Nat) (rest : Text) :
    value limit (steps + 1) ("NaN".toList ++ rest) =
      .ok (.float .nan, rest) := by
  rfl

theorem value_infinity (limit steps : Nat) (negative : Bool) (rest : Text) :
    value limit (steps + 1)
        ((if negative then ['-'] else []) ++ "Infinity".toList ++ rest) =
      .ok (.float (.infinity negative), rest) := by
  cases negative <;> rfl

theorem after?_cons_of_ne {first other : Char} (different : other ≠ first)
    (word rest : Text) : Text.after? (first :: word) (other :: rest) = none := by
  have notSame : (first == other) = false :=
    beq_eq_false_iff_ne.mpr (Ne.symm different)
  simp only [Text.after?, List.isPrefixOf?, notSame, Bool.false_eq_true,
    if_false]

theorem word?_of_isDigit {digit : Char} (isDigit : digit.isDigit = true)
    (negative : Bool) (rest : Text) :
    word? ((if negative then ['-'] else []) ++ digit :: rest) = none := by
  have other (mark : Char) (noDigit : mark.isDigit = false) (word : Text) :
      Text.after? (mark :: word) (digit :: rest) = none := by
    refine after?_cons_of_ne ?_ word rest
    rintro rfl
    simp [noDigit] at isDigit
  rw [word?, List.findSome?_eq_none_iff]
  intro entry member
  simp only [words, List.mem_cons, List.not_mem_nil, or_false] at member
  cases negative with
  | false =>
      rcases member with rfl | rfl | rfl | rfl | rfl | rfl
      all_goals exact congrArg (Option.map _) (other _ (by decide) _)
  | true =>
      have sign (mark : Char) (different : '-' ≠ mark) (word : Text) :
          Text.after? (mark :: word) ('-' :: digit :: rest) = none :=
        after?_cons_of_ne different word _
      rcases member with rfl | rfl | rfl | rfl | rfl | rfl
      case inr.inr.inr.inr.inr =>
        exact congrArg (Option.map _) (other 'I' (by decide) _)
      all_goals exact congrArg (Option.map _) (sign _ (by decide) _)

/-- A text that begins with a digit, or with a minus sign and a digit, is read
as a number. -/
theorem value_number {digit : Char} (isDigit : digit.isDigit = true)
    (limit steps : Nat) (negative : Bool) (rest : Text) :
    value limit (steps + 1)
        ((if negative then ['-'] else []) ++ digit :: rest) =
      number ((if negative then ['-'] else []) ++ digit :: rest) := by
  have noMark (mark : Char) (noDigit : mark.isDigit = false)
      (noSign : mark ≠ '-') (more : Text)
      (equal : (if negative then ['-'] else []) ++ digit :: rest =
        mark :: more) : False := by
    cases negative with
    | false =>
        obtain rfl : digit = mark := (List.cons.inj equal).1
        simp [noDigit] at isDigit
    | true => exact noSign (List.cons.inj equal).1.symm
  rw [value, word?_of_isDigit isDigit]
  · exact noMark '"' (by decide) (by decide)
  · exact noMark '[' (by decide) (by decide)
  · exact noMark '{' (by decide) (by decide)

end Json

end AnchorLint
