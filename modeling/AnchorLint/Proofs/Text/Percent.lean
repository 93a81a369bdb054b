import AnchorLint.Proofs.Text.Utf8
import AnchorLint.Text.Percent
import Mathlib.Data.List.Forall2
import Mathlib.Data.List.SplitBy
import Mathlib.Data.List.TakeWhile

/-!
# Decoding escaped texts

A text can be written with any of its characters escaped, each by its UTF-8 bytes.
Such a text is decoded run by run, and the bytes of an escaped character never lie
in two runs, because an escape is made of ASCII characters.  So every spelling of a
text without percent signs decodes to that text.
-/

namespace AnchorLint

namespace Percent

/-- The escape of a byte: a percent sign and two hexadecimal digits in either case. -/
def IsEscape (byte : UInt8) (escape : Text) : Prop :=
  ∃ first second high low,
    Text.hexValue? first = some high ∧ Text.hexValue? second = some low ∧
      byte.toNat = 16 * high + low ∧ escape = ['%', first, second]

/-- Whether a text is written down with some of its characters escaped, each by all
bytes of its UTF-8 form. -/
inductive Spells : (written text : Text) → Prop where
  | nil : Spells [] []
  | plain {character : Char} {written text : Text} :
      Spells written text → Spells (character :: written) (character :: text)
  | escaped {character : Char} {escapes : List Text} {written text : Text} :
      List.Forall₂ IsEscape (Utf8.encodeCharacter character) escapes →
      Spells written text →
      Spells (escapes.flatten ++ written) (character :: text)

/-! ## The bytes of escapes -/

theorem isAscii_of_le {character limit : Char} (most : character ≤ limit)
    (small : limit.toNat < 128) : isAscii character = true :=
  decide_eq_true (Nat.lt_of_le_of_lt most small)

theorem isAscii_of_hexValue? {digit : Char} {value : Nat}
    (read : Text.hexValue? digit = some value) : isAscii digit = true := by
  unfold Text.hexValue? at read
  split at read
  · rename_i bounds
    exact isAscii_of_le bounds.2 (by decide)
  split at read
  · rename_i bounds
    exact isAscii_of_le bounds.2 (by decide)
  split at read
  · rename_i bounds
    exact isAscii_of_le bounds.2 (by decide)
  · cases read

theorem isAscii_of_isAlphanum {character : Char}
    (isPart : character.isAlphanum = true) : isAscii character = true := by
  rcases Bool.or_eq_true_iff.mp isPart with isLetter | isDigit
  · rcases Bool.or_eq_true_iff.mp isLetter with isCapital | isSmall
    · have bounds := of_decide_eq_true isCapital
      exact isAscii_of_le bounds.2 (by decide)
    · have bounds := Bool.and_eq_true_iff.mp isSmall
      exact isAscii_of_le (of_decide_eq_true bounds.2) (by decide)
  · have bounds := Bool.and_eq_true_iff.mp isDigit
    exact isAscii_of_le (of_decide_eq_true bounds.2) (by decide)

variable {byte : UInt8} {bytes : Bytes} {escape : Text} {escapes : List Text}

theorem IsEscape.isAscii (isEscape : IsEscape byte escape) :
    escape.all isAscii = true := by
  obtain ⟨first, second, high, low, readFirst, readSecond, -, rfl⟩ := isEscape
  simp [isAscii_of_hexValue? readFirst, isAscii_of_hexValue? readSecond]
  decide

theorem isAscii_escapes (each : List.Forall₂ IsEscape bytes escapes) :
    escapes.flatten.all isAscii = true := by
  induction each with
  | nil => rfl
  | cons here _ ih =>
      rw [List.flatten_cons, List.all_append, here.isAscii, ih, Bool.and_self]

theorem runBytes_escape (isEscape : IsEscape byte escape) (rest : Text) :
    runBytes (escape ++ rest) = byte :: runBytes rest := by
  obtain ⟨first, second, high, low, readFirst, readSecond, value, rfl⟩ := isEscape
  rw [List.cons_append, List.cons_append, List.singleton_append, runBytes,
    readFirst, readSecond]
  dsimp only
  rw [← value, UInt8.ofNat_toNat]

theorem runBytes_escapes (each : List.Forall₂ IsEscape bytes escapes)
    (rest : Text) :
    runBytes (escapes.flatten ++ rest) = bytes ++ runBytes rest := by
  induction each with
  | nil => rfl
  | cons here _ ih =>
      rw [List.flatten_cons, List.append_assoc, runBytes_escape here, ih,
        List.cons_append]

theorem runBytes_cons {character : Char} (plain : character ≠ '%')
    (rest : Text) :
    runBytes (character :: rest) =
      UInt8.ofNat character.toNat :: runBytes rest := by
  rw [runBytes]
  rintro first second rest rfl
  exact absurd rfl plain

/-! ## Decoding run by run -/

/-- What a run of one kind of characters stands for. -/
def decodeRun (run : Text) : Option Text :=
  if run.all isAscii then Utf8.decode? (runBytes run) else some run

section Runs

variable {kind : Bool} {run rest : Text}

theorem runs_append (nonempty : run ≠ [])
    (same : ∀ character ∈ run, isAscii character = kind)
    (ends : ∀ character ∈ rest.head?, isAscii character ≠ kind) :
    runs (run ++ rest) = run :: runs rest := by
  rw [runs, List.splitBy_append, List.splitBy_of_isChain nonempty]
  · rfl
  · apply List.Pairwise.isChain
    apply List.pairwise_of_forall_mem_list
    intro first isFirst second isSecond
    rw [same first isFirst, same second isSecond, beq_self_eq_true]
  · intro last isLast next isNext
    rw [same last (List.mem_of_mem_getLast? isLast)]
    exact beq_eq_false_iff_ne.mpr (Ne.symm (ends next isNext))

theorem decode?_append (nonempty : run ≠ [])
    (same : ∀ character ∈ run, isAscii character = kind)
    (ends : ∀ character ∈ rest.head?, isAscii character ≠ kind) :
    decode? (run ++ rest) =
      (decodeRun run).bind fun front => (decode? rest).map (front ++ ·) := by
  unfold decode?
  change ((runs (run ++ rest)).mapM decodeRun).map List.flatten =
    (decodeRun run).bind fun front =>
      (((runs rest).mapM decodeRun).map List.flatten).map (front ++ ·)
  rw [runs_append nonempty same ends, List.mapM_cons]
  cases decodeRun run with
  | none => rfl
  | some front => cases (runs rest).mapM decodeRun <;> rfl

end Runs

/-- Characters outside ASCII stand for themselves. -/
theorem decode?_foreign {front rest : Text}
    (foreign : ∀ character ∈ front, isAscii character = false)
    (ends : ∀ character ∈ rest.head?, isAscii character = true) :
    decode? (front ++ rest) = (decode? rest).map (front ++ ·) := by
  cases front with
  | nil => simp
  | cons character front =>
      rw [decode?_append (List.cons_ne_nil _ _) foreign
        (by simpa using ends), decodeRun, if_neg, Option.bind_some]
      simp [foreign character List.mem_cons_self]

theorem decode?_cons {character : Char} (foreign : isAscii character = false)
    (rest : Text) :
    decode? (character :: rest) = (decode? rest).map (character :: ·) := by
  -- The character joins the run of such characters behind it.
  obtain ⟨front, behind, rfl, allForeign, ends⟩ :
      ∃ front behind, rest = front ++ behind ∧
        (∀ other ∈ front, isAscii other = false) ∧
        ∀ other ∈ behind.head?, isAscii other = true := by
    refine ⟨rest.takeWhile (!isAscii ·), rest.dropWhile (!isAscii ·),
      List.takeWhile_append_dropWhile.symm, ?_, ?_⟩
    · intro other member
      simpa using List.mem_takeWhile_imp member
    · intro other first
      have stops := List.head?_dropWhile_not (!isAscii ·) rest
      rw [Option.mem_def.mp first] at stops
      simpa using stops
  rw [← List.cons_append,
    decode?_foreign (List.forall_mem_cons.mpr ⟨foreign, allForeign⟩) ends,
    decode?_foreign allForeign ends, Option.map_map]
  rfl

theorem eq_nil_of_encode {text : Text} (empty : Utf8.encode text = []) :
    text = [] := by
  have decoded := Utf8.decode?_encode text
  rw [empty] at decoded
  exact (Option.some.inj decoded).symm

/-- A run of ASCII characters stands for the text whose bytes it writes down. -/
theorem decode?_ascii {run front rest : Text}
    (ascii : ∀ character ∈ run, isAscii character = true)
    (bytes : runBytes run = Utf8.encode front)
    (ends : ∀ character ∈ rest.head?, isAscii character = false) :
    decode? (run ++ rest) = (decode? rest).map (front ++ ·) := by
  by_cases empty : run = []
  · subst empty
    obtain rfl := eq_nil_of_encode bytes.symm
    simp
  · rw [decode?_append empty ascii (by simpa using ends), decodeRun,
      if_pos (List.all_eq_true.mpr ascii), bytes, Utf8.decode?_encode,
      Option.bind_some]

theorem encode_concat (front : Text) (character : Char) :
    Utf8.encode (front ++ [character]) =
      Utf8.encode front ++ Utf8.encodeCharacter character := by
  simp [Utf8.encode]

/-- Whether a run of ASCII characters writes down the bytes of a text, whatever
follows it. -/
def Writes (run front : Text) : Prop :=
  (∀ character ∈ run, isAscii character = true) ∧
    ∀ rest, runBytes (run ++ rest) = Utf8.encode front ++ runBytes rest

theorem Writes.nil : Writes [] [] :=
  ⟨by simp, fun _ => rfl⟩

theorem Writes.runBytes_eq {run front : Text} (writes : Writes run front) :
    runBytes run = Utf8.encode front := by
  have bytes := writes.2 []
  rwa [List.append_nil, runBytes, List.append_nil] at bytes

theorem Writes.plain {run front : Text} {character : Char}
    (writes : Writes run front) (ascii : isAscii character = true)
    (plain : character ≠ '%') :
    Writes (run ++ [character]) (front ++ [character]) := by
  refine ⟨?_, fun rest => ?_⟩
  · intro other member
    rcases List.mem_append.mp member with inRun | last
    · exact writes.1 other inRun
    · rwa [List.mem_singleton.mp last]
  · have single : Utf8.encodeCharacter character =
        [UInt8.ofNat character.toNat] :=
      if_pos (of_decide_eq_true ascii)
    rw [List.append_assoc, writes.2, List.singleton_append, runBytes_cons plain,
      encode_concat, single, List.append_assoc, List.singleton_append]

theorem Writes.escaped {run front : Text} {character : Char}
    (writes : Writes run front)
    (each : List.Forall₂ IsEscape (Utf8.encodeCharacter character) escapes) :
    Writes (run ++ escapes.flatten) (front ++ [character]) := by
  refine ⟨?_, fun rest => ?_⟩
  · intro other member
    rcases List.mem_append.mp member with inRun | inEscapes
    · exact writes.1 other inRun
    · exact List.all_eq_true.mp (isAscii_escapes each) other inEscapes
  · rw [List.append_assoc, writes.2, runBytes_escapes each, encode_concat,
      List.append_assoc]

/-- The run before `written` may go on in it. -/
theorem decode?_of_spells {written text : Text} (spells : Spells written text)
    (free : '%' ∉ text) {run front : Text} (writes : Writes run front) :
    decode? (run ++ written) = some (front ++ text) := by
  induction spells generalizing run front with
  | nil =>
      rw [decode?_ascii writes.1 writes.runBytes_eq (by simp)]
      rfl
  | @plain character written text spells ih =>
      rw [List.mem_cons, not_or] at free
      by_cases ascii : isAscii character = true
      · have decoded := ih free.2 (writes.plain ascii (Ne.symm free.1))
        rwa [List.append_assoc, List.append_assoc] at decoded
      · have foreign : isAscii character = false := Bool.eq_false_iff.mpr ascii
        have decoded := ih free.2 .nil
        rw [List.nil_append, List.nil_append] at decoded
        rw [decode?_ascii writes.1 writes.runBytes_eq (by simpa using foreign),
          decode?_cons foreign, decoded]
        rfl
  | @escaped character escapes written text each spells ih =>
      rw [List.mem_cons, not_or] at free
      have decoded := ih free.2 (writes.escaped each)
      rwa [List.append_assoc, List.append_assoc] at decoded

/-- Every spelling of a text without percent signs decodes to that text. -/
theorem decodeFragment_of_spells {written text : Text}
    (spells : Spells written text) (free : '%' ∉ text) :
    decodeFragment written = text := by
  have decoded := decode?_of_spells spells free .nil
  rw [decodeFragment, ← List.nil_append written, decoded]
  rfl

theorem spells_self (text : Text) : Spells text text := by
  induction text with
  | nil => exact .nil
  | cons character text ih => exact .plain ih

theorem decodeFragment_of_free {text : Text} (free : '%' ∉ text) :
    decodeFragment text = text :=
  decodeFragment_of_spells (spells_self text) free

/-! ## Replacing what is ill-formed -/

/-- What a run of one kind of characters stands for, ill-formed parts replaced. -/
def decodeRunLossy (run : Text) : Text :=
  if run.all isAscii then Utf8.decodeLossy (runBytes run) else run

theorem decodeLossy_ascii {run rest : Text}
    (ascii : ∀ character ∈ run, isAscii character = true)
    (ends : ∀ character ∈ rest.head?, isAscii character = false) :
    decodeLossy (run ++ rest) =
      Utf8.decodeLossy (runBytes run) ++ decodeLossy rest := by
  by_cases empty : run = []
  · subst empty
    rfl
  · change (runs (run ++ rest)).flatMap decodeRunLossy = _
    rw [runs_append empty ascii (by simpa using ends), List.flatMap_cons,
      decodeRunLossy, if_pos (List.all_eq_true.mpr ascii)]
    rfl

theorem decodeLossy_runBytes_cons {character : Char}
    (ascii : isAscii character = true) (plain : character ≠ '%') (run : Text) :
    Utf8.decodeLossy (runBytes (character :: run)) =
      character :: Utf8.decodeLossy (runBytes run) := by
  have single : Utf8.encodeCharacter character =
      [UInt8.ofNat character.toNat] :=
    if_pos (of_decide_eq_true ascii)
  have units := Utf8.units_encodeCharacter character (runBytes run)
  rw [single, List.singleton_append] at units
  rw [runBytes_cons plain, Utf8.decodeLossy, units]
  rfl

/-- An ASCII character that begins no escape stands for itself. -/
theorem decodeLossy_cons {character : Char} (ascii : isAscii character = true)
    (plain : character ≠ '%') (rest : Text) :
    decodeLossy (character :: rest) = character :: decodeLossy rest := by
  -- The character joins the run of such characters behind it.
  obtain ⟨front, behind, rfl, allAscii, ends⟩ :
      ∃ front behind, rest = front ++ behind ∧
        (∀ other ∈ front, isAscii other = true) ∧
        ∀ other ∈ behind.head?, isAscii other = false := by
    refine ⟨rest.takeWhile isAscii, rest.dropWhile isAscii,
      List.takeWhile_append_dropWhile.symm, ?_, ?_⟩
    · intro other member
      exact List.mem_takeWhile_imp member
    · intro other first
      have stops := List.head?_dropWhile_not isAscii rest
      rw [Option.mem_def.mp first] at stops
      simpa using stops
  rw [← List.cons_append,
    decodeLossy_ascii (List.forall_mem_cons.mpr ⟨ascii, allAscii⟩) ends,
    decodeLossy_ascii allAscii ends, decodeLossy_runBytes_cons ascii plain,
    List.cons_append]

end Percent

end AnchorLint
