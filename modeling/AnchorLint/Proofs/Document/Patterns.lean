import AnchorLint.Document.Inline
import AnchorLint.Proofs.Text.Find
import Mathlib.Data.List.DropRight
import Mathlib.Data.List.TakeDrop
import Mathlib.Data.List.TakeWhile

/-!
# What the patterns of a line read

The patterns for links match only where a bracket, an exclamation mark or the start
of an address stands.  What an address covers can be told from its value, and the
text of an inline link ends before the link does.
-/

namespace AnchorLint

namespace Inline

/-! ## Bracketed links -/

theorem isSolid_withImageMark {read : Text → Option (Text × Text × Text)}
    (opens : ∀ link parts, read link = some parts → link.head? = some '[')
    {text after : Text} {written : Written}
    (found : withImageMark read text = some (written, after)) :
    ∃ first rest, text = first :: rest ∧ first ≠ ' ' := by
  unfold withImageMark at found
  split at found
  · exact ⟨_, _, rfl, by decide⟩
  · obtain ⟨parts, isLink, -⟩ := Option.map_eq_some_iff.mp found
    obtain ⟨rest, equal⟩ := List.head?_eq_some_iff.mp (opens _ _ isLink)
    exact ⟨'[', rest, equal, by decide⟩

theorem head?_of_linkText? {text : Text} {parts : Text × Text}
    (read : linkText? text = some parts) : text.head? = some '[' := by
  unfold linkText? at read
  split at read
  · rfl
  · cases read

theorem head?_of_label? {text : Text} {parts : Text × Text}
    (read : label? text = some parts) : text.head? = some '[' := by
  unfold label? at read
  split at read
  · rfl
  · cases read

theorem isSolid_fullReference : Pattern.IsSolid fullReference := by
  intro before text written after found
  unfold fullReference at found
  split at found
  · cases found
  · refine isSolid_withImageMark (fun link parts read => ?_) found
    obtain ⟨label, isText, -⟩ := Option.bind_eq_some_iff.mp read
    exact head?_of_linkText? isText

theorem isSolid_shortcutReference : Pattern.IsSolid shortcutReference := by
  intro before text written after found
  unfold shortcutReference at found
  split at found
  · cases found
  · refine isSolid_withImageMark (fun link parts read => ?_) found
    obtain ⟨label, isLabel, -⟩ := Option.bind_eq_some_iff.mp read
    exact head?_of_label? isLabel

/-! ## Addresses -/

/-- An address in angle brackets as it is written. -/
def inBrackets (address : Text) : Text :=
  '<' :: address ++ ['>']

theorem length_inBrackets (address : Text) :
    (inBrackets address).length = address.length + 2 := by
  simp [inBrackets]

theorem isSolid_of_spells_inBrackets {pattern : Pattern Text}
    (spells : pattern.Spells inBrackets) : pattern.IsSolid := by
  intro before text value after found
  exact ⟨'<', _, spells _ _ _ _ found, by decide⟩

/-- What two addresses in brackets at the same place have between the brackets is
the same. -/
theorem eq_of_inBrackets {first second after rest : Text} (closed : '>' ∉ first)
    (closedToo : '>' ∉ second)
    (same : inBrackets first ++ after = inBrackets second ++ rest) : first = second := by
  have inside : first ++ '>' :: after = second ++ '>' :: rest := by
    simpa [inBrackets] using same
  have cut {address : Text} (closed : '>' ∉ address) (behind : Text) :
      (address ++ '>' :: behind).takeWhile (· != '>') = address := by
    rw [List.takeWhile_append_of_pos, List.takeWhile_cons]
    · simp
    · intro character member
      exact bne_iff_ne.mpr fun equal => closed (equal ▸ member)
  rw [← cut closed after, inside, cut closedToo]

theorem parts_of_span {holds : Char → Bool} {text front behind : Text}
    (cut : text.span holds = (front, behind)) :
    text = front ++ behind ∧ ∀ character ∈ front, holds character = true := by
  rw [List.span_eq_takeWhile_dropWhile] at cut
  obtain ⟨rfl, rfl⟩ := Prod.mk.inj cut
  exact ⟨List.takeWhile_append_dropWhile.symm,
    fun character member => List.mem_takeWhile_imp member⟩

theorem autolink_eq_some {before : Option Char} {text value after : Text}
    (found : autolink before text = some (value, after)) :
    text = inBrackets value ++ after ∧ '>' ∉ value := by
  unfold autolink at found
  split at found
  · rename_i first rest
    have isScheme : ∀ character ∈ rest.takeWhile Target.isSchemeCharacter,
        Target.isSchemeCharacter character = true :=
      fun character member => List.mem_takeWhile_imp member
    obtain ⟨behind, parts⟩ := List.takeWhile_prefix Target.isSchemeCharacter (l := rest)
    generalize rest.takeWhile Target.isSchemeCharacter = scheme at found isScheme parts
    subst parts
    dsimp only at found
    split at found
    · rename_i valid
      rw [List.drop_left] at found
      split at found
      · split at found
        · rename_i address after cut
          obtain ⟨rfl, rfl⟩ := Prod.mk.inj (Option.some.inj found)
          obtain ⟨rfl, inside⟩ := parts_of_span cut
          refine ⟨by simp [inBrackets], fun closed => ?_⟩
          rcases List.mem_append.mp closed with inScheme | inAddress
          · rcases List.mem_cons.mp inScheme with rfl | inScheme
            · exact absurd valid.1 (by decide)
            · exact absurd (isScheme _ inScheme) (by decide)
          · rcases List.mem_cons.mp inAddress with equal | inAddress
            · exact absurd equal (by decide)
            · exact absurd (inside _ inAddress) (by decide)
        · cases found
      · cases found
    · cases found
  · cases found

theorem mailAutolink_eq_some {before : Option Char} {text value after : Text}
    (found : mailAutolink before text = some (value, after)) :
    text = inBrackets value ++ after ∧ '>' ∉ value := by
  unfold mailAutolink at found
  split at found
  · rename_i inside
    split at found
    · rename_i name behind cutName
      split at found
      · rename_i domain rest cutDomain
        split at found
        · obtain ⟨rfl, rfl⟩ := Prod.mk.inj (Option.some.inj found)
          obtain ⟨rfl, isName⟩ := parts_of_span cutName
          obtain ⟨rfl, isDomain⟩ := parts_of_span cutDomain
          refine ⟨by simp [inBrackets], fun closed => ?_⟩
          rcases List.mem_append.mp closed with inName | inDomain
          · exact absurd (isName _ inName) (by decide)
          · rcases List.mem_cons.mp inDomain with equal | inDomain
            · exact absurd equal (by decide)
            · exact absurd (isDomain _ inDomain) (by decide)
        · cases found
      · cases found
    · cases found
  · cases found

theorem bareAddress_eq_some {before : Option Char} {text value after : Text}
    (found : bareAddress before text = some (value, after)) :
    text = value ++ after ∧ ∃ first rest, value = first :: rest ∧ first ≠ ' ' := by
  unfold bareAddress at found
  split at found
  · cases found
  · obtain ⟨start, member, found⟩ := List.exists_of_findSome?_eq_some found
    split at found
    · rename_i rest cut
      dsimp only at found
      split at found
      · cases found
      · obtain ⟨rfl, rfl⟩ := Prod.mk.inj (Option.some.inj found)
        rw [Text.after?, List.isPrefixOf?_eq_some_iff_append_eq] at cut
        obtain rfl := cut
        refine ⟨?_, ?_⟩
        · have isRun := (List.rdropWhile_prefix isAddressTail _).trans
            (List.takeWhile_prefix (fun c => !Unicode.isBlank c && c != '<' && c != '>')
              (l := rest))
          rw [List.append_assoc]
          exact congrArg _ (List.prefix_iff_eq_append.mp isRun).symm
        · simp only [bareStarts, List.mem_cons, List.not_mem_nil, or_false] at member
          rcases member with rfl | rfl | rfl | rfl <;>
            exact ⟨_, _, rfl, by decide⟩
    · cases found

theorem spells_autolink : Pattern.Spells autolink inBrackets :=
  fun _ _ _ _ found => (autolink_eq_some found).1

theorem spells_mailAutolink : Pattern.Spells mailAutolink inBrackets :=
  fun _ _ _ _ found => (mailAutolink_eq_some found).1

theorem isSolid_bareAddress : Pattern.IsSolid bareAddress := by
  intro before text value after found
  obtain ⟨equal, first, rest, rfl, visible⟩ := bareAddress_eq_some found
  exact ⟨first, rest ++ after, equal, visible⟩

/-! ## The length of an inline link -/

theorem length_skipEscaped_le (plain : Char → Bool) (text : Text) :
    (skipEscaped plain text).length ≤ text.length := by
  fun_induction skipEscaped plain text <;> grind

theorem length_skipNested_le (opening closing : Char) (plain : Char → Bool)
    (outer : Option Text) {text : Text} {bound : Nat} (fits : text.length ≤ bound)
    (fitsOuter : ∀ start ∈ outer, start.length ≤ bound) :
    (skipNested opening closing plain outer text).length ≤ bound := by
  have kept (outer : Option Text) (text : Text) (fits : text.length ≤ bound)
      (fitsOuter : ∀ start ∈ outer, start.length ≤ bound) :
      (outer.getD text).length ≤ bound := by
    cases outer with
    | none => exact fits
    | some start => exact fitsOuter start rfl
  fun_induction skipNested opening closing plain outer text <;> grind

theorem length_title?_le {text title after : Text}
    (read : Block.title? text = some (title, after)) : after.length ≤ text.length := by
  have closes {plain : Char → Bool} {first next : Char} {inside after : Text}
      (found : skipEscaped plain inside = next :: after) :
      after.length ≤ (first :: inside).length := by
    have skipped := length_skipEscaped_le plain inside
    rw [found, List.length_cons] at skipped
    rw [List.length_cons]
    omega
  unfold Block.title? at read
  dsimp only at read
  repeat' split at read
  all_goals simp only [Option.some.injEq, Prod.mk.injEq, reduceCtorEq] at read
  all_goals
    rename_i found _
    exact read.2 ▸ closes found

theorem length_linkEnd?_lt {text after : Text} (read : linkEnd? text = some after) :
    after.length < text.length := by
  have blanks (text : Text) : (text.dropWhile isIndent).length ≤ text.length :=
    (List.dropWhile_suffix isIndent).length_le
  have first := blanks text
  unfold linkEnd? at read
  dsimp only at read
  split at read
  · rename_i rest found
    obtain rfl := Option.some.inj read
    rw [found, List.length_cons] at first
    omega
  · split at read
    · split at read
      · rename_i title rest isTitle
        have second := length_title?_le isTitle
        have third := blanks rest
        split at read
        · rename_i behind found
          obtain rfl := Option.some.inj read
          rw [found, List.length_cons] at third
          omega
        · cases read
      · cases read
    · cases read

theorem length_destination?_le {text target after : Text}
    (read : destination? text = some (target, after)) :
    after.length ≤ text.length := by
  have start : (text.dropWhile isIndent).length ≤ text.length :=
    (List.dropWhile_suffix isIndent).length_le
  unfold destination? at read
  simp only [Option.orElse_eq_or, Option.or_eq_some_iff] at read
  rcases read with angled | ⟨-, bare | ⟨-, missing⟩⟩
  · split at angled
    · rename_i inside opens
      split at angled
      · rename_i address rest cut
        obtain ⟨parts, -⟩ := parts_of_span cut
        obtain ⟨end_, ends, same⟩ := Option.map_eq_some_iff.mp angled
        obtain ⟨-, rfl⟩ := Prod.mk.inj same
        have shorter := length_linkEnd?_lt ends
        rw [opens, parts] at start
        simp only [List.length_cons, List.length_append] at start
        omega
      · cases angled
    · cases angled
  · obtain ⟨end_, ends, same⟩ := Option.map_eq_some_iff.mp bare
    obtain ⟨-, rfl⟩ := Prod.mk.inj same
    have shorter := length_linkEnd?_lt ends
    have skipped := length_skipNested_le '(' ')' (fun c => !Unicode.isBlank c)
      none start (by simp)
    omega
  · split at missing
    · rename_i blanks
      obtain ⟨end_, ends, same⟩ := Option.map_eq_some_iff.mp missing
      obtain ⟨-, rfl⟩ := Prod.mk.inj same
      have shorter := length_linkEnd?_lt ends
      rw [List.length_cons] at shorter
      omega
    · cases missing

theorem length_of_linkText?_eq {text label after : Text}
    (read : linkText? text = some (label, after)) :
    label.length + 2 + after.length = text.length := by
  unfold linkText? at read
  split at read
  · rename_i inside
    dsimp only at read
    split at read
    · rename_i rest closes
      obtain ⟨rfl, rfl⟩ := Prod.mk.inj (Option.some.inj read)
      have skipped := length_skipNested_le '[' ']' (· != '\n') none
        (Nat.le_refl inside.length) (by simp)
      rw [closes, List.length_cons] at skipped
      simp only [closes, List.length_take, List.length_cons]
      omega
    · cases read
  · cases read

theorem textOffset_add_length_lt_of_withImageMark
    {read : Text → Option (Text × Text × Text)}
    (fits : ∀ link label target rest, read link = some (label, target, rest) →
      label.length + 2 + rest.length ≤ link.length)
    {text after : Text} {written : Written}
    (found : withImageMark read text = some (written, after)) :
    written.textOffset + written.text.length + after.length < text.length := by
  unfold withImageMark at found
  split at found
  all_goals
    obtain ⟨⟨label, target, rest⟩, isLink, same⟩ := Option.map_eq_some_iff.mp found
    cases same
    have bound := fits _ _ _ _ isLink
  · simp only [Written.textOffset, if_true, List.length_cons]
    omega
  · simp only [Written.textOffset, Bool.false_eq_true, if_false]
    omega

/-- The text of an inline link ends before the link does. -/
theorem textOffset_add_length_lt {before : Option Char} {text after : Text}
    {written : Written} (found : inlineLink before text = some (written, after)) :
    written.textOffset + written.text.length + after.length < text.length := by
  unfold inlineLink at found
  split at found
  · cases found
  refine textOffset_add_length_lt_of_withImageMark
    (fun link label target rest read => ?_) found
  obtain ⟨⟨label, inside⟩, isText, read⟩ := Option.bind_eq_some_iff.mp read
  have lengths := length_of_linkText?_eq isText
  dsimp only at read
  split at read
  · obtain ⟨⟨target, end_⟩, leads, same⟩ := Option.bind_eq_some_iff.mp read
    cases same
    have shorter := length_destination?_le leads
    rw [List.length_cons] at lengths
    dsimp only at lengths ⊢
    omega
  · cases read

end Inline

end AnchorLint
