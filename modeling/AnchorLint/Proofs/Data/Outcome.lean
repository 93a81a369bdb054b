import AnchorLint.Log
import Mathlib.Data.List.Forall2

/-!
# Computations that may fail

A sequence of computations succeeds exactly if each of them does.  These lemmas
take such a sequence apart.
-/

namespace AnchorLint

namespace Outcome

variable {ε α β : Type}

theorem bind_eq_ok {first : Except ε α} {next : α → Except ε β} {value : β} :
    first >>= next = .ok value ↔
      ∃ middle, first = .ok middle ∧ next middle = .ok value := by
  cases first with
  | error error => simp [bind, Except.bind]
  | ok middle => simp [bind, Except.bind]

theorem bind_eq_error {first : Except ε α} {next : α → Except ε β} {error : ε} :
    first >>= next = .error error ↔
      first = .error error ∨
        ∃ middle, first = .ok middle ∧ next middle = .error error := by
  cases first with
  | error fault => simp [bind, Except.bind]
  | ok middle => simp [bind, Except.bind]

theorem map_eq_ok {first : Except ε α} {change : α → β} {value : β} :
    first.map change = .ok value ↔
      ∃ middle, first = .ok middle ∧ change middle = value := by
  cases first with
  | error error => simp [Except.map]
  | ok middle => simp [Except.map]

theorem mapError_eq_ok {ζ : Type} {outcome : Except ε α} {change : ε → ζ}
    {value : α} :
    outcome.mapError change = .ok value ↔ outcome = .ok value := by
  cases outcome <;> simp [Except.mapError]

theorem mapError_eq_error {ζ : Type} {outcome : Except ε α} {change : ε → ζ}
    {error : ζ} :
    outcome.mapError change = .error error ↔
      ∃ fault, outcome = .error fault ∧ change fault = error := by
  cases outcome <;> simp [Except.mapError]

theorem toOption_eq_some {outcome : Except ε α} {value : α} :
    outcome.toOption = some value ↔ outcome = .ok value := by
  cases outcome <;> simp [Except.toOption]

theorem exists_ok_iff {outcome : Except ε α} :
    (∃ value, outcome = .ok value) ↔ ∀ error, outcome ≠ .error error := by
  cases outcome <;> simp

theorem mapM_eq_ok {compute : α → Except ε β} {items : List α}
    {values : List β} :
    items.mapM compute = .ok values ↔
      List.Forall₂ (fun item value => compute item = .ok value) items
        values := by
  induction items generalizing values with
  | nil =>
      rw [List.forall₂_nil_left_iff]
      exact ⟨fun equal => (Except.ok.inj equal).symm, fun equal => equal ▸ rfl⟩
  | cons item items ih =>
      rw [List.mapM_cons, List.forall₂_cons_left_iff]
      simp only [bind_eq_ok, ih]
      constructor
      · rintro ⟨value, computed, rest, others, equal⟩
        exact ⟨value, rest, computed, others, (Except.ok.inj equal).symm⟩
      · rintro ⟨value, rest, computed, others, rfl⟩
        exact ⟨value, computed, rest, others, rfl⟩

/-- Computing something for every item fails with the failure of the first item for
which it fails. -/
theorem mapM_eq_error {compute : α → Except ε β} {items : List α} {error : ε} :
    items.mapM compute = .error error ↔
      ∃ before item after, items = before ++ item :: after ∧
        (∀ earlier ∈ before, ∃ value, compute earlier = .ok value) ∧
        compute item = .error error := by
  induction items with
  | nil => simp [pure, Except.pure]
  | cons first items ih =>
      rw [List.mapM_cons, bind_eq_error]
      simp only [bind_eq_error, pure, Except.pure, reduceCtorEq, and_false,
        exists_false, or_false]
      constructor
      · rintro (here | ⟨value, computed, later⟩)
        · exact ⟨[], first, items, rfl, by simp, here⟩
        · obtain ⟨before, item, after, rfl, earlier, fails⟩ := ih.mp later
          exact ⟨first :: before, item, after, rfl,
            List.forall_mem_cons.mpr ⟨⟨value, computed⟩, earlier⟩, fails⟩
      · rintro ⟨before, item, after, cut, earlier, fails⟩
        cases before with
        | nil =>
            obtain ⟨rfl, rfl⟩ := List.cons.inj cut
            exact Or.inl fails
        | cons other before =>
            obtain ⟨rfl, rest⟩ := List.cons.inj cut
            obtain ⟨⟨value, computed⟩, earlierRest⟩ :=
              List.forall_mem_cons.mp earlier
            exact Or.inr ⟨value, computed,
              ih.mpr ⟨before, item, after, rest, earlierRest, fails⟩⟩

/-- Computing something for every item fails the same way if the items do. -/
theorem mapM_eq_error_congr {γ : Type} {first : α → Except ε β}
    {second : α → Except ε γ} {items : List α}
    (same : ∀ item ∈ items, ∀ error,
      first item = .error error ↔ second item = .error error) (error : ε) :
    items.mapM first = .error error ↔ items.mapM second = .error error := by
  rw [mapM_eq_error, mapM_eq_error]
  refine exists_congr fun before => exists_congr fun item => exists_congr fun after =>
    and_congr_right ?_
  rintro rfl
  refine and_congr (forall₂_congr fun earlier inBefore => ?_) (same item (by simp) error)
  have alike := same earlier (List.mem_append_left _ inBefore)
  rw [exists_ok_iff, exists_ok_iff]
  exact forall_congr' fun fault => not_congr (alike fault)

theorem exists_of_mapM {compute : α → Except ε β} {items : List α}
    {values : List β} (computed : items.mapM compute = .ok values) :
    ∀ item ∈ items, ∃ value, compute item = .ok value := by
  have each := mapM_eq_ok.mp computed
  clear computed
  induction each with
  | nil => simp
  | cons here _ ih => exact List.forall_mem_cons.mpr ⟨⟨_, here⟩, ih⟩

theorem forM_eq_ok {check : α → Except ε Unit} {items : List α} :
    items.forM check = .ok () ↔ ∀ item ∈ items, check item = .ok () := by
  induction items with
  | nil => simp [List.forM, pure, Except.pure]
  | cons item items ih =>
      rw [List.forM, bind_eq_ok, List.forall_mem_cons, ih]
      exact ⟨fun ⟨_, here, later⟩ => ⟨here, later⟩,
        fun ⟨here, later⟩ => ⟨(), here, later⟩⟩

theorem mem_of_filterM {test : α → Except ε Bool} {items kept : List α}
    (filtered : items.filterM test = .ok kept) :
    ∀ item ∈ kept, item ∈ items := by
  have collected (items : List α) : ∀ before behind : List α,
      items.filterAuxM test before = .ok behind →
      ∀ item ∈ behind, item ∈ before ∨ item ∈ items := by
    induction items with
    | nil =>
        intro before behind finished item member
        exact Or.inl (Except.ok.inj finished ▸ member)
    | cons first items ih =>
        intro before behind finished item member
        obtain ⟨passes, -, later⟩ := bind_eq_ok.mp finished
        rcases ih _ behind later item member with inBefore | inItems
        · cases passes with
          | true =>
              rcases List.mem_cons.mp inBefore with rfl | old
              · exact Or.inr List.mem_cons_self
              · exact Or.inl old
          | false => exact Or.inl inBefore
        · exact Or.inr (List.mem_cons_of_mem _ inItems)
  obtain ⟨reversed, collect, equal⟩ := bind_eq_ok.mp filtered
  obtain rfl := Except.ok.inj equal
  intro item member
  exact (collected items [] reversed collect item
    (List.mem_reverse.mp member)).resolve_left (by simp)

theorem filterM_of_ok {test : α → Except ε Bool} {keep : α → Bool}
    {items : List α} (answers : ∀ item ∈ items, test item = .ok (keep item)) :
    items.filterM test = .ok (items.filter keep) := by
  have collected (before : List α) : items.filterAuxM test before =
      .ok ((items.filter keep).reverse ++ before) := by
    induction items generalizing before with
    | nil => rfl
    | cons item items ih =>
        obtain ⟨here, later⟩ := List.forall_mem_cons.mp answers
        rw [List.filterAuxM, here]
        dsimp only [bind, Except.bind]
        rw [ih later, List.filter_cons]
        cases keep item <;> simp
  rw [List.filterM, collected]
  simp [bind, Except.bind, pure, Except.pure]

theorem exists_of_mem_filterMapM {change : α → Except ε (Option β)}
    {items : List α} {values : List β}
    (changed : items.filterMapM change = .ok values) :
    ∀ value ∈ values, ∃ item ∈ items, change item = .ok (some value) := by
  induction items generalizing values with
  | nil =>
      obtain rfl : [] = values := Except.ok.inj changed
      simp
  | cons item items ih =>
      rw [List.filterMapM_cons, bind_eq_ok] at changed
      obtain ⟨here, computed, later⟩ := changed
      have fromItems {values : List β} (later : items.filterMapM change = .ok values) :
          ∀ value ∈ values, ∃ item' ∈ item :: items, change item' = .ok (some value) :=
        fun value member => (ih later value member).imp
          fun _ => And.imp_left (List.mem_cons_of_mem item)
      cases here with
      | none => exact fromItems later
      | some first =>
          obtain ⟨others, laterComputed, equal⟩ := bind_eq_ok.mp later
          obtain rfl := Except.ok.inj equal
          exact List.forall_mem_cons.mpr
            ⟨⟨item, List.mem_cons_self, computed⟩, fromItems laterComputed⟩

/-- A sequence of computations on a state runs the second one where the first
one has ended, unless that failed. -/
theorem run_bind {σ : Type} (first : ExceptT ε (StateM σ) α)
    (next : α → ExceptT ε (StateM σ) β) (before : σ) :
    (first >>= next).run.run before =
      match first.run.run before with
      | (.ok middle, between) => (next middle).run.run between
      | (.error error, between) => (.error error, between) := by
  rcases result : first.run.run before with ⟨outcome, between⟩
  simp only [ExceptT.run_bind, StateT.run_bind, result]
  cases outcome <;> rfl

end Outcome

namespace Logged

variable {ε α β : Type}

theorem run_bind_eq_ok {first : Logged ε α} {next : α → Logged ε β}
    {before log : List LogEntry} {value : β} :
    (first >>= next).run.run before = (.ok value, log) ↔
      ∃ middle between, first.run.run before = (.ok middle, between) ∧
        (next middle).run.run between = (.ok value, log) := by
  rw [Outcome.run_bind]
  rcases first.run.run before with ⟨outcome, between⟩
  cases outcome with
  | error error =>
      constructor
      · intro equal
        exact absurd (congrArg Prod.fst equal) (by simp)
      · rintro ⟨middle, between, equal, -⟩
        exact absurd (congrArg Prod.fst equal) (by simp)
  | ok middle =>
      constructor
      · exact fun later => ⟨middle, between, rfl, later⟩
      · rintro ⟨other, further, equal, later⟩
        obtain ⟨same, rfl⟩ := Prod.mk.inj equal
        exact Except.ok.inj same ▸ later

/-- What every step of a loop keeps, the whole loop keeps. -/
theorem forall_of_foldlM (Holds : β → Prop) {step : β → α → Logged ε β}
    {items : List α}
    (keeps : ∀ item ∈ items, ∀ state before state' after, Holds state →
      (step state item).run.run before = (.ok state', after) → Holds state')
    {state : β} (holds : Holds state) {before log : List LogEntry}
    {result : β}
    (finished : (items.foldlM step state).run.run before =
      (.ok result, log)) : Holds result := by
  induction items generalizing state before with
  | nil =>
      obtain ⟨same, -⟩ := Prod.mk.inj finished
      exact Except.ok.inj same ▸ holds
  | cons item items ih =>
      rw [List.foldlM_cons] at finished
      obtain ⟨next, between, here, later⟩ := run_bind_eq_ok.mp finished
      have holdsNext := keeps item List.mem_cons_self _ _ _ _ holds here
      exact ih (fun other member => keeps other (List.mem_cons_of_mem _ member))
        holdsNext later

/-- A loop whose steps succeed without remarks is a plain loop. -/
theorem run_foldlM {step : β → α → Logged ε β} (advance : β → α → β)
    {items : List α} {log : List LogEntry}
    (steps : ∀ item ∈ items, ∀ state,
      (step state item).run.run log = (.ok (advance state item), log))
    (state : β) :
    (items.foldlM step state).run.run log =
      (.ok (items.foldl advance state), log) := by
  induction items generalizing state with
  | nil => rfl
  | cons item items ih =>
      obtain ⟨here, later⟩ := List.forall_mem_cons.mp steps
      rw [List.foldlM_cons, Outcome.run_bind, here]
      exact ih later (advance state item)

end Logged

end AnchorLint
