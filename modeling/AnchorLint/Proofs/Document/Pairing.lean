import AnchorLint.Document.Inline
import Mathlib.Data.List.Forall2
import Mathlib.Data.Nat.Find
import Mathlib.Order.Bounds.Basic

/-!
# Runs paired from left to right

The plain way to pair delimiter runs goes from left to right.  It looks behind every
run that may open something for the nearest run of the same size that may close it,
and it goes on behind the closer.  Pairing does not look for closers: it takes them
from a table that a walk from the right has filled with the nearest closer of every
size.  This file shows that the table always holds the closer that the plain way
would find, so both choose the same pairs.  Code spans are found with a table of their
own, and they are the pairs of the backtick runs, where all of them open and close.
-/

namespace AnchorLint

namespace Run

/-- Whether one of the runs with given sizes can close what another one opens: it
comes later, has the same size and may close. -/
def CanClose (sizes : List Nat) (closes : Nat → Bool) (opener closer : Nat) : Prop :=
  opener < closer ∧ closes closer = true ∧
    ∃ size, sizes[opener]? = some size ∧ sizes[closer]? = some size

/-- The pairs of the plain scan from an index on. -/
inductive Scans (sizes : List Nat) (opens closes : Nat → Bool) :
    (index : Nat) → List (Nat × Nat) → Prop where
  | ended {index : Nat} (behind : sizes.length ≤ index) :
      Scans sizes opens closes index []
  | paired {opener closer : Nat} {pairs : List (Nat × Nat)}
      (opening : opens opener = true)
      (nearest : IsLeast {closer | CanClose sizes closes opener closer} closer)
      (later : Scans sizes opens closes (closer + 1) pairs) :
      Scans sizes opens closes opener ((opener, closer) :: pairs)
  | passed {index : Nat} {pairs : List (Nat × Nat)} (inside : index < sizes.length)
      (alone : ¬ (opens index = true ∧ ∃ closer, CanClose sizes closes index closer))
      (later : Scans sizes opens closes (index + 1) pairs) :
      Scans sizes opens closes index pairs

namespace Scans

variable {sizes : List Nat} {opens closes : Nat → Bool}

theorem unique {index : Nat} {pairs others : List (Nat × Nat)}
    (scans : Scans sizes opens closes index pairs)
    (again : Scans sizes opens closes index others) : pairs = others := by
  induction scans generalizing others with
  | ended behind =>
      cases again with
      | ended => rfl
      | paired opening nearest later =>
          obtain ⟨-, -, size, found, -⟩ := nearest.1
          have inside := (List.getElem?_eq_some_iff.mp found).1
          omega
      | passed inside alone later => omega
  | paired opening nearest later ih =>
      cases again with
      | ended behind =>
          obtain ⟨-, -, size, found, -⟩ := nearest.1
          have inside := (List.getElem?_eq_some_iff.mp found).1
          omega
      | paired _ nearestAgain laterAgain =>
          obtain rfl := nearest.unique nearestAgain
          rw [ih laterAgain]
      | passed _ alone _ => exact absurd ⟨opening, _, nearest.1⟩ alone
  | passed inside alone later ih =>
      cases again with
      | ended behind => omega
      | paired opening nearest _ => exact absurd ⟨opening, _, nearest.1⟩ alone
      | passed _ _ laterAgain => exact ih laterAgain

/-- What a scan asks about indexes behind the last run does not matter. -/
theorem congr {others elsewhere : Nat → Bool} {index : Nat}
    {pairs : List (Nat × Nat)} (scans : Scans sizes opens closes index pairs)
    (sameOpens : ∀ index < sizes.length, opens index = others index)
    (sameCloses : ∀ index < sizes.length, closes index = elsewhere index) :
    Scans sizes others elsewhere index pairs := by
  have same (opener closer : Nat) : CanClose sizes closes opener closer ↔
      CanClose sizes elsewhere opener closer := by
    refine and_congr_right fun _ => and_congr_left fun ⟨size, _, found⟩ => ?_
    rw [sameCloses closer (List.getElem?_eq_some_iff.mp found).1]
  induction scans with
  | ended behind => exact .ended behind
  | paired opening nearest later ih =>
      obtain ⟨-, -, size, found, -⟩ := nearest.1
      have inside := (List.getElem?_eq_some_iff.mp found).1
      refine .paired (sameOpens _ inside ▸ opening) ?_ ih
      simpa only [same] using nearest
  | passed inside alone later ih =>
      refine .passed inside ?_ ih
      simpa only [same, sameOpens _ inside] using alone

end Scans

/-! ## The table of closers -/

theorem drop_eq_cons {sizes later : List Nat} {index here : Nat}
    (parts : sizes.drop index = here :: later) :
    sizes[index]? = some here ∧ sizes.drop (index + 1) = later := by
  constructor
  · rw [← List.head?_drop, parts]
    rfl
  · rw [← List.tail_drop, parts]
    rfl

section

variable {opens closes : Nat → Bool} {sizes : List Nat}

/-- The table from an index on holds the nearest closer of every size that is found
there. -/
theorem lookup_linkFrom {index : Nat} {later : List Nat}
    (parts : sizes.drop index = later) (size closer : Nat) :
    (linkFrom closes index later).2.lookup size = some closer ↔
      IsLeast {closer | index ≤ closer ∧ closes closer = true ∧
        sizes[closer]? = some size} closer := by
  induction later generalizing index with
  | nil =>
      have short := List.drop_eq_nil_iff.mp parts
      simp only [linkFrom, List.lookup_nil, reduceCtorEq, false_iff]
      rintro ⟨⟨behind, -, found⟩, -⟩
      have inside := (List.getElem?_eq_some_iff.mp found).1
      omega
  | cons here later ih =>
      obtain ⟨foundHere, partsLater⟩ := drop_eq_cons parts
      have table := ih partsLater
      simp only [linkFrom]
      by_cases closing : closes index = true ∧ here = size
      · obtain ⟨closing, rfl⟩ := closing
        rw [if_pos closing, List.lookup_cons_self, Option.some.injEq]
        have least : IsLeast {closer | index ≤ closer ∧ closes closer = true ∧
            sizes[closer]? = some here} index :=
          ⟨⟨Nat.le_refl _, closing, foundHere⟩, fun other later => later.1⟩
        exact ⟨fun same => same ▸ least, fun other => least.unique other⟩
      · have unchanged : (if closes index = true then
              (here, index) :: (linkFrom closes (index + 1) later).2
            else (linkFrom closes (index + 1) later).2).lookup size =
            (linkFrom closes (index + 1) later).2.lookup size := by
          split
          · rename_i mayClose
            have different : (size == here) = false :=
              beq_eq_false_iff_ne.mpr fun same => closing ⟨mayClose, same.symm⟩
            rw [List.lookup_cons, different]
          · rfl
        rw [unchanged, table]
        -- This run is no closer of the size, so the next one is the same from here.
        refine iff_of_eq (congrArg (IsLeast · closer) (Set.ext fun other => ?_))
        constructor
        · exact fun ⟨behind, rest⟩ => ⟨Nat.le_of_succ_le behind, rest⟩
        · rintro ⟨behind, mayClose, found⟩
          refine ⟨Nat.lt_of_le_of_ne behind ?_, mayClose, found⟩
          rintro rfl
          exact closing
            ⟨mayClose, Option.some.inj (foundHere.symm.trans found)⟩

theorem drop_linkFrom (index count : Nat) (later : List Nat) :
    (linkFrom closes index later).1.drop count =
      (linkFrom closes (index + count) (later.drop count)).1 := by
  induction count generalizing index later with
  | zero => rfl
  | succ count ih =>
      cases later with
      | nil => rfl
      | cons here later =>
          have later_ : index + (count + 1) = index + 1 + count := by omega
          rw [List.drop_succ_cons, later_]
          exact ih (index + 1) later

/-- The entry of a run is the nearest one that can close what it opens. -/
theorem lookup_eq_some_iff {index size : Nat} {later : List Nat}
    (parts : sizes.drop index = size :: later) (closer : Nat) :
    (linkFrom closes (index + 1) later).2.lookup size = some closer ↔
      IsLeast {closer | CanClose sizes closes index closer} closer := by
  obtain ⟨here, partsLater⟩ := drop_eq_cons parts
  rw [lookup_linkFrom partsLater]
  refine iff_of_eq (congrArg (IsLeast · closer) (Set.ext fun other => ?_))
  refine and_congr Nat.succ_le_iff (and_congr_right fun _ => ?_)
  simp [here]

/-! ## The choice from the table -/

theorem chooseFrom_of_le {resume index : Nat} (reached : resume ≤ index)
    (links : List (Option Nat)) :
    chooseFrom opens resume index links = chooseFrom opens index index links := by
  induction links generalizing resume index with
  | nil => rfl
  | cons link links ih =>
      have later : chooseFrom opens resume (index + 1) links =
          chooseFrom opens index (index + 1) links := by
        rw [ih (Nat.le_succ_of_le reached), ih (Nat.le_succ index)]
      unfold chooseFrom
      rw [if_neg (Nat.not_lt_of_le reached), if_neg (Nat.lt_irrefl index), later]

/-- Runs inside the pair chosen last are passed over. -/
theorem chooseFrom_of_ge {resume index : Nat} (early : index ≤ resume)
    (links : List (Option Nat)) :
    chooseFrom opens resume index links =
      chooseFrom opens resume resume (links.drop (resume - index)) := by
  induction links generalizing index with
  | nil => simp [chooseFrom]
  | cons link links ih =>
      rcases Nat.eq_or_lt_of_le early with rfl | before
      · rw [Nat.sub_self, List.drop_zero]
      · have count : resume - index = resume - (index + 1) + 1 := by omega
        rw [chooseFrom.eq_def]
        dsimp only
        rw [if_pos before, ih before, count, List.drop_succ_cons]

/-- The choice from the table that begins at an index is that of the plain scan. -/
theorem scans_chooseFrom (index : Nat) :
    Scans sizes opens closes index
      (chooseFrom opens index index
        (linkFrom closes index (sizes.drop index)).1) := by
  obtain ⟨count, rest⟩ : ∃ count, sizes.length - index = count := ⟨_, rfl⟩
  induction count using Nat.strong_induction_on generalizing index with
  | _ count ih =>
      cases parts : sizes.drop index with
      | nil => exact .ended (List.drop_eq_nil_iff.mp parts)
      | cons size later =>
          obtain ⟨here, partsLater⟩ := drop_eq_cons parts
          have inside := (List.getElem?_eq_some_iff.mp here).1
          have entry := @lookup_eq_some_iff closes sizes index size later parts
          -- Wherever the scan goes on, the table from there on is a part of this one.
          have goesOn {next : Nat} (behind : index < next) :
              Scans sizes opens closes next
                (chooseFrom opens next (index + 1)
                  (linkFrom closes (index + 1) later).1) := by
            have further := ih (sizes.length - next) (by omega) next rfl
            rw [chooseFrom_of_ge behind, drop_linkFrom, ← partsLater,
              List.drop_drop]
            rwa [Nat.add_sub_cancel' behind]
          have passes (alone : ¬ (opens index = true ∧
                ∃ closer, CanClose sizes closes index closer)) :
              Scans sizes opens closes index
                (chooseFrom opens index (index + 1)
                  (linkFrom closes (index + 1) later).1) := by
            rw [chooseFrom_of_le (Nat.le_succ index)]
            exact .passed inside alone (goesOn (Nat.lt_succ_self index))
          rw [linkFrom, chooseFrom.eq_def]
          dsimp only
          rw [if_neg (Nat.lt_irrefl index)]
          cases found : (linkFrom closes (index + 1) later).2.lookup size with
          | none =>
              refine passes fun ⟨_, some_⟩ => ?_
              classical
              have least := (entry _).mpr ⟨Nat.find_spec some_,
                fun other can => Nat.find_min' some_ can⟩
              rw [found] at least
              cases least
          | some closer =>
              have nearest := (entry closer).mp found
              cases opening : opens index with
              | false => exact passes (by simp [opening])
              | true =>
                  exact .paired opening nearest
                    (goesOn (Nat.lt_succ_of_lt nearest.1.1))

/-- The pairs that are chosen are those of the plain scan. -/
theorem scans_iff (sizes : List Nat) (opens closes : Nat → Bool)
    (pairs : List (Nat × Nat)) :
    Scans sizes opens closes 0 pairs ↔ pairs = pair sizes opens closes := by
  have scans : Scans sizes opens closes 0 (pair sizes opens closes) :=
    scans_chooseFrom 0
  exact ⟨fun other => other.unique scans, fun same => same ▸ scans⟩

end

/-- Whether two runs are those at two indexes. -/
def At (runs : List Run) (indexes : Nat × Nat) (pair : Run × Run) : Prop :=
  runs[indexes.1]? = some pair.1 ∧ runs[indexes.2]? = some pair.2

theorem Scans.forall₂_at {runs : List Run} {opens closes : Nat → Bool} {index : Nat}
    {found : List (Nat × Nat)}
    (scans : Scans (runs.map size) opens closes index found) :
    List.Forall₂ (At runs) found (found.filterMap fun indexes =>
      match runs[indexes.1]?, runs[indexes.2]? with
      | some opener, some closer => some (opener, closer)
      | _, _ => none) := by
  induction scans with
  | ended => exact .nil
  | paired opening nearest later ih =>
      obtain ⟨-, -, size, openerFound, closerFound⟩ := nearest.1
      rw [List.getElem?_map, Option.map_eq_some_iff] at openerFound closerFound
      obtain ⟨first, openerFound, -⟩ := openerFound
      obtain ⟨second, closerFound, -⟩ := closerFound
      simp only [List.filterMap_cons, openerFound, closerFound]
      exact .cons ⟨openerFound, closerFound⟩ ih
  | passed _ _ _ ih => exact ih

/-- The paired runs are those at the chosen indexes, all of them and in order. -/
theorem forall₂_pairs (runs : List Run) (opens closes : Run → Bool) :
    List.Forall₂ (At runs)
      (pair (runs.map size) (fun index => runs[index]?.any opens)
        fun index => runs[index]?.any closes)
      (pairs runs opens closes) :=
  ((scans_iff _ _ _ _).mpr rfl).forall₂_at

/-- Where all runs open and close, they do so at all indexes. -/
theorem pair_all (runs : List Run) :
    pair (runs.map size) (fun index => runs[index]?.any fun _ => true)
        (fun index => runs[index]?.any fun _ => true) =
      pair (runs.map size) (fun _ => true) fun _ => true := by
  refine (scans_iff _ _ _ _).mp (((scans_iff _ _ _ _).mpr rfl).congr ?_ ?_)
  all_goals
    intro index inside
    rw [List.length_map] at inside
    simp [inside]

end Run

namespace Inline

open Run

/-! ## Code spans found by a search -/

/-- The code spans among backtick runs, where the partner of a run is searched for
among those behind it. -/
def pairSpans : List Run → List Span
  | [] => []
  | run :: rest =>
    match _found : rest.dropWhile fun other => other.size != run.size with
    | [] => pairSpans rest
    | closer :: after => ⟨run.start, closer.stop⟩ :: pairSpans after
termination_by runs => runs.length
decreasing_by
  · simp
  · have bound := (List.dropWhile_sublist
      (fun other : Run => other.size != run.size) (l := rest)).length_le
    rw [_found] at bound
    simp at bound ⊢
    omega

section

variable {run : Run} {rest : List Run}

theorem pairSpans_of_eq_nil
    (alone : (rest.dropWhile fun other => other.size != run.size) = []) :
    pairSpans (run :: rest) = pairSpans rest := by
  rw [pairSpans]
  split
  · rfl
  · rename_i found
    rw [alone] at found
    cases found

theorem pairSpans_of_eq_cons {closer : Run} {after : List Run}
    (found : (rest.dropWhile fun other => other.size != run.size) =
      closer :: after) :
    pairSpans (run :: rest) = ⟨run.start, closer.stop⟩ :: pairSpans after := by
  rw [pairSpans]
  split
  · rename_i alone
    rw [found] at alone
    cases alone
  · rename_i foundAgain
    rw [found] at foundAgain
    cases foundAgain
    rfl

end

/-- What a code span takes up: its delimiters and what is between them. -/
def spanOf (pair : Run × Run) : Span :=
  ⟨pair.1.start, pair.2.stop⟩

theorem dropWhile_drop {α : Type} {items : List α} {pass : α → Bool}
    {start stop : Nat} (ordered : start ≤ stop)
    (passed : ∀ index item, start ≤ index → index < stop →
      items[index]? = some item → pass item = true)
    (stops : ∀ item, items[stop]? = some item → pass item = false) :
    (items.drop start).dropWhile pass = items.drop stop := by
  induction ordered using Nat.decreasingInduction with
  | self =>
      cases here : items[stop]? with
      | none => simp [List.drop_eq_nil_of_le (List.getElem?_eq_none_iff.mp here)]
      | some item =>
          obtain ⟨inside, rfl⟩ := List.getElem?_eq_some_iff.mp here
          rw [List.drop_eq_getElem_cons inside,
            List.dropWhile_cons_of_neg (by simp [stops _ here])]
  | of_succ start before ih =>
      have later := ih fun index item behind => passed index item (by omega)
      cases here : items[start]? with
      | none =>
          have short := List.getElem?_eq_none_iff.mp here
          simp [List.drop_eq_nil_of_le, short, Nat.le_trans short (Nat.le_of_lt before)]
      | some item =>
          have passes := passed start item (Nat.le_refl _) before here
          obtain ⟨inside, rfl⟩ := List.getElem?_eq_some_iff.mp here
          rw [List.drop_eq_getElem_cons inside, List.dropWhile_cons_of_pos passes]
          exact later

/-- The search for code spans is the plain scan where all runs open and close. -/
theorem forall₂_pairSpans {runs : List Run} {index : Nat}
    {found : List (Nat × Nat)}
    (scans : Scans (runs.map size) (fun _ => true) (fun _ => true) index found) :
    List.Forall₂ (fun indexes span => ∃ pair, At runs indexes pair ∧
        span = spanOf pair) found (pairSpans (runs.drop index)) := by
  induction scans with
  | ended behind =>
      rw [List.length_map] at behind
      rw [List.drop_eq_nil_of_le behind, pairSpans]
      exact .nil
  | @paired opener closer pairs opening nearest later ih =>
      obtain ⟨⟨before, -, size, openerFound, closerFound⟩, least⟩ := nearest
      rw [List.getElem?_map, Option.map_eq_some_iff] at openerFound closerFound
      obtain ⟨first, openerFound, firstSize⟩ := openerFound
      obtain ⟨second, closerFound, secondSize⟩ := closerFound
      have reached : ((runs.drop (opener + 1)).dropWhile fun other =>
          other.size != first.size) = runs.drop closer := by
        refine dropWhile_drop before ?_ ?_
        · intro index other behind early here
          rw [bne_iff_ne]
          intro same
          refine Nat.not_lt_of_le (least ⟨behind, rfl, first.size, ?_, ?_⟩) early
          · simp [openerFound]
          · simp [here, same]
        · intro other here
          obtain rfl := Option.some.inj (closerFound.symm.trans here)
          simp [firstSize, secondSize]
      obtain ⟨inside, rfl⟩ := List.getElem?_eq_some_iff.mp openerFound
      obtain ⟨insideToo, rfl⟩ := List.getElem?_eq_some_iff.mp closerFound
      rw [List.drop_eq_getElem_cons insideToo] at reached
      rw [List.drop_eq_getElem_cons inside, pairSpans_of_eq_cons reached]
      exact .cons ⟨(_, _), ⟨openerFound, closerFound⟩, rfl⟩ ih
  | @passed index pairs inside alone later ih =>
      rw [List.length_map] at inside
      have none_ : ((runs.drop (index + 1)).dropWhile fun other =>
          other.size != runs[index].size) = [] := by
        rw [@dropWhile_drop _ runs _ _ runs.length inside, List.drop_length]
        · intro later other behind _ here
          rw [bne_iff_ne]
          intro same
          refine alone ⟨rfl, later, behind, rfl, runs[index].size, ?_, ?_⟩
          · simp [inside]
          · simp [here, same]
        · simp
      rw [List.drop_eq_getElem_cons inside, pairSpans_of_eq_nil none_]
      exact ih

theorem eq_map_spanOf {runs : List Run} {found : List (Nat × Nat)}
    {pairs : List (Run × Run)} {spans : List Span}
    (paired : List.Forall₂ (At runs) found pairs)
    (spanned : List.Forall₂ (fun indexes span => ∃ pair, At runs indexes pair ∧
      span = spanOf pair) found spans) :
    spans = pairs.map spanOf := by
  induction paired generalizing spans with
  | nil =>
      cases spanned
      rfl
  | @cons indexes pair found pairs here _ ih =>
      cases spanned with
      | cons spanned later =>
          obtain ⟨other, same, rfl⟩ := spanned
          obtain rfl : other = pair := Prod.ext
            (Option.some.inj (same.1.symm.trans here.1))
            (Option.some.inj (same.2.symm.trans here.2))
          rw [ih later, List.map_cons]

theorem pairSpans_eq (runs : List Run) :
    pairSpans runs = (pairs runs (fun _ => true) fun _ => true).map spanOf := by
  have spans := forall₂_pairSpans (@scans_iff (runs.map size) _ _ _ |>.mpr rfl)
  rw [List.drop_zero] at spans
  refine eq_map_spanOf ?_ spans
  rw [← pair_all]
  exact forall₂_pairs runs _ _

/-! ## Code spans found with a table -/

theorem linkRuns_eq (index : Nat) (runs : List Run) :
    linkRuns index runs = linkFrom (fun _ => true) index (runs.map size) := by
  induction runs generalizing index with
  | nil => rfl
  | cons run runs ih =>
      rw [linkRuns, ih, List.map_cons, linkFrom]
      rfl

theorem chooseSpans_eq (runs : List Run) (resume index : Nat)
    (links : List (Option Nat)) :
    chooseSpans runs resume index links =
      (chooseFrom (fun _ => true) resume index links).filterMap fun indexes =>
        delimited? runs indexes.1 indexes.2 := by
  induction links generalizing resume index with
  | nil => rfl
  | cons link links ih =>
      unfold chooseSpans chooseFrom
      split
      · exact ih _ _
      · cases link with
        | none => exact ih _ _
        | some closer =>
            dsimp only
            rw [if_pos rfl, List.filterMap_cons, ih]
            cases delimited? runs index closer <;> rfl

theorem filterMap_delimited? {runs : List Run} {found : List (Nat × Nat)}
    {pairs : List (Run × Run)} (paired : List.Forall₂ (At runs) found pairs) :
    (found.filterMap fun indexes => delimited? runs indexes.1 indexes.2) =
      pairs.map spanOf := by
  induction paired with
  | nil => rfl
  | cons here _ ih =>
      rw [List.filterMap_cons, ih, delimited?, here.1, here.2]
      rfl

/-- The code spans of a text are the pairs of its backtick runs. -/
theorem codeSpans_eq (text : Text) :
    codeSpans text =
      (pairs (collect Markup.backtick text) (fun _ => true) fun _ => true).map
        spanOf := by
  have whole (runs : List Run) : chooseSpans runs 0 0 (linkRuns 0 runs).1 =
      (pairs runs (fun _ => true) fun _ => true).map spanOf := by
    rw [chooseSpans_eq, linkRuns_eq, ← filterMap_delimited? (forall₂_pairs runs _ _),
      pair_all]
    rfl
  unfold codeSpans
  generalize collect Markup.backtick text = runs
  dsimp only
  rw [← whole]
  split
  · rename_i few
    -- A run without another one behind it has no partner.
    match runs with
    | [] => rfl
    | [run] => rfl
    | _ :: _ :: runs =>
        rw [List.length_cons, List.length_cons] at few
        omega
  · rfl

theorem codeSpans_eq_pairSpans (text : Text) :
    codeSpans text = pairSpans (collect Markup.backtick text) :=
  (codeSpans_eq text).trans (pairSpans_eq _).symm

/-- Runs are paired as by the plain scan, whatever opens and closes, and the paired
runs are those at the chosen indexes.  The code spans of a text are the pairs of its
backtick runs, where all of them open and close; so the anchor of a heading is made
from a text with the same code spans that are masked in a line. -/
theorem pairs_are_scanned :
    (∀ (runs : List Run) (opens closes : Nat → Bool) (found : List (Nat × Nat)),
      Scans (runs.map size) opens closes 0 found ↔
        found = pair (runs.map size) opens closes) ∧
    (∀ (runs : List Run) (opens closes : Run → Bool),
      List.Forall₂ (At runs)
        (pair (runs.map size) (fun index => runs[index]?.any opens)
          fun index => runs[index]?.any closes)
        (pairs runs opens closes)) ∧
    ∀ text, let runs := collect Markup.backtick text
      List.Forall₂ (fun indexes span => ∃ pair, At runs indexes pair ∧
          span = spanOf pair)
        (pair (runs.map size) (fun _ => true) fun _ => true) (codeSpans text) ∧
      codeSpans text =
        (pairs runs (fun _ => true) fun _ => true).map spanOf := by
  refine ⟨fun runs opens closes => scans_iff _ opens closes, forall₂_pairs,
    fun text => ?_⟩
  intro runs
  have spans := forall₂_pairSpans (@scans_iff (runs.map size) _ _ _ |>.mpr rfl)
  rw [List.drop_zero, ← codeSpans_eq_pairSpans] at spans
  exact ⟨spans, codeSpans_eq text⟩

/-- The second run has no partner that is not inside the pair of the first one. -/
example : pair [1, 2, 1, 2, 2] (fun _ => true) (fun _ => true) =
    [(0, 2), (3, 4)] := by
  decide

end Inline

end AnchorLint
