import AnchorLint.Proofs.Document.Harvest
import AnchorLint.Proofs.Link.Path

/-!
# The paths of links

A link that leaves its page has a path to follow, and this path is not empty:
an absolute path holds at least a separator, and the path to another file holds
the dot of a file name.  Every link of an indexed document was made from a target
in this way, so the same holds for all of them.
-/

namespace AnchorLint

namespace Target

/-- A target leads to an address or stays on its page, or the verdict on it comes
with a path. -/
theorem classify_cases (target : Text) :
    (classify target).kind = .external ∨
      (classify target).kind = .ambiguousLocal ∨
      ∃ path, (classify target).path = some path ∧ path ≠ [] := by
  unfold classify
  dsimp only
  split
  · exact Or.inl rfl
  split
  · exact Or.inl rfl
  split
  · exact Or.inr (Or.inl rfl)
  split
  · rename_i absolute
    refine Or.inr (Or.inr ⟨_, rfl, fun empty => ?_⟩)
    rw [empty] at absolute
    simp [isAbsolute, hasDrive, Text.startsWith] at absolute
  split
  · exact Or.inr (Or.inl rfl)
  · rename_i dotted
    have named : (Text.trim target).takeWhile (· != '?') ≠ [] := by
      intro empty
      rw [empty] at dotted
      exact dotted rfl
    split
    · exact Or.inr (Or.inr ⟨_, rfl, named⟩)
    split
    · exact Or.inr (Or.inl rfl)
    · exact Or.inr (Or.inr ⟨_, rfl, named⟩)

end Target

namespace Link

/-- A link that leaves its page has a path to follow. -/
def HasPath (link : Link) : Prop :=
  link.leavesPage = true → ∃ path, link.path = some path ∧ path ≠ []

end Link

namespace Inline

theorem hasPath_of_makeLink? {target : Text} {line column : Nat} {span : Span}
    {text : Text} {style : LinkStyle} {reference : Option Text}
    {isImage : Bool} {link : Link}
    (made : makeLink? target line column span text style reference isImage =
      some link) : link.HasPath := by
  unfold makeLink? at made
  split at made
  · simp at made
  · dsimp only at made
    obtain rfl := Option.some.inj made
    intro leaves
    rcases Target.classify_cases (Target.splitFragment target).1 with
      external | stays | path
    · simp [Link.leavesPage, external] at leaves
    · simp [Link.leavesPage, stays] at leaves
    · exact path

theorem hasPath_of_mem_elements (place : Place) (masked : Text) :
    ∀ link ∈ (place.elements masked).links, link.HasPath := by
  intro link member
  simp only [Place.elements, List.mem_append, List.mem_flatMap,
    List.mem_filterMap, Place.inlineLinks, Option.mem_toList] at member
  rcases member with ((⟨found, -, made | ⟨inner, -, made⟩⟩ | ⟨found, -, made⟩) |
    ⟨found, -, made⟩) | ⟨found, -, made⟩
  all_goals exact hasPath_of_makeLink? made

end Inline

namespace Scan

variable {holds : Link → Prop}

/-- What holds for the links of every line is kept. -/
theorem keeps_forall_links
    (made : ∀ (place : Inline.Place) (masked : Text),
      ∀ link ∈ (place.elements masked).links, holds link) :
    Keeps fun harvest => ∀ link ∈ harvest.links, holds link where
  addLine _ _ _ _ old := old
  addCodeBlock _ _ old := old
  addHeading _ _ old := old
  nameHeading harvest custom old := by
    unfold Harvest.nameHeading
    repeat' split
    all_goals exact old
  addDefinition _ _ _ old := old
  addFootnote _ _ old := old
  addElements harvest place masked old := by
    intro link member
    rcases List.mem_append.mp member with inNew | inOld
    · exact made place masked link (List.mem_reverse.mp inNew)
    · exact old link inOld
  addComment harvest comment old := by
    unfold Harvest.addComment
    split <;> exact old

end Scan

namespace Document

theorem mem_allLinks {links : List Link}
    {pending : List Inline.PendingReference}
    {definitions : Entries Text ReferenceDefinition} {link : Link}
    (member : link ∈ allLinks links pending definitions) :
    link ∈ links ∨ ∃ reference ∈ pending,
      resolveReference? definitions reference = some link := by
  unfold allLinks at member
  split at member
  · exact Or.inl member
  · rw [List.mem_mergeSort] at member
    rcases List.mem_append.mp member with inOwn | inResolved
    · exact Or.inl inOwn
    · exact Or.inr (List.mem_filterMap.mp inResolved)

theorem forall_allLinks {holds : Link → Prop} {links : List Link}
    (own : ∀ link ∈ links, holds link) {pending : List Inline.PendingReference}
    {definitions : Entries Text ReferenceDefinition}
    (resolved : ∀ reference link,
      resolveReference? definitions reference = some link → holds link) :
    ∀ link ∈ allLinks links pending definitions, holds link := by
  intro link member
  rcases mem_allLinks member with inOwn | ⟨reference, -, made⟩
  · exact own link inOwn
  · exact resolved reference link made

theorem hasPath_of_resolveReference?
    {definitions : Entries Text ReferenceDefinition}
    {reference : Inline.PendingReference} {link : Link}
    (made : resolveReference? definitions reference = some link) :
    link.HasPath := by
  obtain ⟨definition, -, made⟩ := Option.bind_eq_some_iff.mp made
  exact Inline.hasPath_of_makeLink? made

theorem hasPath_of_index {dialect : Dialect} {text : Text} {document : Document}
    (indexed : index dialect text = .ok document) :
    ∀ link ∈ document.links, link.HasPath := by
  rw [(isFrom_of_index indexed).links]
  refine forall_allLinks (fun link member => ?_) fun reference link made =>
    hasPath_of_resolveReference? made
  exact (Scan.keeps_forall_links Inline.hasPath_of_mem_elements).run
    (by simp) _ _ _ link (List.mem_reverse.mp member)

end Document

end AnchorLint
