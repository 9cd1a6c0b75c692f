import MindMap.Proofs.Outline.Relocation

/-!
# Keeping ids distinct

The ids of an outline are checked once, when it is accepted as a document, and from then on every
edit sees to it that they stay distinct. An insertion does so by refusing subtrees, under exactly
the conditions stated by `Edit.SucceedsIff`; the other edits never bring in an id that was not there.
-/

namespace MindMap

/-- The id that clashes is the first that is taken or has occurred before. -/
theorem firstClash?_eq_some_iff {taken ids : List String} {id : String} :
    firstClash? taken ids = some id ↔
      ∃ before after, ids = before ++ id :: after ∧ firstClash? taken before = none ∧
        (id ∈ taken ∨ id ∈ before) := by
  induction ids generalizing taken with
  | nil => simp [firstClash?]
  | cons first rest inductionHypothesis =>
    by_cases clash : first ∈ taken
    · constructor
      · intro found
        have same : first = id := by simpa [firstClash?, clash] using found
        subst same
        exact ⟨[], rest, rfl, rfl, .inl clash⟩
      · rintro ⟨before, after, split, free, -⟩
        cases before with
        | nil =>
          cases split
          simp [firstClash?, clash]
        | cons other before =>
          cases split
          simp [firstClash?, clash] at free
    · have skip (others : List String) :
          firstClash? taken (first :: others) = firstClash? (first :: taken) others := by
        simp [firstClash?, clash]
      rw [skip, inductionHypothesis]
      constructor
      · rintro ⟨before, after, rfl, free, occurred⟩
        refine ⟨first :: before, after, rfl, (skip before).trans free, ?_⟩
        grind
      · rintro ⟨before, after, split, free, occurred⟩
        cases before with
        | nil =>
          cases split
          exact absurd occurred (by simp [clash])
        | cons other before =>
          cases split
          refine ⟨before, after, rfl, (skip before).symm.trans free, ?_⟩
          grind

namespace Forest

/-- A document is refused for the first id in pre-order that occurred before. -/
theorem checkDistinct_eq_error_iff {forest : Forest} {error : EditError} :
    forest.checkDistinct = .error error ↔
      ∃ before id after, forest.ids = before ++ id :: after ∧ before.Nodup ∧ id ∈ before ∧
        error = .duplicateId id := by
  have repeated : ∀ id, forest.repeatedId? = some id ↔
      ∃ before after, forest.ids = before ++ id :: after ∧ before.Nodup ∧ id ∈ before := by
    simp [repeatedId?, firstClash?_eq_some_iff, firstClash?_eq_none_iff]
  have refused : forest.checkDistinct = .error error ↔
      ∃ id, forest.repeatedId? = some id ∧ error = .duplicateId id := by
    unfold checkDistinct
    cases forest.repeatedId? <;> simp [eq_comm]
  rw [refused]
  constructor
  · rintro ⟨id, clash, rfl⟩
    obtain ⟨before, after, split, nodup, occurred⟩ := (repeated id).mp clash
    exact ⟨before, id, after, split, nodup, occurred, rfl⟩
  · rintro ⟨before, id, after, split, nodup, occurred, rfl⟩
    exact ⟨id, (repeated id).mpr ⟨before, after, split, nodup, occurred⟩, rfl⟩

end Forest

namespace Edit

variable {α : Type} {forest : Forest} {node : Node} {condition : Prop}

/-- The outline that an edit leaves, be it by success or by failure. -/
def leaves (edit : Edit α) (forest : Forest) : Forest :=
  match edit.run forest with
  | .ok _ after => after
  | .error _ after => after

/-- An edit succeeds exactly on a condition, and changes nothing when it fails. -/
structure SucceedsIff (edit : Edit α) (forest : Forest) (condition : Prop) : Prop where
  succeeds : (∃ value after, edit.run forest = .ok value after) ↔ condition
  unchanged : ∀ error after, edit.run forest = .error error after → after = forest

theorem SucceedsIff.of {edit : Edit α}
    (succeeds : condition → ∃ value after, edit.run forest = .ok value after)
    (refused : ¬condition → ∃ error, edit.run forest = .error error forest) :
    edit.SucceedsIff forest condition := by
  by_cases holds : condition
  · obtain ⟨value, after, run⟩ := succeeds holds
    refine ⟨iff_of_true ⟨value, after, run⟩ holds, fun error left failed => ?_⟩
    rw [run] at failed
    cases failed
  · obtain ⟨error, run⟩ := refused holds
    refine ⟨iff_of_false ?_ holds, fun other left failed => ?_⟩
    · rintro ⟨value, after, done⟩
      rw [run] at done
      cases done
    · rw [run] at failed
      cases failed
      rfl

/-- An insertion needs its target, and a subtree whose ids are all new. -/
theorem insert_succeedsIff (forest : Forest) (node : Node) (target : String)
    (placement : Placement) :
    (insert node target placement).SucceedsIff forest
      (target ∈ forest.ids ∧ node.FreshIn forest) :=
  .of (fun ⟨present, fresh⟩ =>
      have ⟨placed, _, run⟩ := run_insert_of_fresh present fresh placement
      ⟨(), placed, run⟩)
    (run_insert_refused · placement)

/-- A new root needs new ids only. -/
theorem pushRoot_succeedsIff (forest : Forest) (node : Node) :
    (pushRoot node).SucceedsIff forest (node.FreshIn forest) :=
  .of (fun fresh => ⟨(), _, run_pushRoot_of_fresh fresh⟩) run_pushRoot_refused

/-- An edit that ends in one of two ways leaves distinct ids if both do. -/
theorem distinct_leaves {edit : Edit α} (distinct : forest.Distinct)
    (ends : (∃ value after, edit.run forest = .ok value after ∧ after.Distinct) ∨
      ∃ error, edit.run forest = .error error forest) : (edit.leaves forest).Distinct := by
  rcases ends with ⟨value, after, run, afterDistinct⟩ | ⟨error, run⟩
  · rwa [leaves, run]
  · rwa [leaves, run]

end Edit

/-- A change that is asked of an outline. -/
inductive OutlineChange where
  | pushRoot (node : Node)
  | insert (node : Node) (target : String) (placement : Placement)
  | remove (id : String)
  | move (id target : String) (placement : Placement)
  | update (id : String) (update : Update)

namespace Forest

variable {forest : Forest}

/-- The outline after a change was asked for, whether it could be made or not. -/
def change (forest : Forest) : OutlineChange → Forest
  | .pushRoot node => (Edit.pushRoot node).leaves forest
  | .insert node target placement => (Edit.insert node target placement).leaves forest
  | .remove id => (Edit.remove id).leaves forest
  | .move id target placement => (Edit.move id target placement).leaves forest
  | .update id update => (Edit.update id update).leaves forest

/-- The outline after changes were asked for one after another. -/
def changeAll (forest : Forest) (changes : List OutlineChange) : Forest :=
  changes.foldl change forest

theorem Distinct.change (distinct : forest.Distinct) (change : OutlineChange) :
    (forest.change change).Distinct := by
  cases change <;> refine Edit.distinct_leaves distinct ?_
  case pushRoot node =>
    by_cases fresh : node.FreshIn forest
    · have run := Edit.run_pushRoot_of_fresh fresh
      exact .inl ⟨_, _, run, (Edit.gains_of_run_pushRoot run).1.distinct distinct⟩
    · exact .inr (Edit.run_pushRoot_refused fresh)
  case insert node target placement =>
    by_cases accepted : target ∈ forest.ids ∧ node.FreshIn forest
    · obtain ⟨placed, _, run⟩ := Edit.run_insert_of_fresh accepted.1 accepted.2 placement
      exact .inl ⟨_, _, run, (Edit.gains_of_run_insert run).distinct distinct⟩
    · exact .inr (Edit.run_insert_refused accepted placement)
  case remove id =>
    rw [Edit.run_remove]
    cases taken : forest.take? id with
    | none => exact .inr ⟨_, rfl⟩
    | some parts =>
      obtain ⟨-, othersDistinct, -⟩ := (divides_of_take? taken).1.distinct_iff.mp distinct
      exact .inl ⟨_, _, rfl, othersDistinct⟩
  case move id target placement =>
    refine (Edit.run_move distinct id target placement).imp_left ?_
    rintro ⟨node, others, moved, divides, -, movedDivides, run⟩
    exact ⟨_, _, run, movedDivides.distinct_iff.mpr (divides.distinct_iff.mp distinct)⟩
  case update id update =>
    rw [Edit.run_update]
    cases changed : forest.update? id update with
    | none => exact .inr ⟨_, rfl⟩
    | some updated =>
      have sameIds := ids_of_update? changed
      exact .inl ⟨_, _, rfl, by rwa [Distinct, sameIds]⟩

theorem Distinct.changeAll (distinct : forest.Distinct) (changes : List OutlineChange) :
    (forest.changeAll changes).Distinct := by
  induction changes generalizing forest with
  | nil => exact distinct
  | cons change rest inductionHypothesis => exact inductionHypothesis (distinct.change change)

/-- Ids are checked exactly, and kept distinct. A document is accepted if its ids are, and otherwise
refused for the first one in pre-order that occurred before. Subtrees are added exactly if this keeps
the ids distinct and the target is there, and otherwise nothing is changed. So distinct ids stay so,
whatever changes are asked for. -/
theorem ids_are_checked_and_kept_distinct :
    (∀ forest accepted : Forest,
      forest.checkDistinct = .ok accepted ↔ forest.Distinct ∧ accepted = forest) ∧
    (∀ (forest : Forest) (error : EditError), forest.checkDistinct = .error error ↔
      ∃ before id after, forest.ids = before ++ id :: after ∧ before.Nodup ∧ id ∈ before ∧
        error = .duplicateId id) ∧
    (∀ (forest : Forest) (node : Node) (target : String) (placement : Placement),
      (Edit.insert node target placement).SucceedsIff forest
        (target ∈ forest.ids ∧ node.FreshIn forest)) ∧
    (∀ (forest : Forest) (node : Node),
      (Edit.pushRoot node).SucceedsIff forest (node.FreshIn forest)) ∧
    ∀ forest : Forest, forest.Distinct → ∀ changes, (forest.changeAll changes).Distinct :=
  ⟨fun _ _ => checkDistinct_eq_ok_iff, fun _ _ => checkDistinct_eq_error_iff,
    Edit.insert_succeedsIff, Edit.pushRoot_succeedsIff,
    fun _ distinct changes => distinct.changeAll changes⟩

/-- Changes of every kind. The stump that is to become a root is refused, being there already. -/
def upheaval : List OutlineChange :=
  [.move "bough" "elm" .child, .insert shoot "leaf" .before, .pushRoot stump, .remove "oak",
    .update "elm" (.setText "Old elm")]

theorem ids_kept_distinct_by_upheaval :
    grove.Distinct ∧ (grove.changeAll upheaval).Distinct ∧
      (grove.changeAll upheaval).ids = ["elm", "bough", "twig", "shoot", "leaf"] :=
  ⟨distinct_grove, ids_are_checked_and_kept_distinct.2.2.2.2 grove distinct_grove upheaval, rfl⟩

end Forest

end MindMap
