import MindMap.Proofs.Outline.Slots

/-!
# Outcomes of edits

For every edit, when it succeeds, what it leads to, and that a failure leaves the outline as it was.
An update and an insertion need nothing of the outline for this. A move does: only in a `Distinct`
outline is the subtree that is taken out the one that was looked at before, so only there is the
place sure to be found again, and the branch that keeps the subtree as a last root is never taken.

Where an insertion is followed by an update of the node that it was made at, the update cannot fail:
an insertion keeps all ids.
-/

namespace MindMap

namespace Forest

variable {forest others placed updated : Forest} {node : Node} {id target : String}
  {placement : Placement} {update : Update}

/-! ### Taking out and placing -/

/-- A subtree of a forest, with what is left when it is taken out. -/
structure Divides (forest : Forest) (node : Node) (others : Forest) : Prop where
  /-- The subtree is one of the forest. -/
  member : node ∈ forest.nodes
  /-- Each id goes one way or the other. -/
  ids : forest.ids.Perm (node.ids ++ others.ids)

namespace Divides

theorem push (node : Node) (others : Forest) : (others.push node).Divides node others where
  member := by simp [Forest.push, nodes]
  ids := by simp

/-- Dividing the children of a root divides the forest. -/
theorem below {children left : Forest} (divides : children.Divides node left) (item : Item)
    (rest : Forest) : (cons item children rest).Divides node (cons item left rest) where
  member := by simp [nodes, divides.member]
  ids := by
    have counts := List.perm_iff_count.mp divides.ids
    refine List.perm_iff_count.mpr fun other => ?_
    have count := counts other
    simp only [ids_cons, List.count_cons, List.count_append] at count ⊢
    omega

/-- Dividing the roots after the first divides the forest. -/
theorem beside {rest left : Forest} (divides : rest.Divides node left) (item : Item)
    (children : Forest) : (cons item children rest).Divides node (cons item children left) where
  member := by simp [nodes, divides.member]
  ids := by
    have counts := List.perm_iff_count.mp divides.ids
    refine List.perm_iff_count.mpr fun other => ?_
    have count := counts other
    simp only [ids_cons, List.count_cons, List.count_append] at count ⊢
    omega

theorem mem_ids_iff (divides : forest.Divides node others) {id : String} :
    id ∈ forest.ids ↔ id ∈ node.ids ∨ id ∈ others.ids := by
  rw [divides.ids.mem_iff, List.mem_append]

/-- The parts of a forest with distinct ids have distinct ids, and share none. -/
theorem distinct_iff (divides : forest.Divides node others) :
    forest.Distinct ↔ node.ids.Nodup ∧ others.Distinct ∧ ∀ id ∈ node.ids, id ∉ others.ids := by
  unfold Distinct
  rw [divides.ids.nodup_iff, List.nodup_append]
  constructor
  · rintro ⟨inNode, inOthers, apart⟩
    exact ⟨inNode, inOthers, fun id member again => apart id member id again rfl⟩
  · rintro ⟨inNode, inOthers, apart⟩
    refine ⟨inNode, inOthers, fun id member other again => ?_⟩
    rintro rfl
    exact apart id member again

end Divides

theorem divides_ofRoots (node : Node) (left right : List Node) :
    (ofRoots (left ++ node :: right)).Divides node (ofRoots (left ++ right)) := by
  induction left with
  | nil => exact .push node (ofRoots right)
  | cons first left inductionHypothesis => exact inductionHypothesis.beside _ _

/-- An insertion adds the ids of the subtree to those of the forest. -/
theorem Inserts.divides {above : Option Item} {left right : List Node} {smaller larger : Forest}
    (inserts : Inserts node left right above smaller larger) : larger.Divides node smaller := by
  induction inserts with
  | roots => exact divides_ofRoots node left right
  | children item rest => exact (divides_ofRoots node left right).below item rest
  | deeper item rest _ inductionHypothesis => exact inductionHypothesis.below item rest
  | beside item children _ inductionHypothesis => exact inductionHypothesis.beside item children

/-- Taking an id out divides the forest, and the subtree has that id. -/
theorem divides_of_take? (taken : forest.take? id = some (node, others)) :
    forest.Divides node others ∧ node.id = id := by
  obtain ⟨same, _, _, _, inserts⟩ := inserts_of_take? taken
  exact ⟨inserts.divides, same⟩

/-- There is a subtree to take out exactly if the id is in the forest. -/
theorem isSome_take? (forest : Forest) (id : String) :
    (forest.take? id).isSome = forest.contains id := by
  unfold take?
  induction forest with
  | nil => rfl
  | cons item children rest childrenHypothesis restHypothesis =>
    by_cases same : item.id = id
    · simp [takeRoot?, same]
    · rw [contains_cons, ← childrenHypothesis, ← restHypothesis]
      simp only [takeRoot?, takeBelow?, same, if_false, decide_false, Bool.false_or]
      cases (children.takeRoot? id).or (children.takeBelow? id) <;> simp

/-- In a forest with distinct ids, the subtree that is taken out is the one that a look-up finds. -/
theorem Distinct.exists_take? (distinct : forest.Distinct) (found : forest.find? id = some node) :
    ∃ others, forest.take? id = some (node, others) ∧ forest.Divides node others := by
  have present : forest.contains id = true := by simp [contains, found]
  obtain ⟨⟨taken, others⟩, take⟩ := Option.isSome_iff_exists.mp
    ((isSome_take? forest id).trans present)
  obtain ⟨divides, sameId⟩ := divides_of_take? take
  have again := distinct.find?_eq divides.member
  rw [sameId, found] at again
  cases again
  exact ⟨others, take, divides⟩

/-- The subtree that was placed and the forest before divide the forest after. -/
theorem divides_of_place? (found : forest.place? node target placement = some placed) :
    placed.Divides node forest := by
  obtain ⟨_, _, _, inserts, _⟩ := inserts_of_place? found
  exact inserts.divides

/-- There is a place exactly if the target is in the forest. -/
theorem isSome_place? (forest : Forest) (node : Node) (target : String) (placement : Placement) :
    (forest.place? node target placement).isSome = forest.contains target := by
  unfold place?
  induction forest with
  | nil => rfl
  | cons item children rest childrenHypothesis restHypothesis =>
    by_cases same : item.id = target
    · cases placement <;> simp [placeAtRoot?, same]
    · rw [contains_cons, ← childrenHypothesis, ← restHypothesis]
      simp only [placeAtRoot?, placeBelow?, same, if_false, decide_false, Bool.false_or]
      cases (children.placeAtRoot? node target placement).or
        (children.placeBelow? node target placement) <;> simp

/-! ### Updating -/

/-- An update keeps all ids in their order. -/
theorem ids_of_update? (changed : forest.update? id update = some updated) :
    updated.ids = forest.ids := by
  induction forest generalizing updated with
  | nil => simp [update?] at changed
  | cons item children rest childrenHypothesis restHypothesis =>
    unfold update? at changed
    split at changed
    · cases changed
      simp
    · split at changed
      · next larger changedBelow =>
        cases changed
        simp [childrenHypothesis changedBelow]
      · obtain ⟨larger, changedLater, rfl⟩ := Option.map_eq_some_iff.mp changed
        simp [restHypothesis changedLater]

/-- There is a node to update exactly if the id is in the forest. -/
theorem isSome_update? (forest : Forest) (id : String) (update : Update) :
    (forest.update? id update).isSome = forest.contains id := by
  induction forest with
  | nil => rfl
  | cons item children rest childrenHypothesis restHypothesis =>
    by_cases same : item.id = id
    · simp [update?, same]
    · rw [contains_cons, ← childrenHypothesis, ← restHypothesis]
      simp only [update?, same, if_false, decide_false, Bool.false_or]
      cases children.update? id update <;> simp

theorem update?_eq_none_iff : forest.update? id update = none ↔ forest.find? id = none := by
  rw [← Option.not_isSome_iff_eq_none, isSome_update?, contains, Option.not_isSome_iff_eq_none]

/-- The node that was updated is found with its new values. -/
theorem find?_of_update? (changed : forest.update? id update = some updated)
    (found : forest.find? id = some node) :
    ∃ children, updated.find? id = some ⟨update.apply node.toItem, children⟩ := by
  induction forest generalizing updated with
  | nil => simp [find?] at found
  | cons item children rest childrenHypothesis restHypothesis =>
    unfold update? at changed
    unfold find? at found
    by_cases same : item.id = id
    · rw [if_pos same] at changed found
      cases changed
      cases found
      exact ⟨children, by simp [find?, same]⟩
    · rw [if_neg same] at changed found
      cases inChildren : children.update? id update with
      | some others =>
        obtain ⟨first, foundFirst⟩ : ∃ first, children.find? id = some first :=
          Option.ne_none_iff_exists'.mp fun missing => by
            simp [update?_eq_none_iff.mpr missing] at inChildren
        rw [foundFirst, Option.some_or] at found
        cases found
        obtain ⟨below, foundBelow⟩ := childrenHypothesis inChildren foundFirst
        rw [inChildren] at changed
        cases changed
        exact ⟨below, by simp [find?, same, foundBelow]⟩
      | none =>
        have notBelow := update?_eq_none_iff.mp inChildren
        rw [notBelow, Option.none_or] at found
        rw [inChildren] at changed
        obtain ⟨others, changedLater, rfl⟩ := Option.map_eq_some_iff.mp changed
        obtain ⟨below, foundLater⟩ := restHypothesis changedLater found
        exact ⟨below, by simp [find?, same, notBelow, foundLater]⟩

/-- An update to the values that a node has already changes nothing. -/
theorem update?_eq_self (found : forest.find? id = some node)
    (same : update.apply node.toItem = node.toItem) : forest.update? id update = some forest := by
  induction forest with
  | nil => simp [find?] at found
  | cons item children rest childrenHypothesis restHypothesis =>
    unfold find? at found
    unfold update?
    split at found
    · next isRoot =>
      cases found
      rw [if_pos isRoot, same]
    · next notRoot =>
      rw [if_neg notRoot]
      rcases Option.or_eq_some_iff.mp found with foundBelow | ⟨notBelow, foundLater⟩
      · rw [childrenHypothesis foundBelow]
      · rw [update?_eq_none_iff.mpr notBelow, restHypothesis foundLater]
        rfl

theorem exists_update?_of_mem_ids (present : id ∈ forest.ids) (update : Update) :
    ∃ updated, forest.update? id update = some updated := by
  rw [← Option.isSome_iff_exists, isSome_update?]
  exact contains_iff_mem_ids.mpr present

theorem exists_place?_of_mem_ids (present : target ∈ forest.ids) (node : Node)
    (placement : Placement) : ∃ placed, forest.place? node target placement = some placed := by
  rw [← Option.isSome_iff_exists, isSome_place?]
  exact contains_iff_mem_ids.mpr present

end Forest

/-- The ids of a subtree are distinct, and none of them is in a forest. -/
def Node.FreshIn (node : Node) (forest : Forest) : Prop :=
  node.ids.Nodup ∧ ∀ id ∈ node.ids, id ∉ forest.ids

/-- A forest with a fresh subtree added to it. -/
structure Forest.Gains (forest : Forest) (node : Node) (larger : Forest) : Prop where
  fresh : node.FreshIn forest
  /-- The ids of both, in some order. -/
  ids : larger.ids.Perm (node.ids ++ forest.ids)

namespace Forest.Gains

variable {forest larger : Forest} {node : Node}

theorem distinct (gains : forest.Gains node larger) (distinct : forest.Distinct) :
    larger.Distinct := by
  unfold Distinct
  rw [gains.ids.nodup_iff, List.nodup_append]
  refine ⟨gains.fresh.1, distinct, fun id member other again => ?_⟩
  rintro rfl
  exact gains.fresh.2 id member again

/-- No id is lost. -/
theorem mem_ids {id : String} (gains : forest.Gains node larger) (member : id ∈ forest.ids) :
    id ∈ larger.ids :=
  gains.ids.mem_iff.mpr (List.mem_append_right _ member)

theorem id_mem_ids (gains : forest.Gains node larger) : node.id ∈ larger.ids :=
  gains.ids.mem_iff.mpr (List.mem_append_left _ (by simp [Node.ids_eq]))

end Forest.Gains

namespace Edit

variable {forest placed : Forest} {node : Node} {target : String} {placement : Placement}

theorem run_remove (id : String) (forest : Forest) :
    (remove id).run forest =
      match forest.take? id with
      | some (node, others) => .ok node others
      | none => .error (.notFound id) forest := by
  simp only [remove, EStateM.run_bind, EStateM.run_get]
  cases forest.take? id <;> rfl

theorem run_update (id : String) (update : Update) (forest : Forest) :
    (Edit.update id update).run forest =
      match forest.update? id update with
      | some updated => .ok () updated
      | none => .error (.notFound id) forest := by
  simp only [Edit.update, EStateM.run_bind, EStateM.run_get]
  cases forest.update? id update <;> rfl

/-- A fresh subtree can be inserted wherever there is a target. -/
theorem run_insert_of_fresh (present : target ∈ forest.ids) (fresh : node.FreshIn forest)
    (placement : Placement) :
    ∃ placed, forest.place? node target placement = some placed ∧
      (insert node target placement).run forest = .ok () placed := by
  have found : forest.contains target = true := Forest.contains_iff_mem_ids.mpr present
  obtain ⟨placed, place⟩ := Forest.exists_place?_of_mem_ids present node placement
  have noClash : firstClash? forest.ids node.ids = none := firstClash?_eq_none_iff.mpr fresh
  refine ⟨placed, place, ?_⟩
  simp [insert, checkFresh, found, noClash, place]

/-- What cannot be inserted is refused before anything is done. -/
theorem run_insert_refused (refused : ¬(target ∈ forest.ids ∧ node.FreshIn forest))
    (placement : Placement) :
    ∃ error, (insert node target placement).run forest = .error error forest := by
  by_cases found : forest.contains target = true
  · cases clash : firstClash? forest.ids node.ids with
    | none =>
      exact absurd ⟨Forest.contains_iff_mem_ids.mp found, firstClash?_eq_none_iff.mp clash⟩ refused
    | some id => exact ⟨.duplicateId id, by simp [insert, checkFresh, found, clash]⟩
  · exact ⟨.notFound target, by simp [insert, found]⟩

/-- What an insertion did when it succeeded. -/
theorem place?_of_run_insert (run : (insert node target placement).run forest = .ok () placed) :
    target ∈ forest.ids ∧ node.FreshIn forest ∧
      forest.place? node target placement = some placed := by
  by_cases accepted : target ∈ forest.ids ∧ node.FreshIn forest
  · obtain ⟨present, fresh⟩ := accepted
    obtain ⟨other, place, same⟩ := run_insert_of_fresh present fresh placement
    rw [run] at same
    cases same
    exact ⟨present, fresh, place⟩
  · obtain ⟨error, refused⟩ := run_insert_refused accepted placement
    rw [run] at refused
    cases refused

theorem gains_of_run_insert (run : (insert node target placement).run forest = .ok () placed) :
    forest.Gains node placed := by
  obtain ⟨_, fresh, place⟩ := place?_of_run_insert run
  exact ⟨fresh, (Forest.divides_of_place? place).ids⟩

/-- After an insertion, the target can still be updated. Nothing but the new ids has been added. -/
theorem run_update_of_run_insert (run : (insert node target placement).run forest = .ok () placed)
    (update : Update) :
    ∃ larger, forest.Gains node larger ∧
      (Edit.update target update).run placed = .ok () larger := by
  obtain ⟨present, fresh, place⟩ := place?_of_run_insert run
  have divides := Forest.divides_of_place? place
  have stillThere : target ∈ placed.ids := divides.mem_ids_iff.mpr (.inr present)
  obtain ⟨larger, updated⟩ := Forest.exists_update?_of_mem_ids stillThere update
  refine ⟨larger, ⟨fresh, ?_⟩, ?_⟩
  · rw [Forest.ids_of_update? updated]
    exact divides.ids
  · rw [run_update, updated]

/-- A fresh subtree can always become a last root. -/
theorem run_pushRoot_of_fresh (fresh : node.FreshIn forest) :
    (pushRoot node).run forest = .ok () (forest.snoc node) := by
  have noClash : firstClash? forest.ids node.ids = none := firstClash?_eq_none_iff.mpr fresh
  simp [pushRoot, checkFresh, noClash]

theorem run_pushRoot_refused (refused : ¬node.FreshIn forest) :
    ∃ error, (pushRoot node).run forest = .error error forest := by
  cases clash : firstClash? forest.ids node.ids with
  | none => exact absurd (firstClash?_eq_none_iff.mp clash) refused
  | some id => exact ⟨.duplicateId id, by simp [pushRoot, checkFresh, clash]⟩

/-- What making a last root did when it succeeded. -/
theorem gains_of_run_pushRoot (run : (pushRoot node).run forest = .ok () placed) :
    forest.Gains node placed ∧ placed = forest.snoc node := by
  by_cases fresh : node.FreshIn forest
  · rw [run_pushRoot_of_fresh fresh] at run
    cases run
    exact ⟨⟨fresh, (Forest.Inserts.snoc forest node).divides.ids⟩, rfl⟩
  · obtain ⟨error, refused⟩ := run_pushRoot_refused fresh
    rw [run] at refused
    cases refused

/-! ### Moving -/

section

variable {id : String}

theorem run_move_of_absent (absent : id ∉ forest.ids) (target : String) (placement : Placement) :
    (move id target placement).run forest = .error (.notFound id) forest := by
  have missing : forest.find? id = none := Forest.find?_eq_none_iff.mpr absent
  simp [move, missing]

theorem run_move_of_target_absent (present : id ∈ forest.ids) (absent : target ∉ forest.ids)
    (placement : Placement) :
    (move id target placement).run forest = .error (.notFound target) forest := by
  obtain ⟨node, found⟩ := Forest.exists_find?_of_mem_ids present
  have missing : ¬forest.contains target = true := mt Forest.contains_iff_mem_ids.mp absent
  simp [move, found, missing]

theorem run_move_into_subtree (found : forest.find? id = some node) (present : target ∈ forest.ids)
    (inside : target ∈ node.ids) (placement : Placement) :
    (move id target placement).run forest = .error (.intoSubtree id target) forest := by
  have inForest : forest.contains target = true := Forest.contains_iff_mem_ids.mpr present
  have inNode : node.contains target = true := Node.contains_iff_mem_ids.mpr inside
  simp [move, found, inForest, inNode]

/-- In an outline with distinct ids, a move to a target outside the subtree takes out the subtree
that was looked at, and finds the place for it in what is left. -/
theorem run_move_of_outside (distinct : forest.Distinct) (found : forest.find? id = some node)
    (present : target ∈ forest.ids) (outside : target ∉ node.ids) (placement : Placement) :
    ∃ others placed, forest.take? id = some (node, others) ∧
      others.place? node target placement = some placed ∧
      (move id target placement).run forest = .ok () placed := by
  obtain ⟨others, take, divides⟩ := distinct.exists_take? found
  have left : target ∈ others.ids := (divides.mem_ids_iff.mp present).resolve_left outside
  obtain ⟨placed, place⟩ := Forest.exists_place?_of_mem_ids left node placement
  have inForest : forest.contains target = true := Forest.contains_iff_mem_ids.mpr present
  have notInNode : ¬node.contains target = true := mt Node.contains_iff_mem_ids.mp outside
  refine ⟨others, placed, take, place, ?_⟩
  simp [move, found, inForest, notInNode, run_remove, take, place]

/-- In an outline with distinct ids, a move either takes the subtree of the id and places it, or is
refused before anything is done. -/
theorem run_move (distinct : forest.Distinct) (id target : String) (placement : Placement) :
    (∃ node others placed, forest.Divides node others ∧ node.id = id ∧ placed.Divides node others ∧
      (move id target placement).run forest = .ok () placed) ∨
    ∃ error, (move id target placement).run forest = .error error forest := by
  cases found : forest.find? id with
  | none => exact .inr ⟨_, run_move_of_absent (Forest.find?_eq_none_iff.mp found) target placement⟩
  | some node =>
    by_cases present : target ∈ forest.ids
    · by_cases inside : target ∈ node.ids
      · exact .inr ⟨_, run_move_into_subtree found present inside placement⟩
      · obtain ⟨others, placed, take, place, run⟩ :=
          run_move_of_outside distinct found present inside placement
        obtain ⟨divides, sameId⟩ := Forest.divides_of_take? take
        exact .inl ⟨node, others, placed, divides, sameId, Forest.divides_of_place? place, run⟩
    · exact .inr ⟨_, run_move_of_target_absent (Forest.mem_ids_of_find? found) present placement⟩

end

end Edit

end MindMap
