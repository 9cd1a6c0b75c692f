import MindMap.Proofs.Motions
import MindMap.Proofs.Session.Consistency

/-!
# Selections in sight

A selection is in sight if none of the nodes above it is collapsed. The operations of a session that
change what is collapsed, what is there or what is selected keep a selection in sight, each in its
own way: collapsing pulls the selection up to the node that would hide it, deleting lets it fall
back to the parent, and adding below the selection expands it.

Not every operation does. A node can be selected, edited or given a child by its id wherever it is,
and undoing restores what was collapsed before, so nothing is said of these.
-/

namespace MindMap

namespace Session

variable {session after : Session} {id : String}

/-- The selection, if there is one, is a node in sight. -/
def InSight (session : Session) : Prop :=
  ∀ id, session.selection = some id → session.document.Shows id

theorem inSight_setSelection (shows : session.document.Shows id) :
    (session.setSelection (some id)).InSight := by
  intro selected isSelected
  rw [selection_setSelection] at isSelected
  cases isSelected
  rwa [document_setSelection]

theorem inSight_of_eq (inSight : session.InSight) (sameDocument : after.document = session.document)
    (sameSelection : after.selection = session.selection) : after.InSight := by
  intro selected isSelected
  rw [sameDocument]
  exact inSight selected (sameSelection ▸ isSelected)

/-! ### Collapsing and expanding -/

/-- What a toggle did when it succeeded: the node was collapsed or expanded, and a selection below a
node that was collapsed went to the node. -/
theorem exists_of_run_toggleCollapse (run : (toggleCollapse id).run session = .ok () after) :
    ∃ node document, session.document.find? id = some node ∧
      session.document.update? id (.setCollapsed !node.collapsed) = some document ∧
      after =
        if !node.collapsed && session.selection.any fun selected =>
            selected ≠ id && node.contains selected then
          (session.commit document).setSelection (some id)
        else session.commit document := by
  rw [run_toggleCollapse] at run
  cases found : session.document.find? id with
  | none =>
    rw [found] at run
    cases run
  | some node =>
    rw [found] at run
    dsimp only at run
    cases changed : session.document.update? id (.setCollapsed !node.collapsed) with
    | none =>
      rw [changed] at run
      cases run
    | some document =>
      refine ⟨node, document, rfl, changed, ?_⟩
      rw [changed] at run
      dsimp only at run
      split at run <;> cases run
      · next hides => rw [if_pos hides]
      · next keeps => rw [if_neg keeps]

theorem inSight_toggleCollapse (consistent : session.Consistent) (inSight : session.InSight)
    (run : (toggleCollapse id).run session = .ok () after) : after.InSight := by
  have distinct := consistent.document_distinct
  obtain ⟨node, document, found, changed, rfl⟩ := exists_of_run_toggleCollapse run
  obtain ⟨inForest, rfl⟩ := Forest.mem_nodes_of_find? found
  have sameIds := Forest.ids_of_update? changed
  split
  · next hides =>
    -- The selection was below the node, so nothing above the node is collapsed.
    simp only [Bool.and_eq_true, Option.any_eq_true, decide_eq_true_eq] at hides
    obtain ⟨-, selected, isSelected, differs, inside⟩ := hides
    have below : selected ∈ node.children.ids := by
      have member := Node.contains_iff_mem_ids.mp inside
      rw [Node.ids_eq, List.mem_cons] at member
      exact member.resolve_left differs
    refine inSight_setSelection ⟨?_, fun hidden => ?_⟩
    · rw [document_commit, sameIds]
      exact Forest.mem_ids_of_find? found
    · rcases distinct.hides_of_update? found changed hidden with before | ⟨-, inChildren⟩
      · exact (inSight selected isSelected).2 (distinct.under_of_mem_children inForest before below)
      · exact distinct.id_not_mem_children inForest inChildren
  · next keeps =>
    intro selected isSelected
    obtain ⟨present, notHidden⟩ := inSight selected isSelected
    refine ⟨by rwa [document_commit, sameIds], fun hidden => ?_⟩
    rcases distinct.hides_of_update? found changed hidden with before | ⟨collapses, inChildren⟩
    · exact notHidden before
    · have differs : selected ≠ node.id := by
        rintro rfl
        exact distinct.id_not_mem_children inForest inChildren
      have inside : node.contains selected = true :=
        Node.contains_iff_mem_ids.mpr (by simp [Node.ids_eq, inChildren])
      have isSelectedBefore : session.selection = some selected := isSelected
      exact keeps (by simp [collapses, isSelectedBefore, differs, inside])

/-! ### Deleting -/

/-- A selection that is not forgotten was there before, and its node still is. -/
theorem selection_of_forgetMissing (selected : session.forgetMissing.selection = some id) :
    session.selection = some id ∧ id ∈ session.document.ids := by
  have forgotten : session.forgetMissing.selection = session.forgetSelection.selection := by
    rw [forgetMissing_eq, forgetEdit]
    split <;> simp
  rw [forgotten] at selected
  refine ⟨?_, Consistent.selection_forgetSelection selected⟩
  unfold forgetSelection at selected
  split at selected
  · simp at selected
  · exact selected

theorem inSight_deleteNode (consistent : session.Consistent) (inSight : session.InSight)
    (run : (deleteNode id).run session = .ok () after) : after.InSight := by
  have distinct := consistent.document_distinct
  rw [run_deleteNode] at run
  cases taken : session.document.take? id with
  | none =>
    rw [taken] at run
    cases run
  | some parts =>
    obtain ⟨node, others⟩ := parts
    obtain ⟨divides, rfl⟩ := Forest.divides_of_take? taken
    rw [taken] at run
    dsimp only at run
    split at run
    · next gone =>
      cases run
      obtain ⟨lost, wasSelected, missing⟩ := Option.any_eq_true _ _ |>.mp gone
      have lostInNode : lost ∈ node.ids := by
        obtain ⟨present, -⟩ := inSight lost wasSelected
        refine (divides.mem_ids_iff.mp present).resolve_right fun stays => ?_
        simp [Forest.contains_iff_mem_ids.mpr stays] at missing
      intro selected isSelected
      obtain ⟨isParent, present⟩ := selection_of_forgetMissing isSelected
      rw [selection_setSelection] at isParent
      obtain ⟨parent, parentFound, rfl⟩ := Option.map_eq_some_iff.mp isParent
      rw [document_forgetMissing]
      refine ⟨present, fun hidden => ?_⟩
      rw [document_setSelection, document_commit] at hidden
      -- Whatever hides the parent hid the deleted node before, and the selection in it.
      have above := distinct.under_of_parent? parentFound (Forest.under_of_take? taken hidden)
      exact (inSight lost wasSelected).2
        (distinct.under_of_mem_node divides.member above lostInNode)
    · cases run
      intro selected isSelected
      obtain ⟨wasSelected, present⟩ := selection_of_forgetMissing isSelected
      rw [document_forgetMissing]
      exact ⟨present, fun hidden =>
        (inSight selected wasSelected).2 (Forest.under_of_take? taken hidden)⟩

/-! ### Selecting -/

theorem inSight_navigateToDirection (consistent : session.Consistent) {direction : Direction}
    (run : (navigateToDirection direction).run session = .ok () after) : after.InSight := by
  rw [run_navigateToDirection] at run
  cases ending : session.document.endRoot? direction with
  | none =>
    rw [ending] at run
    cases run
  | some node =>
    rw [ending] at run
    cases run
    exact inSight_setSelection ⟨Forest.id_mem_ids_of_endRoot? ending,
      consistent.document_distinct.not_under_of_mem_roots (Forest.mem_roots_of_endRoot? ending)⟩

/-- Editing the selection leaves it where it is. -/
theorem inSight_beginEdit (inSight : session.InSight) {cursor : CursorPlacement}
    (selected : session.selection = some id)
    (run : (beginEdit id cursor).run session = .ok () after) : after.InSight := by
  rw [run_beginEdit] at run
  split at run
  · cases run
    refine inSight_of_eq inSight ?_ (selected ▸ session.selection_startEdit id cursor)
    exact (documents_eq_of_history (session.history_startEdit id cursor)).2
  · cases run

/-! ### Adding -/

theorem selection_shown (session : Session) (id : String) (startEditing : Bool) :
    (session.shown id startEditing).selection = some id := by
  unfold shown
  split <;> simp

/-- What would hide a subtree that was inserted and shown would have hidden its parent before. -/
theorem hides_of_run_insertShown {forest larger : Forest} (distinct : forest.Distinct) {node : Node}
    {target : String} (run : (insertShown node target).run forest = .ok () larger)
    (hidden : larger.Hides node.id) : forest.Hides target := by
  obtain ⟨placed, inserted, updated⟩ := exists_of_run_insertShown run
  obtain ⟨present, fresh, place⟩ := Edit.place?_of_run_insert inserted
  have gains := Edit.gains_of_run_insert inserted
  rw [Edit.run_update, (gains.distinct distinct).update?_eq _ (gains.mem_ids present)] at updated
  cases updated
  rw [Forest.Hides, Forest.under_mapItems (Forest.id_changeAt target _)] at hidden
  let expand := Forest.changeAt target (.setCollapsed false)
  have expanded : ∀ item : Item, item.id = target → (expand item).collapsed = false :=
    fun item isTarget => congrArg Item.collapsed (if_pos isTarget)
  have others : ∀ item : Item, item.id ≠ target → expand item = item :=
    fun item differs => if_neg differs
  have spares : Forest.SparesTarget ((·.collapsed = true) ∘ expand) target .child :=
    fun _ item isTarget => by simp [expanded item isTarget]
  have above := Forest.under_of_place? fresh spares place hidden
  refine above.mono fun item holds => ?_
  by_cases isTarget : item.id = target
  · exact absurd holds (by simp [expanded item isTarget])
  · rwa [Function.comp, others item isTarget] at holds

theorem hides_of_run_insert_after {forest larger : Forest} {node : Node} {target : String}
    (run : (Edit.insert node target .after).run forest = .ok () larger)
    (hidden : larger.Hides node.id) : forest.Hides target := by
  obtain ⟨_, fresh, place⟩ := Edit.place?_of_run_insert run
  have spares : Forest.SparesTarget (·.collapsed = true) target .after := fun isChild =>
    nomatch isChild
  exact Forest.under_of_place? fresh spares place hidden

/-- Adding beside or below the selection selects a node that nothing hides. -/
theorem AddsBy.inSight {α : Type} {insertion : Node → Edit Unit} {step : HostM Session α}
    {value : String → α} {anchor : String} {startEditing : Bool}
    (addsBy : AddsBy insertion step value anchor startEditing session)
    (gains : ∀ node larger, (insertion node).run session.document = .ok () larger →
      session.document.Gains node larger)
    (hides : ∀ node larger, (insertion node).run session.document = .ok () larger →
      larger.Hides node.id → session.document.Hides anchor)
    (inSight : session.InSight) (selected : session.selection = some anchor) {result : α}
    (run : step.run session = .ok result after) : after.InSight := by
  rcases addsBy with ⟨node, nextId, larger, _, inserted, added⟩ | ⟨_, missing⟩
  · rw [run] at added
    cases added
    intro other isSelected
    rw [grown, selection_shown] at isSelected
    cases isSelected
    rw [document_grown]
    exact ⟨(gains node larger inserted).id_mem_ids, fun hidden =>
      (inSight anchor selected).2 (hides node larger inserted hidden)⟩
  · rw [run] at missing
    cases missing

end Session

end MindMap
