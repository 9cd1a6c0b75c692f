import MindMap.Proofs.Session.Changes
import MindMap.Proofs.Session.FreshIds

/-!
# Outcomes of session operations

For each operation of a session, the state that it leaves: the session itself if it fails, and
otherwise the session after the changes named here. Only a move asks for a document with distinct
ids. An addition fails for want of an anchor alone, since its id is fresh and its place is there.
-/

namespace MindMap

/-- The root that a motion leads to when nothing is selected. -/
def Forest.endRoot? (forest : Forest) (direction : Direction) : Option Node :=
  match direction with
  | .up => forest.roots.getLast?
  | .left | .right | .down => forest.roots.head?

theorem Forest.mem_roots_of_endRoot? {forest : Forest} {direction : Direction} {node : Node}
    (ending : forest.endRoot? direction = some node) : node ∈ forest.roots := by
  cases direction <;>
    first
    | exact List.mem_of_getLast? ending
    | exact List.mem_of_head? ending

theorem Forest.id_mem_ids_of_endRoot? {forest : Forest} {direction : Direction} {node : Node}
    (ending : forest.endRoot? direction = some node) : node.id ∈ forest.ids :=
  List.mem_map_of_mem (mem_nodes_of_mem_roots (mem_roots_of_endRoot? ending))

namespace Session

variable {session : Session} {id : String}

/-! ### Outcomes -/

theorem run_findNode (id : String) (session : Session) :
    (findNode id).run session =
      match session.document.find? id with
      | some node => .ok node session
      | none => .error (.nodeNotFound id) session := by
  simp only [findNode, EStateM.run_bind, EStateM.run_get]
  cases session.document.find? id <;> rfl

theorem run_mutate {α : Type} (edit : Edit α) (session : Session) :
    (mutate edit).run session =
      match edit.run session.document with
      | .ok value document => .ok value (session.commit document)
      | .error error document => .error (.ofEdit error) { session with document } := by
  show mutate edit session = _
  unfold mutate
  cases edit.run session.document <;> rfl

theorem run_updateNode (id : String) (update : Update) (session : Session) :
    (updateNode id update).run session =
      if update.isEmpty then .ok () session
      else match session.document.update? id update with
        | some document => .ok () (session.commit document)
        | none => .error (.nodeNotFound id) session := by
  unfold updateNode
  split
  · rfl
  · rw [run_mutate, Edit.run_update]
    cases session.document.update? id update <;> rfl

theorem run_deleteNode (id : String) (session : Session) :
    (deleteNode id).run session =
      match session.document.take? id with
      | some (_, document) =>
        let committed := session.commit document
        let selected :=
          if committed.selection.any fun selected => !document.contains selected then
            committed.setSelection ((session.document.parent? id).map (·.id))
          else committed
        .ok () selected.forgetMissing
      | none => .error (.nodeNotFound id) session := by
  simp only [deleteNode, EStateM.run_bind, EStateM.run_get, run_mutate, Edit.run_remove,
    EStateM.run_modify]
  cases session.document.take? id <;> rfl

theorem run_beginEdit (id : String) (cursor : CursorPlacement) (session : Session) :
    (beginEdit id cursor).run session =
      match session.document.find? id with
      | some _ => .ok () (session.startEdit id cursor)
      | none => .error (.nodeNotFound id) session := by
  simp only [beginEdit, EStateM.run_bind, run_findNode, EStateM.run_modify]
  cases session.document.find? id <;> rfl

theorem run_finishEdit (text : Option String) (session : Session) :
    (finishEdit text).run session =
      match session.editing with
      | none => .ok () session
      | some edit =>
        match text with
        | none => .ok () (session.dropEdit.setMode .normal)
        | some text =>
          if (session.document.find? edit.id).any (·.text = text) then
            .ok () (session.dropEdit.setMode .normal)
          else match session.document.update? edit.id (.setText text) with
            | some document => .ok () ((session.dropEdit.commit document).setMode .normal)
            | none => .error (.nodeNotFound edit.id) session.dropEdit := by
  simp only [finishEdit, EStateM.run_bind, EStateM.run_get]
  cases session.editing with
  | none => rfl
  | some edit =>
    cases text with
    | none => rfl
    | some text =>
      simp only [EStateM.run_bind, EStateM.run_modify, EStateM.run_get]
      change (if _ then _ else _ : HostM Session Unit).run session.dropEdit = _
      split
      · rfl
      · have notEmpty : (Update.setText text).isEmpty = false := rfl
        simp only [EStateM.run_bind, run_updateNode, notEmpty, Bool.false_eq_true, if_false,
          document_dropEdit]
        cases session.document.update? edit.id (.setText text) <;> rfl

theorem run_navigateToDirection (direction : Direction) (session : Session) :
    (navigateToDirection direction).run session =
      match session.document.endRoot? direction with
      | some node => .ok () (session.setSelection (some node.id))
      | none => .error (.failed "Document is empty") session := by
  simp only [navigateToDirection, EStateM.run_bind, EStateM.run_get]
  change EStateM.run (match session.document.endRoot? direction with
    | some _ => _
    | none => _) session = _
  cases session.document.endRoot? direction <;> rfl

theorem run_copyNode (id : String) (session : Session) :
    (copyNode id).run session =
      match session.document.find? id with
      | some node => .ok () { session with clipboard := some node }
      | none => .error (.nodeNotFound id) session := by
  simp only [copyNode, EStateM.run_bind, run_findNode, EStateM.run_modify]
  cases session.document.find? id <;> rfl

theorem run_undo (session : Session) :
    undo.run session =
      match session.past with
      | [] => .error (.failed "Nothing to undo") session
      | document :: past =>
        let future := session.document :: session.future
        .ok () ({ session with past, future }.restore document) := by
  simp only [undo, EStateM.run_bind, EStateM.run_get]
  cases session.past <;> rfl

theorem run_redo (session : Session) :
    redo.run session =
      match session.future with
      | [] => .error (.failed "Nothing to redo") session
      | document :: future =>
        let past := session.document :: session.past
        .ok () ({ session with future, past }.restore document) := by
  simp only [redo, EStateM.run_bind, EStateM.run_get]
  cases session.future <;> rfl

theorem run_selectNode (id : Option String) (session : Session) :
    (selectNode id).run session =
      match id with
      | none => .ok () (session.setSelection none)
      | some id =>
        match session.document.find? id with
        | some _ => .ok () (session.setSelection (some id))
        | none => .error (.nodeNotFound id) session := by
  cases id with
  | none => rfl
  | some id =>
    simp only [selectNode, EStateM.run_bind, run_findNode, EStateM.run_modify]
    cases session.document.find? id <;> rfl

theorem run_toggleCollapse (id : String) (session : Session) :
    (toggleCollapse id).run session =
      match session.document.find? id with
      | some node =>
        match session.document.update? id (.setCollapsed !node.collapsed) with
        | some document =>
          let committed := session.commit document
          let hidesSelection := !node.collapsed &&
            session.selection.any fun selected => selected ≠ id && node.contains selected
          if hidesSelection then .ok () (committed.setSelection (some id))
          else .ok () committed
        | none => .error (.nodeNotFound id) session
      | none => .error (.nodeNotFound id) session := by
  simp only [toggleCollapse, EStateM.run_bind, EStateM.run_get, run_findNode, run_mutate,
    Edit.run_update]
  cases session.document.find? id with
  | none => rfl
  | some node =>
    simp only
    cases session.document.update? id (.setCollapsed !node.collapsed) with
    | none => rfl
    | some document => simp only; split <;> rfl

theorem run_centerOnNode (id : String) (session : Session) :
    (centerOnNode id).run session =
      match session.document.find? id with
      | some _ => .ok () ({ session with centered := some id }.announce .view)
      | none => .error (.nodeNotFound id) session := by
  simp only [centerOnNode, EStateM.run_bind, run_findNode, EStateM.run_modify]
  cases session.document.find? id <;> rfl

theorem run_openContextMenu (x y : Float) (id : Option String) (session : Session) :
    (openContextMenu x y id).run session =
      match id with
      | none => .ok () (session.openMenu x y none)
      | some id =>
        match session.document.find? id with
        | some _ => .ok () ((session.setSelection (some id)).openMenu x y (some id))
        | none => .error (.nodeNotFound id) session := by
  cases id with
  | none => rfl
  | some id =>
    simp only [openContextMenu, Option.isSome_some, if_true, EStateM.run_bind, run_selectNode,
      EStateM.run_modify]
    cases session.document.find? id <;> rfl

/-- In a document with distinct ids, a move fails without an effect or keeps all ids. -/
theorem run_moveNode (distinct : session.document.Distinct) (id target : String)
    (placement : Placement) :
    (∃ document, document.ids.Perm session.document.ids ∧
      (moveNode id target placement).run session = .ok () (session.commit document)) ∨
    ∃ failure, (moveNode id target placement).run session = .error failure session := by
  unfold moveNode
  rw [run_mutate]
  rcases Edit.run_move distinct id target placement with
    ⟨node, others, placed, divides, _, placedDivides, run⟩ | ⟨error, run⟩
  · rw [run]
    exact .inl ⟨placed, placedDivides.ids.trans divides.ids.symm, rfl⟩
  · rw [run]
    exact .inr ⟨.ofEdit error, rfl⟩

/-! ### Additions -/

theorem run_insertShown (node : Node) (target : String) (forest : Forest) :
    (insertShown node target).run forest =
      match (Edit.insert node target .child).run forest with
      | .ok _ placed => (Edit.update target (.setCollapsed false)).run placed
      | .error error reached => .error error reached := by
  rw [insertShown, EStateM.run_bind]
  cases (Edit.insert node target .child).run forest <;> rfl

/-- A fresh subtree can be inserted and shown wherever there is a target. -/
theorem run_insertShown_of_fresh {forest : Forest} {node : Node} {target : String}
    (present : target ∈ forest.ids) (fresh : node.FreshIn forest) :
    ∃ larger, (insertShown node target).run forest = .ok () larger := by
  obtain ⟨placed, _, inserted⟩ := Edit.run_insert_of_fresh present fresh .child
  obtain ⟨larger, _, updated⟩ := Edit.run_update_of_run_insert inserted (.setCollapsed false)
  refine ⟨larger, ?_⟩
  rw [run_insertShown, inserted]
  exact updated

/-- A subtree that was inserted and shown was inserted as a last child, and then its parent was
expanded. -/
theorem exists_of_run_insertShown {forest larger : Forest} {node : Node} {target : String}
    (run : (insertShown node target).run forest = .ok () larger) :
    ∃ placed, (Edit.insert node target .child).run forest = .ok () placed ∧
      (Edit.update target (.setCollapsed false)).run placed = .ok () larger := by
  rw [run_insertShown] at run
  cases inserted : (Edit.insert node target .child).run forest with
  | ok _ placed =>
    rw [inserted] at run
    exact ⟨placed, rfl, run⟩
  | error error reached =>
    rw [inserted] at run
    cases run

theorem gains_of_run_insertShown {forest larger : Forest} {node : Node} {target : String}
    (run : (insertShown node target).run forest = .ok () larger) : forest.Gains node larger := by
  obtain ⟨placed, inserted, updated⟩ := exists_of_run_insertShown run
  obtain ⟨other, gains, sameUpdate⟩ := Edit.run_update_of_run_insert inserted (.setCollapsed false)
  rw [updated] at sameUpdate
  cases sameUpdate
  exact gains

theorem run_showNew (session : Session) {id : String} (present : id ∈ session.document.ids)
    (startEditing : Bool) :
    (showNew id startEditing).run session = .ok () (session.shown id startEditing) := by
  cases startEditing with
  | false => rfl
  | true =>
    obtain ⟨node, found⟩ := Forest.exists_find?_of_mem_ids present
    simp [showNew, shown, run_beginEdit, found]

/-- The node that an addition makes at a place. -/
def newLeaf (session : Session) (text : Option String) (startEditing : Bool)
    (place : Float × Float) : Node :=
  Item.leaf { Item.plain session.allocateId.1 (textOfNew text startEditing) with
    x := place.1, y := place.2 }

theorem run_newNode (text : Option String) (startEditing : Bool) (place : Float × Float)
    (session : Session) : (newNode text startEditing place).run session =
      .ok (session.newLeaf text startEditing place)
        (session.countFrom session.allocateId.2.nextId) := rfl

theorem ids_newLeaf (text : Option String) (startEditing : Bool) (place : Float × Float)
    (session : Session) :
    (session.newLeaf text startEditing place).ids = [session.allocateId.1] := by
  simp [newLeaf, Node.ids_eq, Item.leaf, Item.plain]

theorem freshIn_newLeaf (text : Option String) (startEditing : Bool) (place : Float × Float)
    (session : Session) : (session.newLeaf text startEditing place).FreshIn session.document := by
  unfold Node.FreshIn
  rw [ids_newLeaf]
  refine ⟨by simp, fun id member => ?_⟩
  rw [List.mem_singleton.mp member]
  exact session.document.freeNumber_free session.nextId

/-- Fresh ids count as taken from the document, whatever number the next search starts from. -/
theorem run_mutate_countFrom {edit : Edit Unit} {larger : Forest}
    (run : edit.run session.document = .ok () larger) (nextId : Nat) :
    (mutate edit).run (session.countFrom nextId) =
      .ok () ((session.countFrom nextId).commit larger) := by
  have sameRun : edit.run (session.countFrom nextId).document = .ok () larger := run
  rw [run_mutate, sameRun]

/-- The outcome of a step that adds a subtree beside or below `anchor` and returns `value` of its
id. -/
def Adds {α : Type} (step : HostM Session α) (value : String → α) (anchor : String)
    (startEditing : Bool) (session : Session) : Prop :=
  (∃ node nextId larger, anchor ∈ session.document.ids ∧ session.document.Gains node larger ∧
    step.run session = .ok (value node.id) (session.grown nextId larger node.id startEditing)) ∨
  (anchor ∉ session.document.ids ∧ step.run session = .error (.nodeNotFound anchor) session)

/-- The same outcome, with the edit that added the subtree. -/
def AddsBy {α : Type} (insertion : Node → Edit Unit) (step : HostM Session α)
    (value : String → α) (anchor : String) (startEditing : Bool) (session : Session) : Prop :=
  (∃ node nextId larger, anchor ∈ session.document.ids ∧
    (insertion node).run session.document = .ok () larger ∧
    step.run session = .ok (value node.id) (session.grown nextId larger node.id startEditing)) ∨
  (anchor ∉ session.document.ids ∧ step.run session = .error (.nodeNotFound anchor) session)

theorem AddsBy.adds {α : Type} {insertion : Node → Edit Unit} {step : HostM Session α}
    {value : String → α} {anchor : String} {startEditing : Bool}
    (addsBy : AddsBy insertion step value anchor startEditing session)
    (gains : ∀ node larger, (insertion node).run session.document = .ok () larger →
      session.document.Gains node larger) : Adds step value anchor startEditing session := by
  rcases addsBy with ⟨node, nextId, larger, present, inserted, run⟩ | missing
  · exact .inl ⟨node, nextId, larger, present, gains node larger inserted, run⟩
  · exact .inr missing

/-- A new leaf that can be inserted is added and shown. -/
theorem run_addition (insertion : Node → Edit Unit) {place : Float × Float} {larger : Forest}
    {text : Option String} {startEditing : Bool}
    (inserted : (insertion (session.newLeaf text startEditing place)).run session.document =
      .ok () larger)
    (gains : session.document.Gains (session.newLeaf text startEditing place) larger) :
    (do
      let node ← newNode text startEditing place
      mutate (insertion node)
      showNew node.id startEditing
      return some node.id : HostM Session (Option String)).run session =
      .ok (some (session.newLeaf text startEditing place).id)
        (session.grown session.allocateId.2.nextId larger
          (session.newLeaf text startEditing place).id startEditing) := by
  have shown := run_showNew ((session.countFrom session.allocateId.2.nextId).commit larger)
    gains.id_mem_ids startEditing
  simp only [EStateM.run_bind, run_newNode, run_mutate_countFrom inserted, shown,
    EStateM.run_pure, grown]

/-- Below a node that is there, a new leaf is added. -/
theorem run_addChildNode_of_found {parentId : String} {parent : Node}
    (found : session.document.find? parentId = some parent) (text : Option String)
    (startEditing : Bool) :
    ∃ node larger, node.ids = [session.allocateId.1] ∧
      (insertShown node parentId).run session.document = .ok () larger ∧
      (addChildNode parentId text startEditing).run session =
        .ok (some node.id)
          (session.grown session.allocateId.2.nextId larger node.id startEditing) := by
  obtain ⟨larger, inserted⟩ := run_insertShown_of_fresh (Forest.mem_ids_of_find? found)
    (session.freshIn_newLeaf text startEditing (childSlot parent))
  refine ⟨_, larger, session.ids_newLeaf _ _ _, inserted, ?_⟩
  unfold addChildNode
  rw [EStateM.run_bind, run_findNode, found]
  exact run_addition (insertShown · parentId) inserted
    (gains_of_run_insertShown inserted)

/-- Beside a node that is there, a new leaf is added. -/
theorem run_addSiblingNode_of_found {anchorId : String} {anchor : Node}
    (found : session.document.find? anchorId = some anchor) (text : Option String)
    (startEditing : Bool) :
    ∃ node larger, node.ids = [session.allocateId.1] ∧
      (Edit.insert node anchorId .after).run session.document = .ok () larger ∧
      (addSiblingNode anchorId text startEditing).run session =
        .ok (some node.id)
          (session.grown session.allocateId.2.nextId larger node.id startEditing) := by
  obtain ⟨larger, _, inserted⟩ := Edit.run_insert_of_fresh (Forest.mem_ids_of_find? found)
    (session.freshIn_newLeaf text startEditing (anchor.x, anchor.y + siblingSpacing)) .after
  refine ⟨_, larger, session.ids_newLeaf _ _ _, inserted, ?_⟩
  unfold addSiblingNode
  rw [EStateM.run_bind, run_findNode, found]
  exact run_addition (Edit.insert · anchorId .after) inserted
    (Edit.gains_of_run_insert inserted)

theorem addsBy_addChildNode (parentId : String) (text : Option String) (startEditing : Bool)
    (session : Session) :
    AddsBy (insertShown · parentId) (addChildNode parentId text startEditing) some parentId
      startEditing session := by
  cases found : session.document.find? parentId with
  | none =>
    refine .inr ⟨Forest.find?_eq_none_iff.mp found, ?_⟩
    simp only [addChildNode, EStateM.run_bind, run_findNode, found]
  | some parent =>
    obtain ⟨node, larger, -, inserted, run⟩ := run_addChildNode_of_found found text startEditing
    exact .inl ⟨node, _, larger, Forest.mem_ids_of_find? found, inserted, run⟩

theorem adds_addChildNode (parentId : String) (text : Option String) (startEditing : Bool)
    (session : Session) :
    Adds (addChildNode parentId text startEditing) some parentId startEditing session :=
  (addsBy_addChildNode parentId text startEditing session).adds fun _ _ => gains_of_run_insertShown

theorem addsBy_addSiblingNode (anchorId : String) (text : Option String) (startEditing : Bool)
    (session : Session) :
    AddsBy (Edit.insert · anchorId .after) (addSiblingNode anchorId text startEditing) some anchorId
      startEditing session := by
  cases found : session.document.find? anchorId with
  | none =>
    refine .inr ⟨Forest.find?_eq_none_iff.mp found, ?_⟩
    simp only [addSiblingNode, EStateM.run_bind, run_findNode, found]
  | some anchor =>
    obtain ⟨node, larger, -, inserted, run⟩ := run_addSiblingNode_of_found found text startEditing
    exact .inl ⟨node, _, larger, Forest.mem_ids_of_find? found, inserted, run⟩

theorem adds_addSiblingNode (anchorId : String) (text : Option String) (startEditing : Bool)
    (session : Session) :
    Adds (addSiblingNode anchorId text startEditing) some anchorId startEditing session :=
  (addsBy_addSiblingNode anchorId text startEditing session).adds fun _ _ =>
    Edit.gains_of_run_insert

/-- The subtree that pasting a copied one puts below a node. -/
def pasted (session : Session) (copied parent : Node) : Node :=
  let renumbered := (copied.renumber session.document session.nextId).1
  renumbered.shift ((childSlot parent).1 - renumbered.x) ((childSlot parent).2 - renumbered.y)

/-- Pasting below a node that is there succeeds, and puts the copied subtree with fresh ids there. -/
theorem run_pasteNode_of_found {copied parent : Node} {parentId : String}
    (clipboard : session.clipboard = some copied)
    (found : session.document.find? parentId = some parent) :
    ∃ larger,
      (insertShown (session.pasted copied parent) parentId).run session.document = .ok () larger ∧
      (pasteNode parentId).run session =
        .ok () (session.grown (copied.renumber session.document session.nextId).2 larger
          (session.pasted copied parent).id false) := by
  have present := Forest.mem_ids_of_find? found
  have fresh : (session.pasted copied parent).FreshIn session.document :=
    copied.freshIn_renumber session.document session.nextId _ _
  obtain ⟨larger, inserted⟩ := run_insertShown_of_fresh present fresh
  let nextId := (copied.renumber session.document session.nextId).2
  refine ⟨larger, inserted, ?_⟩
  have mutated : (mutate (insertShown (session.pasted copied parent) parentId)).run
      (session.countFrom nextId) = .ok () ((session.countFrom nextId).commit larger) :=
    run_mutate_countFrom inserted nextId
  unfold pasteNode
  rw [EStateM.run_bind, EStateM.run_get]
  dsimp only
  rw [clipboard]
  dsimp only
  rw [EStateM.run_bind, run_findNode, found]
  dsimp only
  change ((mutate (insertShown (session.pasted copied parent) parentId) >>= fun _ =>
    modify (·.setSelection (some (session.pasted copied parent).id)) :
    HostM Session Unit).run (session.countFrom nextId)) = _
  rw [EStateM.run_bind, mutated]
  rfl

/-- Pasting adds the copied subtree with fresh ids, and never begins an edit. -/
theorem addsBy_pasteNode {copied : Node} (clipboard : session.clipboard = some copied)
    (parentId : String) :
    AddsBy (insertShown · parentId) (pasteNode parentId) (fun _ => ()) parentId false session := by
  cases found : session.document.find? parentId with
  | none =>
    refine .inr ⟨Forest.find?_eq_none_iff.mp found, ?_⟩
    unfold pasteNode
    rw [EStateM.run_bind, EStateM.run_get]
    dsimp only
    rw [clipboard]
    dsimp only
    rw [EStateM.run_bind, run_findNode, found]
  | some parent =>
    obtain ⟨larger, inserted, run⟩ := run_pasteNode_of_found clipboard found
    exact .inl ⟨_, _, larger, Forest.mem_ids_of_find? found, inserted, run⟩

theorem adds_pasteNode {copied : Node} (clipboard : session.clipboard = some copied)
    (parentId : String) : Adds (pasteNode parentId) (fun _ => ()) parentId false session :=
  (addsBy_pasteNode clipboard parentId).adds fun _ _ => gains_of_run_insertShown

theorem run_pasteNode_of_empty (clipboard : session.clipboard = none) (parentId : String) :
    (pasteNode parentId).run session = .error (.failed "Clipboard is empty") session := by
  unfold pasteNode
  simp only [EStateM.run_bind, EStateM.run_get, clipboard]
  rfl

end Session

end MindMap
