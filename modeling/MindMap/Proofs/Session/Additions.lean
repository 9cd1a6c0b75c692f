import MindMap.Proofs.Outline.Relocation
import MindMap.Proofs.Session.Clipboard
import MindMap.Proofs.Session.Sight

/-!
# Additions touch only their slot

What a session adds to its document stands where it was asked for, under ids that were not there, and
taking it out again leaves the document as it was. A new child differs from a new sibling in one
thing: its parent is expanded, so that it shows. The parent is outside the subtree that is added, which
is therefore the same before and after.

Pasting is the addition of a copy. What the copy is of was settled when it was copied.
-/

namespace MindMap

/-- Change every item of a subtree, each by itself. -/
def Node.mapItems (change : Item → Item) (node : Node) : Node :=
  ⟨change node.toItem, node.children.mapItems change⟩

namespace Forest

variable {forest smaller larger others : Forest} {node : Node} {target : String}
  {above : Option Item} {left right : List Node}

/-! ### Slots and changes of items -/

theorem mapItems_ofRoots (change : Item → Item) (nodes : List Node) :
    (ofRoots nodes).mapItems change = ofRoots (nodes.map (·.mapItems change)) := by
  induction nodes with
  | nil => rfl
  | cons node rest inductionHypothesis =>
    rw [ofRoots, mapItems, inductionHypothesis]
    rfl

/-- A change of items leaves a slot where it is. -/
theorem Inserts.mapItems (inserts : Inserts node left right above smaller larger)
    (change : Item → Item) :
    Inserts (node.mapItems change) (left.map (·.mapItems change)) (right.map (·.mapItems change))
      (above.map change) (smaller.mapItems change) (larger.mapItems change) := by
  induction inserts with
  | roots =>
    simp only [mapItems_ofRoots, List.map_append, List.map_cons]
    exact .roots
  | children item rest =>
    simp only [Forest.mapItems, mapItems_ofRoots, List.map_append, List.map_cons]
    exact .children _ _
  | deeper item rest _ inductionHypothesis => exact .deeper _ _ inductionHypothesis
  | beside item children _ inductionHypothesis => exact .beside _ _ inductionHypothesis

theorem mapItems_node_of_forall {change : Item → Item}
    (unchanged : ∀ member ∈ node.forest.nodes, change member.toItem = member.toItem) :
    node.mapItems change = node := by
  have same : node.forest.mapItems change = node.forest := mapItems_of_forall unchanged
  injection same with item children
  rw [Node.mapItems, item, children]

/-! ### Outlines with a subtree more -/

/-- A subtree with new ids has been put at a target. Without it, `others` is left. -/
structure TakesIn (forest : Forest) (node : Node) (target : String) (placement : Placement)
    (others larger : Forest) : Prop where
  fresh : node.FreshIn forest
  stands : larger.StandsAt node target placement
  removes : (Edit.remove node.id).run larger = .ok node others

/-- An insertion adds a subtree and changes nothing else. -/
theorem Distinct.takesIn_of_insert (distinct : forest.Distinct) {placement : Placement}
    (run : (Edit.insert node target placement).run forest = .ok () larger) :
    forest.TakesIn node target placement forest larger := by
  obtain ⟨-, fresh, place⟩ := Edit.place?_of_run_insert run
  obtain ⟨above, left, right, inserts, meets⟩ := inserts_of_place? place
  obtain ⟨parent, rfl, stands⟩ := inserts.standsBetween
  have largerDistinct := (Edit.gains_of_run_insert run).distinct distinct
  exact ⟨fresh, ⟨parent, left, right, stands, meets⟩,
    Edit.run_remove_eq_ok_iff.mpr (inserts.take? largerDistinct)⟩

/-- Where a subtree is inserted and shown, its parent is expanded, and nothing else is changed. -/
theorem Distinct.takesIn_of_insertShown (distinct : forest.Distinct)
    (run : (Session.insertShown node target).run forest = .ok () larger) :
    forest.TakesIn node target .child (forest.expanded [target]) larger := by
  obtain ⟨placed, inserted, updated⟩ := Session.exists_of_run_insertShown run
  obtain ⟨present, fresh, place⟩ := Edit.place?_of_run_insert inserted
  obtain ⟨above, left, right, inserts, meets⟩ := inserts_of_place? place
  have gains := Edit.gains_of_run_insert inserted
  have placedDistinct := gains.distinct distinct
  obtain rfl : placed.expanded [target] = larger := by
    rw [Edit.run_update, placedDistinct.update?_expand (gains.mem_ids present)] at updated
    cases updated
    rfl
  have expandedDistinct : (placed.expanded [target]).Distinct := by
    rwa [Distinct, ids_expanded]
  let expand := fun item : Item =>
    if item.id ∈ [target] then { item with collapsed := false } else item
  have keepsId : ∀ item, (expand item).id = item.id := fun item => by
    dsimp only [expand]
    split <;> rfl
  -- The target is in the outline, so it is no node of the fresh subtree.
  have outside : node.mapItems expand = node := by
    refine mapItems_node_of_forall fun member inNode => if_neg fun isTarget => ?_
    have inIds : member.id ∈ node.ids := List.mem_map_of_mem inNode
    rw [List.mem_singleton.mp isTarget] at inIds
    exact fresh.2 target inIds present
  have shown := inserts.mapItems expand
  rw [outside] at shown
  obtain ⟨parent, sameItem, stands⟩ := shown.standsBetween
  refine ⟨fresh, ⟨parent, _, _, stands, ?_⟩,
    Edit.run_remove_eq_ok_iff.mpr (shown.take? expandedDistinct)⟩
  cases meets with
  | @child item left =>
    rw [sameItem, ← keepsId item]
    exact .child

end Forest

namespace Session

variable {session : Session}

/-! ### Additions of a session -/

/-- All that can come of adding to the document of a session. -/
structure GrowsInPlace (session : Session) : Prop where
  child : ∀ parentId text startEditing value after,
    (addChildNode parentId text startEditing).run session = .ok value after →
      ∃ node, value = some node.id ∧ after.selection = some node.id ∧
        session.document.TakesIn node parentId .child (session.document.expanded [parentId])
          after.document
  sibling : ∀ anchorId text startEditing value after,
    (addSiblingNode anchorId text startEditing).run session = .ok value after →
      ∃ node, value = some node.id ∧ after.selection = some node.id ∧
        session.document.TakesIn node anchorId .after session.document after.document
  paste : ∀ parentId after, (pasteNode parentId).run session = .ok () after →
    ∃ copied copy, session.clipboard = some copied ∧ copied.CopiedTo copy ∧
      after.selection = some copy.id ∧
      session.document.TakesIn copy parentId .child (session.document.expanded [parentId])
        after.document
  pasteSucceeds : ∀ copied parentId, session.clipboard = some copied →
    parentId ∈ session.document.ids → ∃ after, (pasteNode parentId).run session = .ok () after
  /-- What was copied can be pasted after anything that copies nothing, and in the same form. -/
  pasteOfCopied : ∀ id copied operations, session.document.find? id = some copied →
    (∀ operation ∈ operations, ¬operation.Copies) →
    let later := session.run (.call (.copyNode id) :: operations)
    ∀ parentId ∈ later.document.ids, ∃ copy after, (pasteNode parentId).run later = .ok () after ∧
      copied.CopiedTo copy ∧ after.selection = some copy.id ∧
      later.document.TakesIn copy parentId .child (later.document.expanded [parentId])
        after.document

theorem selection_grown (session : Session) (nextId : Nat) (larger : Forest) (id : String)
    (startEditing : Bool) :
    (session.grown nextId larger id startEditing).selection = some id :=
  selection_shown _ id startEditing

/-- What an addition that succeeds has done to the document. -/
theorem AddsBy.takesIn {α : Type} {insertion : Node → Edit Unit} {step : HostM Session α}
    {given : String → α} {anchor : String} {startEditing : Bool} {value : α} {after : Session}
    {placement : Placement} {others : Forest}
    (addsBy : AddsBy insertion step given anchor startEditing session)
    (takesIn : ∀ node larger, (insertion node).run session.document = .ok () larger →
      session.document.TakesIn node anchor placement others larger)
    (run : step.run session = .ok value after) :
    ∃ node, value = given node.id ∧ after.selection = some node.id ∧
      session.document.TakesIn node anchor placement others after.document := by
  rcases addsBy with ⟨node, nextId, larger, -, inserted, added⟩ | ⟨-, missing⟩
  · rw [added] at run
    cases run
    rw [document_grown, selection_grown]
    exact ⟨node, rfl, rfl, takesIn node larger inserted⟩
  · rw [missing] at run
    cases run

/-- With a copied subtree and a node to paste it below, pasting succeeds. -/
theorem Consistent.pastes (consistent : session.Consistent) {copied : Node} {parentId : String}
    (clipboard : session.clipboard = some copied) (present : parentId ∈ session.document.ids) :
    ∃ copy after, (pasteNode parentId).run session = .ok () after ∧ copied.CopiedTo copy ∧
      after.selection = some copy.id ∧
      session.document.TakesIn copy parentId .child (session.document.expanded [parentId])
        after.document := by
  obtain ⟨parent, found⟩ := Forest.exists_find?_of_mem_ids present
  obtain ⟨larger, inserted, run⟩ := run_pasteNode_of_found clipboard found
  refine ⟨_, _, run, copied.copiedTo_renumber _ _ _ _, selection_grown .., ?_⟩
  rw [document_grown]
  exact consistent.document_distinct.takesIn_of_insertShown inserted

theorem clipboard_of_copyNode {id : String} {copied : Node}
    (found : session.document.find? id = some copied) :
    (session.perform (.call (.copyNode id))).clipboard = some copied := by
  have run : (copyNode id).run session = .ok () { session with clipboard := some copied } := by
    rw [run_copyNode, found]
  change ((copyNode id).silently.after session).clipboard = _
  rw [HostM.after_silently, HostM.after_of_ok run]

/-- Additions touch only their slot, in every session that can be reached. -/
theorem Reachable.growsInPlace (reachable : session.Reachable) : session.GrowsInPlace := by
  have consistent := reachable.consistent
  have distinct := consistent.document_distinct
  constructor
  case child =>
    intro parentId text startEditing value after run
    exact (addsBy_addChildNode parentId text startEditing session).takesIn
      (fun _ _ => distinct.takesIn_of_insertShown) run
  case sibling =>
    intro anchorId text startEditing value after run
    exact (addsBy_addSiblingNode anchorId text startEditing session).takesIn
      (fun _ _ => distinct.takesIn_of_insert) run
  case paste =>
    intro parentId after run
    cases clipboard : session.clipboard with
    | none =>
      rw [run_pasteNode_of_empty clipboard] at run
      cases run
    | some copied =>
      rcases adds_pasteNode clipboard parentId with ⟨-, -, -, present, -⟩ | ⟨-, missing⟩
      · obtain ⟨copy, pasted, samePaste, isCopy, selected, takesIn⟩ :=
          consistent.pastes clipboard present
        rw [run] at samePaste
        cases samePaste
        exact ⟨copied, copy, rfl, isCopy, selected, takesIn⟩
      · rw [missing] at run
        cases run
  case pasteSucceeds =>
    intro copied parentId clipboard present
    obtain ⟨copy, after, run, -⟩ := consistent.pastes clipboard present
    exact ⟨after, run⟩
  case pasteOfCopied =>
    intro id copied operations found noCopies later parentId present
    have laterConsistent : later.Consistent := (reachable.run _).consistent
    have clipboard : later.clipboard = some copied :=
      (clipboard_run _ noCopies).trans (clipboard_of_copyNode found)
    exact laterConsistent.pastes clipboard present

/-- A session in which the trunk has been copied, with what has grown from it. -/
def copying : Session := sprouting.run [.call (.copyNode "trunk")]

/-- The trunk can be pasted below its own child. -/
theorem pastes_trunk_below_its_child :
    copying.Reachable ∧ ∃ copied copy after, copying.clipboard = some copied ∧
      (pasteNode "node-1").run copying = .ok () after ∧ copied.CopiedTo copy ∧
      after.document.ids = ["trunk", "node-1", "node-2", "node-3"] ∧
      (Edit.remove "node-2").run after.document =
        .ok copy (copying.document.expanded ["node-1"]) := by
  have reachable : copying.Reachable := reachable_sprouting.run _
  obtain ⟨copied, copy, clipboard, isCopy, selected, takesIn⟩ :=
    reachable.growsInPlace.paste "node-1" _ rfl
  have sameId : "node-2" = copy.id := Option.some.inj selected
  have removes := takesIn.removes
  rw [← sameId] at removes
  exact ⟨reachable, copied, copy, _, clipboard, rfl, isCopy, rfl, removes⟩

end Session

end MindMap
