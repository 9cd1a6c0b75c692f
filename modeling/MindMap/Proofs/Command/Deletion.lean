import MindMap.Proofs.Command.Refusals
import MindMap.Proofs.Command.StockLines

/-!
# Nodes are lost to deletions alone

Of all requests only a deletion, an undo and a redo can lose a node of the document, and only a
deletion can empty one. The stock command `delete` asks for a deletion after it has looked at the
node: a root stays, and a node with children goes only if that was confirmed. So a stock line that
neither undoes nor redoes loses nothing, or the subtree of one such node, and no run of stock lines
empties a document that was not empty to begin with.

This is about stock lines. A call of the host interface can delete a root, and the last one too.
-/

namespace MindMap

open CommandLine

/-- The requests that can lose a node of the document. -/
def Request.CanLose : Request → Prop
  | deleteNode _ | undo | redo => True
  | _ => False

/-- Only one action makes each of these requests. -/
theorem Action.eq_of_mayMake {action : Action} {request : Request} (may : action.MayMake request)
    (canLose : request.CanLose) : action = .delete ∧ (∃ id, request = .deleteNode id) ∨
      action = .undo ∧ request = .undo ∨ action = .redo ∧ request = .redo := by
  cases request with
  | deleteNode id => cases action <;> first | exact .inl ⟨rfl, id, rfl⟩ | (simp [MayMake] at may)
  | undo => cases action <;> first | exact .inr (.inl ⟨rfl, rfl⟩) | (simp [MayMake] at may)
  | redo => cases action <;> first | exact .inr (.inr ⟨rfl, rfl⟩) | (simp [MayMake] at may)
  | _ => exact absurd canLose id

namespace Forest

variable {forest others : Forest} {node : Node} {id : String}

theorem hasRoot_eq_false_of_takeRoot? (notRoot : forest.hasRoot id = false) :
    forest.takeRoot? id = none := by
  induction forest with
  | nil => rfl
  | cons item children rest _ inductionHypothesis =>
    have differs : item.id ≠ id := by
      intro same
      simp [hasRoot, rootPosition?, same] at notRoot
    have notLater : rest.hasRoot id = false := by
      simpa [hasRoot, rootPosition?, differs] using notRoot
    simp [takeRoot?, differs, inductionHypothesis notLater]

/-- What lies below the roots leaves them behind when it is taken out. -/
theorem ids_ne_nil_of_takeBelow? (taken : forest.takeBelow? id = some (node, others)) :
    others.ids ≠ [] := by
  cases forest with
  | nil => simp [takeBelow?] at taken
  | cons item children rest =>
    unfold takeBelow? at taken
    split at taken
    · cases taken
      simp
    · obtain ⟨⟨found, left⟩, _, equal⟩ := Option.map_eq_some_iff.mp taken
      cases equal
      simp

/-- A subtree that is no root leaves a root behind when it is taken out. -/
theorem ids_ne_nil_of_take? (taken : forest.take? id = some (node, others))
    (notRoot : forest.hasRoot id = false) : others.ids ≠ [] := by
  unfold take? at taken
  rw [hasRoot_eq_false_of_takeRoot? notRoot, Option.none_or] at taken
  exact ids_ne_nil_of_takeBelow? taken

theorem ids_ne_nil_iff : forest.ids ≠ [] ↔ forest.isEmpty = false := by
  cases forest <;> simp [isEmpty]

end Forest

namespace Session

variable {session : Session}

/-- No node of the document is lost. -/
def Retains (before after : Session) : Prop := ∀ id ∈ before.document.ids, id ∈ after.document.ids

namespace Retains

theorem refl (session : Session) : session.Retains session := fun _ member => member

theorem trans {before middle after : Session} (first : before.Retains middle)
    (second : middle.Retains after) : before.Retains after :=
  fun id member => second id (first id member)

theorem of_document {after : Session} (same : after.document = session.document) :
    session.Retains after := by
  intro id member
  rwa [same]

theorem commit_of_update? {document : Forest} {id : String} {update : Update}
    (changed : session.document.update? id update = some document) :
    session.Retains (session.commit document) := by
  intro other member
  change other ∈ document.ids
  rwa [Forest.ids_of_update? changed]

theorem of_ok {α : Type} {step : HostM Session α} {value : α} {after : Session}
    (run : step.run session = .ok value after) (retains : session.Retains after) :
    session.Retains (step.after session) := by
  rwa [HostM.after_of_ok run]

theorem of_error {α : Type} {step : HostM Session α} {failure : Failure}
    (run : step.run session = .error failure session) : session.Retains (step.after session) := by
  rw [HostM.after_of_error run]
  exact .refl session

theorem silently {α : Type} {step : HostM Session α}
    (retains : session.Retains (step.after session)) :
    session.Retains (step.silently.after session) := by
  rwa [HostM.after_silently]

end Retains

/-! ### Requests that lose nothing -/

theorem retains_updateNode (id : String) (update : Update) (session : Session) :
    session.Retains ((updateNode id update).after session) := by
  have run := run_updateNode id update session
  split at run
  · exact .of_ok run (.refl session)
  · split at run
    · next changed => exact .of_ok run (.commit_of_update? changed)
    · exact .of_error run

theorem retains_toggleCollapse (id : String) (session : Session) :
    session.Retains ((toggleCollapse id).after session) := by
  have run := run_toggleCollapse id session
  split at run
  · split at run
    · next changed =>
      have committed := Retains.commit_of_update? changed
      dsimp only at run
      split at run
      · exact .of_ok run (committed.trans (.of_document (document_setSelection _ _)))
      · exact .of_ok run committed
    · exact .of_error run
  · exact .of_error run

theorem Adds.retains {α : Type} {step : HostM Session α} {value : String → α} {anchor : String}
    {startEditing : Bool} (adds : Adds step value anchor startEditing session) :
    session.Retains (step.after session) := by
  rcases adds with ⟨node, nextId, larger, _, gains, run⟩ | ⟨_, run⟩
  · refine .of_ok run fun id member => ?_
    rw [document_grown]
    exact gains.mem_ids member
  · exact .of_error run

theorem retains_pasteNode (parentId : String) (session : Session) :
    session.Retains ((pasteNode parentId).after session) := by
  cases clipboard : session.clipboard with
  | none => exact .of_error (run_pasteNode_of_empty clipboard parentId)
  | some copied => exact (adds_pasteNode clipboard parentId).retains

theorem retains_moveNode (distinct : session.document.Distinct) (id target : String)
    (placement : Placement) : session.Retains ((moveNode id target placement).after session) := by
  rcases run_moveNode distinct id target placement with ⟨document, sameIds, run⟩ | ⟨failure, run⟩
  · exact .of_ok run fun other member => sameIds.mem_iff.mpr member
  · exact .of_error run

/-- A step that stays where it is in the history keeps the document. -/
theorem Settles.retains {α : Type} {step : HostM Session α} (settles : Settles step .stay session) :
    session.Retains (step.after session) := by
  rcases settles with ⟨failure, run⟩ | ⟨value, after, run, _, stays⟩
  · exact .of_error run
  · exact .of_ok run (.of_document (documents_eq_of_history stays).2)

/-- No other request than a deletion, an undo or a redo loses a node. -/
theorem Consistent.retains_call (consistent : session.Consistent) {request : Request}
    (cannotLose : ¬request.CanLose) : session.Retains (request.make.after session) := by
  have settles := settles_call consistent request
  cases request with
  | deleteNode | undo | redo => exact absurd trivial cannotLose
  | updateNode id update => exact (retains_updateNode id update session).silently
  | toggleCollapse id => exact (retains_toggleCollapse id session).silently
  | pasteNode id => exact (retains_pasteNode id session).silently
  | moveNode id target placement =>
    exact (retains_moveNode consistent.document_distinct id target placement).silently
  | addChildNode id text startEditing =>
    exact (adds_addChildNode id text startEditing session).retains
  | addSiblingNode id text startEditing =>
    exact (adds_addSiblingNode id text startEditing session).retains
  | navigateToDirection | copyNode | startEditAtStart | startEditAtEnd | selectNode | closeLists
  | centerOnNode | openContextMenu | closeContextMenu => exact settles.retains

/-! ### Histories without an empty document -/

/-- No document of the history is empty. -/
def Populated (session : Session) : Prop := ∀ document ∈ session.documents, document.ids ≠ []

/-- A move in the history leads to known documents and at most one other, the current one. -/
theorem Moves.documents_subset {after : Session} {move : HistoryMove}
    (moves : session.Moves after move) :
    ∀ document ∈ after.documents, document = after.document ∨ document ∈ session.documents := by
  intro document
  cases move with
  | stay =>
    rw [(documents_eq_of_history moves).1]
    exact .inr
  | back =>
    obtain ⟨earlier, past, before, sameHistory⟩ := moves
    simp only [history, Prod.mk.injEq] at sameHistory
    simp only [documents, before, sameHistory, List.mem_append, List.mem_cons]
    grind
  | forward =>
    obtain ⟨later, future, before, sameHistory⟩ := moves
    simp only [history, Prod.mk.injEq] at sameHistory
    simp only [documents, before, sameHistory, List.mem_append, List.mem_cons]
    grind
  | record =>
    simp only [Moves, history, Prod.mk.injEq] at moves
    simp only [documents, moves, List.mem_append, List.mem_cons]
    have remembered : document ∈ remember session.document session.past →
      document = session.document ∨ document ∈ session.past := mem_remember
    grind

/-- Going back or forward leads to a document of the history. -/
theorem Moves.document_mem {after : Session} {move : HistoryMove} (moves : session.Moves after move)
    (old : move ≠ .record) : after.document ∈ session.documents := by
  cases move with
  | stay => simp [(documents_eq_of_history moves).2, documents]
  | back =>
    obtain ⟨earlier, past, before, sameHistory⟩ := moves
    simp only [history, Prod.mk.injEq] at sameHistory
    simp [documents, before, sameHistory]
  | forward =>
    obtain ⟨later, future, before, sameHistory⟩ := moves
    simp only [history, Prod.mk.injEq] at sameHistory
    simp [documents, before, sameHistory]
  | record => exact absurd rfl old

namespace Populated

theorem document_ids (populated : session.Populated) : session.document.ids ≠ [] :=
  populated session.document (by simp [documents])

theorem of_moves (populated : session.Populated) {after : Session} {move : HistoryMove}
    (moves : session.Moves after move) (present : after.document.ids ≠ []) : after.Populated := by
  intro document member
  rcases moves.documents_subset document member with rfl | known
  · exact present
  · exact populated document known

end Populated

theorem Retains.ids_ne_nil {after : Session} (retains : session.Retains after)
    (present : session.document.ids ≠ []) : after.document.ids ≠ [] := by
  obtain ⟨id, member⟩ := List.exists_mem_of_ne_nil _ present
  exact List.ne_nil_of_mem (retains id member)

/-- Only a deletion can empty the document. -/
theorem Consistent.populated_call (consistent : session.Consistent) (populated : session.Populated)
    {request : Request} (noDeletion : ∀ id, request ≠ .deleteNode id) :
    (request.make.after session).Populated := by
  rcases settles_call consistent request with ⟨failure, run⟩ | ⟨value, after, run, _, moves⟩
  · rwa [HostM.after_of_error run]
  · have reached : request.make.after session = after := HostM.after_of_ok run
    rw [reached]
    refine populated.of_moves moves ?_
    by_cases loses : request.CanLose
    · have old : request.move ≠ .record := by
        cases request <;> first | exact absurd rfl (noDeletion _) | exact absurd loses id | decide
      exact populated _ (moves.document_mem old)
    · have retains := consistent.retains_call loses
      rw [reached] at retains
      exact retains.ids_ne_nil populated.document_ids

/-! ### The command -/

/-- A deletion as the command guards it: what is missing afterwards is the subtree of the node that
the arguments mean. -/
structure GuardedDeletion (before after : Session) (args : Arguments) (node : Node) : Prop where
  target : (Context.now Registry.stock before).resolve args "nodeId" = .ok node.id
  found : before.document.find? node.id = some node
  notRoot : before.document.hasRoot node.id = false
  /-- There was nothing below the node, or its loss was confirmed. -/
  confirmed : node.children.isEmpty = true ∨ args.truth? "confirm" = some true
  missing : ∀ id, id ∈ before.document.ids ∧ id ∉ after.document.ids ↔ id ∈ node.ids
  /-- Something is left. -/
  left : after.document.ids ≠ []

theorem document_after_deleteNode {id : String} {node : Node} {others : Forest} {after : Session}
    (taken : session.document.take? id = some (node, others))
    (run : (deleteNode id).run session = .ok () after) : after.document = others := by
  rw [run_deleteNode, taken] at run
  cases run
  rw [document_forgetMissing]
  split
  · rw [document_setSelection, document_commit]
  · rw [document_commit]

/-- The action is done only if its guards let it ask for the deletion, and that succeeded. -/
theorem run_deleteNode_of_done {ε : Type} {context : Context ε} {args : Arguments} {message : Option String}
    {after : Session} (run : (context.delete args).run session = .ok (.done message) after) :
    ∃ node, context.resolve args "nodeId" = .ok node.id ∧
      session.document.find? node.id = some node ∧ session.document.hasRoot node.id = false ∧
      (node.children.isEmpty = true ∨ args.truth? "confirm" = some true) ∧
      (deleteNode node.id).run session = .ok () after := by
  unfold Context.delete at run
  rw [EStateM.run_bind, Context.run_target] at run
  cases resolved : context.resolve args "nodeId" with
  | error failure => simp [resolved] at run
  | ok id =>
    rw [resolved] at run
    dsimp only at run
    cases found : Host.findNode session id with
    | none => simp [found] at run
    | some node =>
      obtain ⟨_, rfl⟩ := Forest.mem_nodes_of_find? found
      rw [found] at run
      dsimp only at run
      split at run
      · cases run
      · next notRoot =>
        split at run
        · cases run
        · next allowed =>
          refine ⟨node, rfl, found, eq_false_of_ne_true notRoot, ?_, ?_⟩
          · cases children : node.children with
            | nil => exact .inl rfl
            | cons item children rest =>
              have agreed : (args.truth? "confirm").getD false = true := by
                simpa [children, Forest.roots] using allowed
              right
              cases answer : args.truth? "confirm" <;> simp_all
          · rw [EStateM.run_bind] at run
            split at run
            · next deleted =>
              cases run
              exact deleted
            · cases run

/-- What the action does when it is done. -/
theorem guardedDeletion_of_done (distinct : session.document.Distinct) {args : Arguments}
    {message : Option String} {after : Session}
    (run : ((Context.now Registry.stock session).delete args).run session =
      .ok (.done message) after) : ∃ node, session.GuardedDeletion after args node := by
  obtain ⟨node, target, found, notRoot, confirmed, deleted⟩ := run_deleteNode_of_done run
  obtain ⟨others, take, divides⟩ := distinct.exists_take? found
  obtain ⟨_, _, apart⟩ := divides.distinct_iff.mp distinct
  have left : after.document = others := document_after_deleteNode take deleted
  refine ⟨node, target, found, notRoot, confirmed, fun id => ?_, ?_⟩
  · rw [left, divides.mem_ids_iff]
    constructor
    · rintro ⟨inNode | inOthers, missing⟩
      · exact inNode
      · exact absurd inOthers missing
    · exact fun inNode => ⟨.inl inNode, apart id inNode⟩
  · rw [left]
    exact Forest.ids_ne_nil_of_take? take notRoot

theorem Consistent.populated_of_deletion (consistent : session.Consistent)
    (populated : session.Populated) {args : Arguments} {message : Option String} {after : Session}
    (run : ((Context.now Registry.stock session).delete args).run session =
      .ok (.done message) after) : after.Populated := by
  obtain ⟨_, deletion⟩ := guardedDeletion_of_done consistent.document_distinct run
  obtain ⟨node, _, _, _, _, deleted⟩ := run_deleteNode_of_done run
  exact populated.of_moves ((settles_deleteNode consistent node.id).moves_of_ok deleted)
    deletion.left

/-! ### Stock lines -/

section

variable [TextWidth]

theorem Consistent.of_refused_executeLine (consistent : session.Consistent)
    {registry : Registry Action} {line : String}
    (refused : (registry.executeLine line session).1.isDone = false) :
    (registry.executeLine line session).2 = session := by
  unfold Registry.executeLine at refused ⊢
  split at refused
  · rfl
  · exact consistent.of_refused_execute refused

/-- A stock line that neither undoes, redoes nor has deleted anything loses no node. -/
theorem Consistent.retains_executeLine (consistent : session.Consistent) {line : String}
    (noUndo : Registry.stock.named? line ≠ some "undo")
    (noRedo : Registry.stock.named? line ≠ some "redo")
    (noDelete : Registry.stock.named? line ≠ some "delete") :
    session.Retains (Registry.stock.executeLine line session).2 := by
  rcases Registry.stock.executeLine_cases line session with
    ⟨_, _, same⟩ | ⟨word, command, found, named, leads⟩
  · rw [same]
    exact .refl session
  · obtain ⟨delete, undo, redo⟩ :=
      Stock.executor_iff_name (Registry.mem_commands_of_get?_stock found)
    have cannotLose : ∀ request, command.executor.MayMake request → ¬request.CanLose := by
      intro request may canLose
      rcases Action.eq_of_mayMake may canLose with ⟨isAction, _⟩ | ⟨isAction, _⟩ | ⟨isAction, _⟩
      · exact noDelete (by rw [named, delete.mp isAction])
      · exact noUndo (by rw [named, undo.mp isAction])
      · exact noRedo (by rw [named, redo.mp isAction])
    refine consistent.invariant_of_leads (fun middle request kept may retains => ?_) leads
      (.refl session)
    exact retains.trans (kept.retains_call (cannotLose request may))

theorem Consistent.guardedDeletion_executeLine (consistent : session.Consistent) {line : String}
    (named : Registry.stock.named? line = some "delete")
    (done : (Registry.stock.executeLine line session).1.isDone = true) :
    ∃ args node, Registry.stock.checkedArgs? line = some args ∧
      session.GuardedDeletion (Registry.stock.executeLine line session).2 args node := by
  obtain ⟨command, invocation, checked, message, ran⟩ := Registry.ran_of_done done
  have isDelete : command.executor = .delete := by
    refine (Stock.executor_iff_name (Registry.mem_commands_of_get?_stock ran.found)).1.mpr ?_
    simpa [named] using ran.named.symm
  have run := ran.run
  rw [isDelete] at run
  obtain ⟨node, deletion⟩ := guardedDeletion_of_done consistent.document_distinct run
  exact ⟨checked.args, node, ran.args, deletion⟩

/-- A stock command, undo and redo included, empties no document. -/
theorem Consistent.populated_execute (consistent : session.Consistent)
    (populated : session.Populated) (invocation : Invocation) :
    (Registry.stock.execute invocation session).2.Populated := by
  cases done : (Registry.stock.execute invocation session).1.isDone with
  | false => rwa [consistent.of_refused_execute done]
  | true =>
    obtain ⟨command, checked, message, found, _, run⟩ := Registry.run_of_done_execute done
    by_cases isDelete : command.executor = .delete
    · rw [isDelete] at run
      exact consistent.populated_of_deletion populated run
    · have noDeletion : ∀ request, command.executor.MayMake request →
          ∀ id, request ≠ .deleteNode id := by
        rintro _ may id rfl
        rcases Action.eq_of_mayMake may trivial with ⟨isAction, _⟩ | ⟨_, other⟩ | ⟨_, other⟩
        · exact isDelete isAction
        · cases other
        · cases other
      refine consistent.invariant_of_leads (fun middle request kept may stays => ?_)
        (Registry.execute_leadsBy found session) populated
      exact kept.populated_call stays (noDeletion request may)

theorem Consistent.populated_executeLine (consistent : session.Consistent)
    (populated : session.Populated) (line : String) :
    (Registry.stock.executeLine line session).2.Populated := by
  unfold Registry.executeLine
  split
  · exact populated
  · exact consistent.populated_execute populated _

theorem Consistent.populated_run (consistent : session.Consistent) (populated : session.Populated)
    (lines : List String) :
    (session.run (lines.map (.executeLine Registry.stock))).Populated := by
  induction lines generalizing session with
  | nil => exact populated
  | cons line rest inductionHypothesis =>
    exact inductionHypothesis (consistent.keeps_perform (.executeLine Registry.stock line)).1
      (consistent.populated_executeLine populated line)

/-- Nodes are lost to deletions alone. A stock line that names neither `undo` nor `redo` keeps all
nodes, unless it names `delete` and is done: then exactly the subtree of its target is missing,
which was no root, and had nothing below it or was confirmed. And no run of stock lines empties a
document that was not empty when the session was opened on it. -/
theorem stock_lines_lose_nodes_to_guarded_deletions_alone :
    (∀ session : Session, session.Reachable → ∀ line : String,
      Registry.stock.named? line ≠ some "undo" → Registry.stock.named? line ≠ some "redo" →
      if Registry.stock.named? line = some "delete" ∧
          (Registry.stock.executeLine line session).1.isDone = true then
        ∃ args node, Registry.stock.checkedArgs? line = some args ∧
          session.GuardedDeletion (Registry.stock.executeLine line session).2 args node
      else session.Retains (Registry.stock.executeLine line session).2) ∧
    ∀ (document : Forest) (opened : Session), create document = .ok opened →
      document.isEmpty = false → ∀ lines : List String,
        (opened.run (lines.map (.executeLine Registry.stock))).document.isEmpty = false := by
  constructor
  · intro session reachable line noUndo noRedo
    have consistent := reachable.consistent
    split
    · next deleted => exact consistent.guardedDeletion_executeLine deleted.1 deleted.2
    · next notDeleted =>
      by_cases delete : Registry.stock.named? line = some "delete"
      · have refused : (Registry.stock.executeLine line session).1.isDone = false :=
          eq_false_of_ne_true fun done => notDeleted ⟨delete, done⟩
        rw [consistent.of_refused_executeLine refused]
        exact .refl session
      · exact consistent.retains_executeLine noUndo noRedo delete
  · intro document opened created notEmpty lines
    have populated : opened.Populated := by
      obtain ⟨_, rfl⟩ := create_eq_ok_iff.mp created
      intro other member
      obtain rfl : other = document := by simpa [documents, ofForest] using member
      exact Forest.ids_ne_nil_iff.mpr notEmpty
    exact Forest.ids_ne_nil_iff.mp
      ((consistent_create created).populated_run populated lines).document_ids

end

/-- A session on a document whose root has a child and a grandchild. -/
def branching : Session :=
  (ofForest sapling).run [.call (.addChildNode "trunk" (some "Branch") false),
    .call (.addChildNode "node-1" (some "Twig") false)]

theorem reachable_branching : branching.Reachable := ⟨sapling, _, _, rfl, rfl⟩

attribute [local instance] TextWidth.perCharacter

theorem confirmed_deletion_of_branch :
    (∃ args node,
      Registry.stock.checkedArgs? "delete --nodeId node-1 --confirm" = some args ∧
      branching.GuardedDeletion
        (Registry.stock.executeLine "delete --nodeId node-1 --confirm" branching).2 args node) ∧
    ((ofForest sapling).run (["delete --nodeId trunk --confirm", "undo"].map
      (.executeLine Registry.stock))).document.isEmpty = false := by
  have deletes := stock_lines_lose_nodes_to_guarded_deletions_alone.1 branching
    reachable_branching "delete --nodeId node-1 --confirm" (by decide) (by decide)
  rw [if_pos ⟨by decide, by decide⟩] at deletes
  exact ⟨deletes, stock_lines_lose_nodes_to_guarded_deletions_alone.2 sapling (ofForest sapling) rfl
    rfl _⟩

end Session

end MindMap
