import MindMap.Proofs.Command.Sight

/-!
# Lines that begin edits

A session at rest has no open edit and is not in insert mode. Nothing that is asked of it disturbs
that, but the four requests that begin an edit, and of the actions only two make these: those that
edit a node, and those that add one. An edit that a line has begun is of the selected node, since the
action that begins it makes no other request. So a line leaves a session at rest or with such an edit,
and ending the edit brings the session to rest again.

What becomes of an edit that is open while something else is asked is not described here.
-/

namespace MindMap

open CommandLine

variable {ε : Type}

/-- The request begins an edit where it succeeds. -/
def Request.BeginsEdit : Request → Prop
  | addChildNode _ _ startEditing | addSiblingNode _ _ startEditing => startEditing = true
  | startEditAtStart _ | startEditAtEnd _ => True
  | _ => False

namespace Session

variable {session after : Session}

/-- Nothing is being edited, and keys are not text. -/
structure AtRest (session : Session) : Prop where
  editing : session.editing = none
  mode : session.mode ≠ .insert

/-- The selected node is being edited. -/
structure Edits (session : Session) : Prop where
  mode : session.mode = .insert
  editing : ∃ edit, session.editing = some edit ∧ session.selection = some edit.id

/-! ### Changes -/

namespace AtRest

/-- Rest is a matter of the mode and the edit alone. -/
theorem congr (atRest : session.AtRest) (mode : after.mode = session.mode)
    (editing : after.editing = session.editing) : after.AtRest :=
  ⟨editing.trans atRest.editing, mode ▸ atRest.mode⟩

theorem setSelection (atRest : session.AtRest) (id : Option String) :
    (session.setSelection id).AtRest :=
  atRest.congr (session.mode_setSelection id) (session.editing_setSelection id)

theorem commit (atRest : session.AtRest) (document : Forest) : (session.commit document).AtRest :=
  atRest.congr rfl rfl

theorem forgetMissing (atRest : session.AtRest) : session.forgetMissing.AtRest := by
  have selected : session.forgetSelection.AtRest :=
    atRest.congr session.mode_forgetSelection session.editing_forgetSelection
  rw [forgetMissing_eq, forgetEdit, selected.editing]
  exact selected

/-- Where nothing is to be edited, adding a node does not disturb. -/
theorem grown (atRest : session.AtRest) (nextId : Nat) (larger : Forest) (id : String) :
    (session.grown nextId larger id false).AtRest := by
  have committed : ((session.countFrom nextId).commit larger).AtRest := atRest.congr rfl rfl
  exact committed.setSelection (some id)

end AtRest

theorem edits_startEdit (session : Session) (id : String) (cursor : CursorPlacement) :
    (session.startEdit id cursor).Edits :=
  ⟨rfl, _, rfl, session.selection_startEdit id cursor⟩

theorem atRest_setMode (session : Session) : (session.setMode .normal).AtRest := by
  refine ⟨?_, by simp⟩
  rw [editing_setMode]
  rfl

/-! ### Calls -/

namespace AtRest

variable {α : Type} {step : HostM Session α}

theorem of_ok {value : α} (run : step.run session = .ok value after) (atRest : after.AtRest) :
    (step.after session).AtRest := by
  rwa [HostM.after_of_ok run]

theorem of_error (atRest : session.AtRest) {failure : Failure}
    (run : step.run session = .error failure session) : (step.after session).AtRest := by
  rwa [HostM.after_of_error run]

/-- A step that looks a node up and leaves rest undisturbed if it is there. -/
theorem of_found {step : HostM Session Unit} {id : String} {after : Node → Session}
    (atRest : session.AtRest)
    (run : step.run session = match session.document.find? id with
      | some node => .ok () (after node)
      | none => .error (.nodeNotFound id) session)
    (found : ∀ node, (after node).AtRest) : (step.after session).AtRest := by
  split at run
  · exact .of_ok run (found _)
  · exact atRest.of_error run

theorem adds (atRest : session.AtRest) {value : String → α} {anchor : String}
    (adds : Adds step value anchor false session) : (step.after session).AtRest := by
  rcases adds with ⟨node, nextId, larger, _, _, run⟩ | ⟨_, run⟩
  · exact .of_ok run (atRest.grown nextId larger node.id)
  · exact atRest.of_error run

theorem updateNode (atRest : session.AtRest) (id : String) (update : Update) :
    ((Session.updateNode id update).after session).AtRest := by
  have run := run_updateNode id update session
  split at run
  · exact .of_ok run atRest
  · split at run
    · exact .of_ok run (atRest.commit _)
    · exact atRest.of_error run

theorem deleteNode (atRest : session.AtRest) (id : String) :
    ((Session.deleteNode id).after session).AtRest := by
  have run := run_deleteNode id session
  split at run
  · next document _ =>
    have committed := atRest.commit document
    refine .of_ok run (forgetMissing ?_)
    split
    · exact committed.setSelection _
    · exact committed
  · exact atRest.of_error run

theorem navigateToDirection (atRest : session.AtRest) (direction : Direction) :
    ((Session.navigateToDirection direction).after session).AtRest := by
  have run := run_navigateToDirection direction session
  split at run
  · exact .of_ok run (atRest.setSelection _)
  · exact atRest.of_error run

theorem pasteNode (atRest : session.AtRest) (parentId : String) :
    ((Session.pasteNode parentId).after session).AtRest := by
  cases clipboard : session.clipboard with
  | none => exact atRest.of_error (run_pasteNode_of_empty clipboard parentId)
  | some copied => exact atRest.adds (adds_pasteNode clipboard parentId)

theorem undo (atRest : session.AtRest) : (Session.undo.after session).AtRest := by
  have run := run_undo session
  split at run
  · exact atRest.of_error run
  · exact .of_ok run (forgetMissing (atRest.congr rfl rfl))

theorem redo (atRest : session.AtRest) : (Session.redo.after session).AtRest := by
  have run := run_redo session
  split at run
  · exact atRest.of_error run
  · exact .of_ok run (forgetMissing (atRest.congr rfl rfl))

theorem selectNode (atRest : session.AtRest) (id : Option String) :
    ((Session.selectNode id).after session).AtRest := by
  cases id with
  | none => exact atRest.setSelection none
  | some id => exact atRest.of_found (run_selectNode (some id) session) fun _ => atRest.setSelection _

theorem toggleCollapse (atRest : session.AtRest) (id : String) :
    ((Session.toggleCollapse id).after session).AtRest := by
  have run := run_toggleCollapse id session
  split at run
  · split at run
    · next document _ =>
      have committed := atRest.commit document
      dsimp only at run
      split at run
      · exact .of_ok run (committed.setSelection _)
      · exact .of_ok run committed
    · exact atRest.of_error run
  · exact atRest.of_error run

theorem moveNode (atRest : session.AtRest) (consistent : session.Consistent) (id target : String)
    (placement : Placement) : ((Session.moveNode id target placement).after session).AtRest := by
  rcases run_moveNode consistent.document_distinct id target placement with
    ⟨document, _, run⟩ | ⟨failure, run⟩
  · exact .of_ok run (atRest.commit document)
  · exact atRest.of_error run

theorem openContextMenu (atRest : session.AtRest) (x y : Float) (id : Option String) :
    ((Session.openContextMenu x y id).after session).AtRest := by
  cases id with
  | none => exact atRest.congr rfl rfl
  | some id =>
    exact atRest.of_found (run_openContextMenu x y (some id) session) fun _ =>
      (atRest.setSelection (some id)).congr rfl rfl

theorem closing (atRest : session.AtRest) {isOpen : Bool} {closed : Session}
    (mode : closed.mode = session.mode) (editing : closed.editing = session.editing) :
    (if isOpen then closed.announce .panels else session).AtRest := by
  split
  · exact atRest.congr mode editing
  · exact atRest

theorem silently (atRest : (step.after session).AtRest) : (step.silently.after session).AtRest := by
  rwa [HostM.after_silently]

/-- Only beginning an edit disturbs a session at rest. -/
theorem call (atRest : session.AtRest) (consistent : session.Consistent) {request : Request}
    (quiet : ¬request.BeginsEdit) : (request.make.after session).AtRest := by
  cases request with
  | updateNode id update => exact (atRest.updateNode id update).silently
  | deleteNode id => exact (atRest.deleteNode id).silently
  | navigateToDirection direction => exact (atRest.navigateToDirection direction).silently
  | addChildNode id text startEditing =>
    obtain rfl : startEditing = false := eq_false_of_ne_true quiet
    exact atRest.adds (adds_addChildNode id text false session)
  | addSiblingNode id text startEditing =>
    obtain rfl : startEditing = false := eq_false_of_ne_true quiet
    exact atRest.adds (adds_addSiblingNode id text false session)
  | copyNode id =>
    have copied := atRest.of_found (run_copyNode id session) fun _ => atRest.congr rfl rfl
    exact copied.silently
  | pasteNode id => exact (atRest.pasteNode id).silently
  | undo => exact atRest.undo.silently
  | redo => exact atRest.redo.silently
  | startEditAtStart id => exact absurd trivial quiet
  | startEditAtEnd id => exact absurd trivial quiet
  | selectNode id => exact (atRest.selectNode id).silently
  | closeLists =>
    have closed : (Session.closeLists.after session).AtRest := atRest.closing rfl rfl
    exact closed.silently
  | toggleCollapse id => exact (atRest.toggleCollapse id).silently
  | moveNode id target placement => exact (atRest.moveNode consistent id target placement).silently
  | centerOnNode id =>
    have centered := atRest.of_found (run_centerOnNode id session) fun _ => atRest.congr rfl rfl
    exact centered.silently
  | openContextMenu x y id => exact (atRest.openContextMenu x y id).silently
  | closeContextMenu =>
    have closed : (Session.closeContextMenu.after session).AtRest := atRest.closing rfl rfl
    exact closed.silently

end AtRest

/-! ### Ending an edit -/

/-- The end of an edit brings a session to rest, whatever text is given. -/
theorem Consistent.atRest_of_finishEdit (consistent : session.Consistent)
    (edits : session.Edits) (text : String) :
    ∃ after, (finishEdit (some text)).run session = .ok () after ∧ after.AtRest := by
  obtain ⟨edit, isOpen, -⟩ := edits.editing
  obtain ⟨document, changed⟩ :=
    Forest.exists_update?_of_mem_ids (consistent.editing edit isOpen) (.setText text)
  rw [run_finishEdit, isOpen]
  dsimp only
  split
  · exact ⟨_, rfl, atRest_setMode _⟩
  · rw [changed]
    exact ⟨_, rfl, atRest_setMode _⟩

/-! ### Lines -/

/-- An action that neither edits nor adds makes no request that begins an edit. -/
theorem not_beginsEdit_of_mayMake {action : Action} {request : Request}
    (noEdit : ∀ cursor, action ≠ .edit cursor) (noAddition : ∀ place, action ≠ .add place)
    (may : action.MayMake request) : ¬request.BeginsEdit := by
  cases action with
  | edit cursor => exact absurd rfl (noEdit cursor)
  | add place => exact absurd rfl (noAddition place)
  | _ => cases request <;> first | exact id | cases may

/-- A node that has been added is the only thing edited, if anything is. -/
theorem AtRest.addition {α : Type} {step : HostM Session α} {given : String → α}
    {anchor : String} {startEditing : Bool} (atRest : session.AtRest)
    (adds : Adds step given anchor startEditing session) {value : α}
    (run : step.run session = .ok value after) : after.AtRest ∨ after.Edits := by
  rcases adds with ⟨node, nextId, larger, _, _, added⟩ | ⟨_, failed⟩
  · rw [run] at added
    cases added
    cases startEditing with
    | false => exact .inl (atRest.grown nextId larger node.id)
    | true => exact .inr (edits_startEdit _ node.id .atEnd)
  · rw [run] at failed
    cases failed

theorem AtRest.add (atRest : session.AtRest) {context : Context ε} {args : Arguments}
    {place : NewNodePlace} {message : Option String}
    (run : (context.add args place).run session = .ok (.done message) after) :
    after.AtRest ∨ after.Edits := by
  obtain ⟨target, -, run⟩ := exists_target_of_ok run
  cases place with
  | child =>
    obtain ⟨created, middle, added, replied⟩ := HostM.run_bind_eq_ok.mp run
    cases created <;> cases replied
    exact atRest.addition (adds_addChildNode target.id _ _ session) added
  | sibling =>
    obtain ⟨created, middle, added, replied⟩ := HostM.run_bind_eq_ok.mp run
    cases created <;> cases replied
    exact atRest.addition (adds_addSiblingNode target.id _ _ session) added

theorem edits_of_beginEdit {id : String} {cursor : CursorPlacement}
    (run : (beginEdit id cursor).run session = .ok () after) : after.Edits := by
  rw [run_beginEdit] at run
  split at run
  · cases run
    exact edits_startEdit session id cursor
  · cases run

theorem edits_of_edit {context : Context ε} {args : Arguments} {cursor : CursorPlacement}
    {message : Option String}
    (run : (context.edit args cursor).run session = .ok (.done message) after) : after.Edits := by
  obtain ⟨target, -, run⟩ := exists_target_of_ok run
  cases cursor
  all_goals
    obtain ⟨_, _, begun, replied⟩ := HostM.run_bind_eq_ok.mp run
    cases replied
    exact edits_of_beginEdit begun

/-- An action leaves a session at rest or with an edit of the selected node. -/
theorem AtRest.action [TextWidth] (atRest : session.AtRest) (consistent : session.Consistent)
    {action : Action} {context : Context ε} {args : Arguments} {message : Option String}
    (run : (action.run context args).run session = .ok (.done message) after) :
    after.AtRest ∨ after.Edits := by
  have leads := action.byCalls_run context args session
  rw [HostM.after_of_ok run] at leads
  have quiet : (∀ cursor, action ≠ .edit cursor) → (∀ place, action ≠ .add place) →
      after.AtRest := by
    intro noEdit noAddition
    refine consistent.invariant_of_leads (fun _ _ kept may rests => ?_) leads atRest
    exact rests.call kept (not_beginsEdit_of_mayMake noEdit noAddition may)
  cases action with
  | edit cursor => exact .inr (edits_of_edit run)
  | add place => exact atRest.add run
  | _ => exact .inl (quiet nofun nofun)

/-- So does a line, whatever becomes of it. -/
theorem Consistent.atRest_or_edits_of_executeLine [TextWidth] (consistent : session.Consistent)
    (atRest : session.AtRest) (registry : Registry Action) (line : String) :
    (registry.executeLine line session).2.AtRest ∨
      (registry.executeLine line session).2.Edits := by
  cases done : (registry.executeLine line session).1.isDone with
  | false =>
    rw [consistent.of_refused_executeLine done]
    exact .inl atRest
  | true =>
    obtain ⟨command, invocation, checked, message, ran⟩ := Registry.ran_of_done done
    exact atRest.action consistent ran.run

end Session

end MindMap
