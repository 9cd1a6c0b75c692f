import MindMap.Host.Calls
import MindMap.Proofs.Session.Consistency

/-!
# Calls settle

In a consistent session every operation settles: it fails and has done nothing, or it succeeds,
leads to a consistent session again and moves in the history in the one way that is its own.
`settles_call` collects this for all calls of the host interface, and `settles_finishEdit` says it
of the end of an edit, which moreover cannot fail.
-/

namespace MindMap

/-- What an operation does to the history of documents. -/
inductive HistoryMove where
  | stay
  | back
  | forward
  /-- Make a new document the latest one, with no future. -/
  | record
deriving DecidableEq, Repr

/-- How a request moves in the history when it succeeds. -/
def Request.move : Request → HistoryMove
  | updateNode _ update => if update.isEmpty then .stay else .record
  | deleteNode _ | addChildNode .. | addSiblingNode .. | pasteNode _ | toggleCollapse _
  | moveNode .. => .record
  | undo => .back
  | redo => .forward
  | navigateToDirection _ | copyNode _ | startEditAtStart _ | startEditAtEnd _ | selectNode _
  | closeLists | centerOnNode _ | openContextMenu .. | closeContextMenu => .stay

namespace Session

variable {session : Session}

/-- The move in the history from one session to another. -/
def Moves (before after : Session) : HistoryMove → Prop
  | .stay => after.history = before.history
  | .back => ∃ document past, before.past = document :: past ∧
      after.history = (past, document, before.document :: before.future)
  | .forward => ∃ document future, before.future = document :: future ∧
      after.history = (before.document :: before.past, document, future)
  | .record => after.history = (remember before.document before.past, after.document, [])

/-- The step fails without an effect, or leads to a consistent session and makes the move. -/
def Settles {α : Type} (step : HostM Session α) (move : HistoryMove) (session : Session) : Prop :=
  (∃ failure, step.run session = .error failure session) ∨
  ∃ value after, step.run session = .ok value after ∧ after.Consistent ∧ session.Moves after move

theorem Settles.silently {α : Type} {step : HostM Session α} {move : HistoryMove}
    (settles : Settles step move session) : Settles step.silently move session := by
  unfold Settles
  rw [HostM.run_silently]
  rcases settles with ⟨failure, run⟩ | ⟨value, after, run, settled⟩
  · rw [run]
    exact .inl ⟨failure, rfl⟩
  · rw [run]
    exact .inr ⟨none, after, rfl, settled⟩

theorem Settles.moves_of_ok {α : Type} {step : HostM Session α} {move : HistoryMove} {value : α}
    {after : Session} (settles : Settles step move session)
    (run : step.run session = .ok value after) : session.Moves after move := by
  rcases settles with ⟨failure, failed⟩ | ⟨_, _, succeeded, _, moves⟩
  · rw [run] at failed
    cases failed
  · rw [run] at succeeded
    cases succeeded
    exact moves

/-- A session with the history of a commit has recorded a document. -/
theorem moves_record {after : Session} {document : Forest}
    (history : after.history = (session.commit document).history) :
    session.Moves after .record := by
  have sameDocument : after.document = document := congrArg (·.2.1) history
  subst sameDocument
  exact history

/-- A step that leads to `after` without moving in the history. -/
theorem Settles.stay {α : Type} {step : HostM Session α} {value : α} {after : Session}
    (run : step.run session = .ok value after) (consistent : after.Consistent)
    (history : after.history = session.history) : Settles step .stay session :=
  .inr ⟨value, after, run, consistent, history⟩

/-! ### Changes of the document -/

theorem settles_updateNode (consistent : session.Consistent) (id : String) (update : Update) :
    Settles (updateNode id update) (if update.isEmpty then .stay else .record) session := by
  unfold Settles
  rw [run_updateNode]
  split
  · exact .inr ⟨(), session, rfl, consistent, rfl⟩
  · cases changed : session.document.update? id update with
    | none => exact .inl ⟨_, rfl⟩
    | some document =>
      have sameIds := Forest.ids_of_update? changed
      exact .inr ⟨(), _, rfl, consistent.commit_of_perm (.of_eq sameIds), rfl⟩

theorem settles_deleteNode (consistent : session.Consistent) (id : String) :
    Settles (deleteNode id) .record session := by
  unfold Settles
  rw [run_deleteNode]
  cases taken : session.document.take? id with
  | none => exact .inl ⟨_, rfl⟩
  | some parts =>
    obtain ⟨node, document⟩ := parts
    have divides := (Forest.divides_of_take? taken).1
    have distinct := (divides.distinct_iff.mp consistent.document_distinct).2.1
    refine .inr ⟨(), _, rfl, ?_, moves_record (?_ : _ = (session.commit document).history)⟩
    · apply Consistent.forgetMissing
      · split
        · rw [(documents_eq_of_history (history_setSelection _ _)).1]
          exact consistent.distinct_commit distinct
        · exact consistent.distinct_commit distinct
      · split
        · rw [editing_setSelection, mode_setSelection]
          exact consistent.mode
        · exact consistent.mode
    · rw [history_forgetMissing]
      split <;> simp

/-- Adding a subtree settles, be it a new node or a pasted subtree. -/
theorem Adds.settles {α : Type} {step : HostM Session α} {value : String → α} {anchor : String}
    {startEditing : Bool} (adds : Adds step value anchor startEditing session)
    (consistent : session.Consistent) : Settles step .record session := by
  rcases adds with ⟨node, nextId, larger, _, gains, run⟩ | ⟨_, run⟩
  · refine .inr ⟨_, _, run, ?_, ?_⟩
    · have counted : (session.countFrom nextId).Consistent := consistent.congr rfl rfl rfl rfl
      have committed : ((session.countFrom nextId).commit larger).Consistent :=
        counted.commit (gains.distinct consistent.document_distinct) fun _ => gains.mem_ids
      exact committed.shown gains.id_mem_ids startEditing
    · exact moves_record (session.history_grown nextId larger node.id startEditing)
  · exact .inl ⟨_, run⟩

theorem settles_pasteNode (consistent : session.Consistent) (parentId : String) :
    Settles (pasteNode parentId) .record session := by
  cases clipboard : session.clipboard with
  | none => exact .inl ⟨_, run_pasteNode_of_empty clipboard parentId⟩
  | some copied => exact (adds_pasteNode clipboard parentId).settles consistent

theorem settles_toggleCollapse (consistent : session.Consistent) (id : String) :
    Settles (toggleCollapse id) .record session := by
  unfold Settles
  rw [run_toggleCollapse]
  cases found : session.document.find? id with
  | none => exact .inl ⟨_, rfl⟩
  | some node =>
    dsimp only
    cases changed : session.document.update? id (.setCollapsed !node.collapsed) with
    | none => exact .inl ⟨_, rfl⟩
    | some document =>
      have sameIds := Forest.ids_of_update? changed
      have committed := consistent.commit_of_perm (.of_eq sameIds)
      have present : id ∈ document.ids := by
        rw [sameIds]
        exact Forest.mem_ids_of_find? found
      dsimp only
      split
      · exact .inr ⟨(), _, rfl, committed.select present, moves_record (history_setSelection _ _)⟩
      · exact .inr ⟨(), _, rfl, committed, moves_record rfl⟩

theorem settles_moveNode (consistent : session.Consistent) (id target : String)
    (placement : Placement) : Settles (moveNode id target placement) .record session := by
  rcases run_moveNode consistent.document_distinct id target placement with
    ⟨document, sameIds, run⟩ | refused
  · exact .inr ⟨(), _, run, consistent.commit_of_perm sameIds, moves_record rfl⟩
  · exact .inl refused

/-! ### Going through the history -/

/-- A document of the history in place of the current one. -/
theorem consistent_restore {earlier : Session} (consistent : session.Consistent) {document : Forest}
    (known : ∀ other ∈ earlier.past ++ document :: earlier.future, other ∈ session.documents)
    (editing : earlier.editing = session.editing) (mode : earlier.mode = session.mode) :
    (earlier.restore document).Consistent := by
  apply Consistent.forgetMissing
  · exact fun other member => consistent.distinct other (known other member)
  · change ∀ edit, earlier.editing = some edit → earlier.mode = .insert
    rw [editing, mode]
    exact consistent.mode

theorem settles_undo (consistent : session.Consistent) : Settles undo .back session := by
  unfold Settles
  rw [run_undo]
  cases earlier : session.past with
  | nil => exact .inl ⟨_, rfl⟩
  | cons document past =>
    refine .inr ⟨(), _, rfl, consistent_restore consistent ?_ rfl rfl, document, past, earlier, ?_⟩
    · intro other
      simp only [documents, earlier, List.mem_append, List.mem_cons]
      grind
    · exact history_restore _ document

theorem settles_redo (consistent : session.Consistent) : Settles redo .forward session := by
  unfold Settles
  rw [run_redo]
  cases later : session.future with
  | nil => exact .inl ⟨_, rfl⟩
  | cons document future =>
    refine .inr ⟨(), _, rfl, consistent_restore consistent ?_ rfl rfl, document, future, later, ?_⟩
    · intro other
      simp only [documents, later, List.mem_append, List.mem_cons]
      grind
    · exact history_restore _ document

/-! ### Selections, edits and panels -/

theorem settles_navigateToDirection (consistent : session.Consistent) (direction : Direction) :
    Settles (navigateToDirection direction) .stay session := by
  have run := run_navigateToDirection direction session
  cases ending : session.document.endRoot? direction with
  | none => exact .inl ⟨_, run.trans (by rw [ending])⟩
  | some node =>
    rw [ending] at run
    exact .stay run (consistent.select (Forest.id_mem_ids_of_endRoot? ending))
      (session.history_setSelection _)

/-- A step that looks a node up and, if it is there, does something short of a new document. -/
theorem Settles.of_found {step : HostM Session Unit} {id : String} {after : Node → Session}
    (run : step.run session = match session.document.find? id with
      | some node => .ok () (after node)
      | none => .error (.nodeNotFound id) session)
    (consistent : id ∈ session.document.ids → ∀ node, (after node).Consistent)
    (history : ∀ node, (after node).history = session.history) : Settles step .stay session := by
  cases found : session.document.find? id with
  | none => exact .inl ⟨_, run.trans (by rw [found])⟩
  | some node =>
    rw [found] at run
    exact .stay run (consistent (Forest.mem_ids_of_find? found) node) (history node)

theorem settles_selectNode (consistent : session.Consistent) (id : Option String) :
    Settles (selectNode id) .stay session := by
  have run := run_selectNode id session
  cases id with
  | none =>
    refine .stay run (consistent.setSelection ?_) (session.history_setSelection none)
    rintro _ ⟨⟩
  | some id =>
    exact .of_found run (fun present _ => consistent.select present)
      fun _ => session.history_setSelection (some id)

theorem settles_beginEdit (consistent : session.Consistent) (id : String)
    (cursor : CursorPlacement) : Settles (beginEdit id cursor) .stay session :=
  .of_found (run_beginEdit id cursor session) (fun present _ => consistent.startEdit present cursor)
    fun _ => session.history_startEdit id cursor

theorem settles_copyNode (consistent : session.Consistent) (id : String) :
    Settles (copyNode id) .stay session :=
  .of_found (run_copyNode id session) (fun _ _ => consistent.congr rfl rfl rfl rfl) fun _ => rfl

theorem settles_centerOnNode (consistent : session.Consistent) (id : String) :
    Settles (centerOnNode id) .stay session :=
  .of_found (run_centerOnNode id session) (fun _ _ => consistent.congr rfl rfl rfl rfl) fun _ => rfl

theorem settles_closeLists (consistent : session.Consistent) :
    Settles closeLists .stay session := by
  refine .inr ⟨(), _, rfl, ?_, ?_⟩
  · dsimp only
    split
    · exact consistent.congr rfl rfl rfl rfl
    · exact consistent
  · change Session.history _ = _
    dsimp only
    split <;> rfl

theorem settles_openContextMenu (consistent : session.Consistent) (x y : Float)
    (id : Option String) : Settles (openContextMenu x y id) .stay session := by
  have run := run_openContextMenu x y id session
  cases id with
  | none => exact .stay run (consistent.congr rfl rfl rfl rfl) rfl
  | some id =>
    exact .of_found run (fun present _ => (consistent.select present).congr rfl rfl rfl rfl)
      fun _ => session.history_setSelection (some id)

theorem settles_closeContextMenu (consistent : session.Consistent) :
    Settles closeContextMenu .stay session := by
  refine .inr ⟨(), _, rfl, ?_, ?_⟩
  · dsimp only
    split
    · exact consistent.congr rfl rfl rfl rfl
    · exact consistent
  · change Session.history _ = _
    dsimp only
    split <;> rfl

/-- How the end of an edit moves in the history: the document changes if a text is given and
differs. -/
def finishMove (session : Session) (text : Option String) : HistoryMove :=
  match session.editing with
  | none => .stay
  | some edit =>
    match text with
    | none => .stay
    | some text => if (session.document.find? edit.id).any (·.text = text) then .stay else .record

/-- The end of an edit cannot fail: the node being edited is still there to be written to. -/
theorem settles_finishEdit (consistent : session.Consistent) (text : Option String) :
    ∃ after, (finishEdit text).run session = .ok () after ∧ after.Consistent ∧
      session.Moves after (session.finishMove text) := by
  rw [run_finishEdit]
  unfold finishMove
  have dropped := consistent.dropEdit.setMode .normal
  cases editing : session.editing with
  | none => exact ⟨session, rfl, consistent, rfl⟩
  | some edit =>
    cases text with
    | none => exact ⟨_, rfl, dropped, history_setMode _ _⟩
    | some text =>
      dsimp only
      by_cases unchanged : (session.document.find? edit.id).any (·.text = text)
      · rw [if_pos unchanged, if_pos unchanged]
        exact ⟨_, rfl, dropped, history_setMode _ _⟩
      · have present := consistent.editing edit editing
        obtain ⟨document, changed⟩ := Forest.exists_update?_of_mem_ids present (.setText text)
        have sameIds := Forest.ids_of_update? changed
        have committed := consistent.dropEdit.commit_of_perm (.of_eq sameIds)
        rw [if_neg unchanged, if_neg unchanged, changed]
        exact ⟨_, rfl, committed.setMode .normal, moves_record (history_setMode _ _)⟩

/-! ### All calls -/

/-- Every call of a consistent session settles. -/
theorem settles_call (consistent : session.Consistent) (request : Request) :
    Settles request.make request.move session := by
  cases request with
  | updateNode id update => exact (settles_updateNode consistent id update).silently
  | deleteNode id => exact (settles_deleteNode consistent id).silently
  | navigateToDirection direction =>
    exact (settles_navigateToDirection consistent direction).silently
  | addChildNode id text startEditing =>
    exact (adds_addChildNode id text startEditing session).settles consistent
  | addSiblingNode id text startEditing =>
    exact (adds_addSiblingNode id text startEditing session).settles consistent
  | copyNode id => exact (settles_copyNode consistent id).silently
  | pasteNode id => exact (settles_pasteNode consistent id).silently
  | undo => exact (settles_undo consistent).silently
  | redo => exact (settles_redo consistent).silently
  | startEditAtStart id => exact (settles_beginEdit consistent id .atStart).silently
  | startEditAtEnd id => exact (settles_beginEdit consistent id .atEnd).silently
  | selectNode id => exact (settles_selectNode consistent id).silently
  | closeLists => exact (settles_closeLists consistent).silently
  | toggleCollapse id => exact (settles_toggleCollapse consistent id).silently
  | moveNode id target placement => exact (settles_moveNode consistent id target placement).silently
  | centerOnNode id => exact (settles_centerOnNode consistent id).silently
  | openContextMenu x y id => exact (settles_openContextMenu consistent x y id).silently
  | closeContextMenu => exact (settles_closeContextMenu consistent).silently

end Session

end MindMap
