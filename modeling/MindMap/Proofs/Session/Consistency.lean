import MindMap.Proofs.Session.Outcomes

/-!
# Consistency of sessions

The invariant of a session: no document of its history has an id twice, the selection is a node of
the document, and so is the node being edited, which is edited in insert mode. Each change that
operations are made of has a statement here of what it needs to keep the invariant. A document in
place of another is the delicate one: either it has all nodes of the other, or the session must
forget what is missing from it.

The open context menu and the node that the view is centered on are no part of the invariant: their
nodes may be gone.
-/

namespace MindMap

namespace Session

variable {session : Session}

/-- All documents that a session can go to, its own included. -/
def documents (session : Session) : List Forest :=
  session.past ++ session.document :: session.future

/-- What always holds of a session between operations. -/
structure Consistent (session : Session) : Prop where
  /-- No id occurs twice, in any document of the history. -/
  distinct : ∀ document ∈ session.documents, document.Distinct
  /-- The selection is a node of the document. -/
  selection : ∀ id, session.selection = some id → id ∈ session.document.ids
  /-- The node being edited is one of the document. -/
  editing : ∀ edit, session.editing = some edit → edit.id ∈ session.document.ids
  /-- Text is edited in insert mode. -/
  mode : ∀ edit, session.editing = some edit → session.mode = .insert

theorem documents_eq_of_history {before after : Session} (same : after.history = before.history) :
    after.documents = before.documents ∧ after.document = before.document := by
  simp only [history, Prod.mk.injEq] at same
  simp [documents, same]

theorem mem_remember {document other : Forest} {past : List Forest}
    (member : other ∈ remember document past) : other = document ∨ other ∈ past := by
  unfold remember at member
  dsimp only at member
  split at member
  · exact List.mem_cons.mp ((List.dropLast_sublist _).subset member)
  · exact List.mem_cons.mp member

namespace Consistent

theorem document_distinct (consistent : session.Consistent) : session.document.Distinct :=
  consistent.distinct session.document (by simp [documents])

/-- Consistency does not look at panels, the clipboard, the view or what has been announced. -/
theorem congr {after : Session} (consistent : session.Consistent)
    (history : after.history = session.history) (selection : after.selection = session.selection)
    (editing : after.editing = session.editing) (mode : after.mode = session.mode) :
    after.Consistent := by
  obtain ⟨documents, document⟩ := documents_eq_of_history history
  constructor
  · rw [documents]
    exact consistent.distinct
  · rw [selection, document]
    exact consistent.selection
  · rw [editing, document]
    exact consistent.editing
  · rw [editing, mode]
    exact consistent.mode

theorem setSelection (consistent : session.Consistent) {id : Option String}
    (present : ∀ selected, id = some selected → selected ∈ session.document.ids) :
    (session.setSelection id).Consistent := by
  obtain ⟨documents, document⟩ := documents_eq_of_history (session.history_setSelection id)
  constructor
  · rw [documents]
    exact consistent.distinct
  · rw [selection_setSelection, document]
    exact present
  · rw [editing_setSelection, document]
    exact consistent.editing
  · rw [editing_setSelection, mode_setSelection]
    exact consistent.mode

theorem select (consistent : session.Consistent) {id : String}
    (present : id ∈ session.document.ids) : (session.setSelection (some id)).Consistent := by
  apply consistent.setSelection
  rintro _ ⟨⟩
  exact present

theorem startEdit (consistent : session.Consistent) {id : String}
    (present : id ∈ session.document.ids) (cursor : CursorPlacement) :
    (session.startEdit id cursor).Consistent := by
  obtain ⟨documents, document⟩ := documents_eq_of_history (session.history_startEdit id cursor)
  constructor
  · rw [documents]
    exact consistent.distinct
  · rw [selection_startEdit, document]
    rintro _ ⟨⟩
    exact present
  · rw [document]
    rintro _ ⟨⟩
    exact present
  · intro _ _
    rfl

theorem shown (consistent : session.Consistent) {id : String} (present : id ∈ session.document.ids)
    (startEditing : Bool) : (session.shown id startEditing).Consistent := by
  have selected := consistent.select present
  unfold Session.shown
  split
  · exact selected.startEdit (by rwa [document_setSelection]) .atEnd
  · exact selected

theorem setMode (consistent : session.Consistent) (mode : Mode) :
    (session.setMode mode).Consistent := by
  obtain ⟨documents, document⟩ := documents_eq_of_history (session.history_setMode mode)
  constructor
  · rw [documents]
    exact consistent.distinct
  · rw [selection_setMode, document]
    exact consistent.selection
  · rw [editing_setMode, document]
    split
    · exact consistent.editing
    · rintro _ ⟨⟩
  · rw [editing_setMode, mode_setMode]
    split
    · next insert => exact fun _ _ => insert
    · rintro _ ⟨⟩

theorem dropEdit (consistent : session.Consistent) : session.dropEdit.Consistent where
  distinct := consistent.distinct
  selection := consistent.selection
  editing := by rintro _ ⟨⟩
  mode := by rintro _ ⟨⟩

/-- The documents of a session after a change were there before, or are the new one. -/
theorem distinct_commit (consistent : session.Consistent) {document : Forest}
    (distinct : document.Distinct) :
    ∀ other ∈ (session.commit document).documents, other.Distinct := by
  intro other member
  have cases : other ∈ remember session.document session.past ∨ other = document := by
    simpa [documents, commit, announce] using member
  rcases cases with earlier | rfl
  · rcases mem_remember earlier with rfl | inPast
    · exact consistent.document_distinct
    · exact consistent.distinct other (by simp [documents, inPast])
  · exact distinct

/-- A new document that has all nodes of the one before. -/
theorem commit (consistent : session.Consistent) {document : Forest} (distinct : document.Distinct)
    (kept : ∀ id ∈ session.document.ids, id ∈ document.ids) :
    (session.commit document).Consistent where
  distinct := consistent.distinct_commit distinct
  selection := fun id selected => kept id (consistent.selection id selected)
  editing := fun edit isOpen => kept edit.id (consistent.editing edit isOpen)
  mode := consistent.mode

/-- A new document with the same ids, in whatever order. -/
theorem commit_of_perm (consistent : session.Consistent) {document : Forest}
    (sameIds : document.ids.Perm session.document.ids) : (session.commit document).Consistent := by
  apply consistent.commit
  · exact sameIds.nodup_iff.mpr consistent.document_distinct
  · intro id member
    exact sameIds.mem_iff.mpr member

/-- A session that has forgotten an edit whose node is gone is consistent if all else of it is. -/
theorem forgetEdit (distinct : ∀ document ∈ session.documents, document.Distinct)
    (selection : ∀ id, session.selection = some id → id ∈ session.document.ids)
    (mode : ∀ edit, session.editing = some edit → session.mode = .insert) :
    session.forgetEdit.Consistent := by
  unfold Session.forgetEdit
  split
  · obtain ⟨documents, document⟩ := documents_eq_of_history (session.history_setMode .normal)
    constructor
    · rwa [documents]
    · rwa [selection_setMode, document]
    · rw [editing_setMode]
      rintro _ ⟨⟩
    · rw [editing_setMode]
      rintro _ ⟨⟩
  · next notGone =>
    refine ⟨distinct, selection, fun edit isOpen => ?_, mode⟩
    rw [isOpen] at notGone
    exact Forest.contains_iff_mem_ids.mp (by simpa using notGone)

theorem selection_forgetSelection {id : String}
    (selected : session.forgetSelection.selection = some id) :
    id ∈ session.document.ids := by
  unfold Session.forgetSelection at selected
  split at selected
  · simp at selected
  · next notGone =>
    rw [selected] at notGone
    exact Forest.contains_iff_mem_ids.mp (by simpa using notGone)

/-- Whatever the document has lost, a session that forgets what is missing is consistent. -/
theorem forgetMissing (distinct : ∀ document ∈ session.documents, document.Distinct)
    (mode : ∀ edit, session.editing = some edit → session.mode = .insert) :
    session.forgetMissing.Consistent := by
  obtain ⟨documents, document⟩ := documents_eq_of_history session.history_forgetSelection
  rw [forgetMissing_eq]
  apply forgetEdit
  · rwa [documents]
  · intro id selected
    rw [document]
    exact selection_forgetSelection selected
  · rwa [editing_forgetSelection, mode_forgetSelection]

end Consistent

end Session

end MindMap
