import MindMap.Session.Operations

/-!
# Changes of a session

The changes that operations are made of, and what each leaves as it was. `history` is the line of
documents with the current one; a selection, a mode or an edit is no part of it.
-/

namespace MindMap

namespace Session

/-- The documents that a session can go to: earlier ones, the current one, later ones. -/
def history (session : Session) : List Forest × Forest × List Forest :=
  (session.past, session.document, session.future)

/-- Replace the document and remember the one before it. -/
def commit (session : Session) (document : Forest) : Session :=
  { session with
    document
    past := remember session.document session.past
    future := [] }.announce .document

/-- Select a node and edit it. -/
def startEdit (session : Session) (id : String) (cursor : CursorPlacement) : Session :=
  let selected := session.setSelection (some id)
  { selected with editing := some ⟨id, cursor⟩, mode := .insert }.announce .mode

/-- Leave the edit without its text. -/
def dropEdit (session : Session) : Session := { session with editing := none }

/-- Select a new node and, if asked, edit it. -/
def shown (session : Session) (id : String) (startEditing : Bool) : Session :=
  if startEditing then (session.setSelection (some id)).startEdit id .atEnd
  else session.setSelection (some id)

/-- Let the next search for a fresh id start from a number. -/
def countFrom (session : Session) (nextId : Nat) : Session := { session with nextId }

/-- The session after a subtree with fresh ids has become part of its document and been shown. -/
def grown (session : Session) (nextId : Nat) (larger : Forest) (id : String) (startEditing : Bool) :
    Session :=
  ((session.countFrom nextId).commit larger).shown id startEditing

/-- Open the context menu. -/
def openMenu (session : Session) (x y : Float) (id : Option String) : Session :=
  { session with menu := some ⟨x, y, id⟩ }.announce .panels

/-- Forget the selection if its node is gone. -/
def forgetSelection (session : Session) : Session :=
  if session.selection.any fun id => !session.document.contains id then session.setSelection none
  else session

/-- Forget the edit if its node is gone. -/
def forgetEdit (session : Session) : Session :=
  if session.editing.any fun edit => !session.document.contains edit.id then session.setMode .normal
  else session

variable (session : Session)

/-! ### Selecting -/

@[simp] theorem document_setSelection (id : Option String) :
    (session.setSelection id).document = session.document := by
  unfold setSelection
  split <;> rfl

@[simp] theorem history_setSelection (id : Option String) :
    (session.setSelection id).history = session.history := by
  unfold setSelection
  split <;> rfl

@[simp] theorem selection_setSelection (id : Option String) :
    (session.setSelection id).selection = id := by
  unfold setSelection
  split
  · next same => exact same
  · rfl

@[simp] theorem mode_setSelection (id : Option String) :
    (session.setSelection id).mode = session.mode := by
  unfold setSelection
  split <;> rfl

@[simp] theorem editing_setSelection (id : Option String) :
    (session.setSelection id).editing = session.editing := by
  unfold setSelection
  split <;> rfl

/-! ### Modes and edits -/

@[simp] theorem history_setMode (mode : Mode) :
    (session.setMode mode).history = session.history := by
  unfold setMode
  dsimp only
  split <;> split <;> rfl

@[simp] theorem document_setMode (mode : Mode) :
    (session.setMode mode).document = session.document :=
  congrArg (·.2.1) (session.history_setMode mode)

@[simp] theorem selection_setMode (mode : Mode) :
    (session.setMode mode).selection = session.selection := by
  unfold setMode
  dsimp only
  split <;> split <;> rfl

@[simp] theorem mode_setMode (mode : Mode) : (session.setMode mode).mode = mode := by
  unfold setMode
  dsimp only
  split
  · next same => split <;> exact same
  · rfl

theorem editing_setMode (mode : Mode) :
    (session.setMode mode).editing = if mode = .insert then session.editing else none := by
  unfold setMode
  dsimp only
  split <;> split <;> rfl

@[simp] theorem document_dropEdit : session.dropEdit.document = session.document := rfl

@[simp] theorem history_startEdit (id : String) (cursor : CursorPlacement) :
    (session.startEdit id cursor).history = session.history :=
  session.history_setSelection (some id)

@[simp] theorem selection_startEdit (id : String) (cursor : CursorPlacement) :
    (session.startEdit id cursor).selection = some id :=
  session.selection_setSelection (some id)

/-! ### Documents -/

theorem forgetMissing_eq : session.forgetMissing = session.forgetSelection.forgetEdit := rfl

@[simp] theorem history_forgetSelection : session.forgetSelection.history = session.history := by
  unfold forgetSelection
  split <;> simp

@[simp] theorem editing_forgetSelection : session.forgetSelection.editing = session.editing := by
  unfold forgetSelection
  split <;> simp

@[simp] theorem mode_forgetSelection : session.forgetSelection.mode = session.mode := by
  unfold forgetSelection
  split <;> simp

@[simp] theorem history_forgetEdit : session.forgetEdit.history = session.history := by
  unfold forgetEdit
  split <;> simp

@[simp] theorem history_forgetMissing : session.forgetMissing.history = session.history := by
  simp [forgetMissing_eq]

@[simp] theorem document_forgetMissing : session.forgetMissing.document = session.document :=
  congrArg (·.2.1) session.history_forgetMissing

@[simp] theorem document_commit (document : Forest) :
    (session.commit document).document = document := rfl

@[simp] theorem history_restore (document : Forest) :
    (session.restore document).history = (session.past, document, session.future) :=
  history_forgetMissing _

@[simp] theorem history_shown (id : String) (startEditing : Bool) :
    (session.shown id startEditing).history = session.history := by
  unfold shown
  split <;> simp

@[simp] theorem history_grown (nextId : Nat) (larger : Forest) (id : String) (startEditing : Bool) :
    (session.grown nextId larger id startEditing).history = (session.commit larger).history :=
  history_shown _ id startEditing

@[simp] theorem document_grown (nextId : Nat) (larger : Forest) (id : String)
    (startEditing : Bool) : (session.grown nextId larger id startEditing).document = larger :=
  congrArg (·.2.1) (session.history_grown nextId larger id startEditing)

end Session

end MindMap
