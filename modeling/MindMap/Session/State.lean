import MindMap.Host
import MindMap.Session.FreshId

/-!
# Sessions

A session is a document being edited: the outline, what is selected, the mode and what is being edited in
it, panels, the clipboard, and the history. Every change that a view would have to show is announced with
the version it leads to; `changes` keeps what has been announced.

The history is a line of documents with a cursor: `past`, the document, `future`. A change forgets the
future and, beyond `historyLimit` documents, the oldest past.
-/

namespace MindMap

/-- The kinds of change that are announced. -/
inductive ChangeKind where
  | document
  | selection
  /-- The mode, or what is being edited. -/
  | mode
  /-- The context menu or a list panel. -/
  | panels
  | view
deriving DecidableEq, Repr, Inhabited

/-- The name of a kind of change. -/
def ChangeKind.name : ChangeKind → String
  | .document => "DocumentModified"
  | .selection => "SelectionChanged"
  | .mode => "ModeChanged"
  | .panels => "PanelsChanged"
  | .view => "ViewCentered"

/-- An announced change, with the versions before and after it. -/
structure Change where
  kind : ChangeKind
  before : Nat
  after : Nat
deriving DecidableEq, Repr

/-- A node whose text is being edited. -/
structure TextEdit where
  id : String
  /-- Where the cursor was when the edit began. -/
  cursor : CursorPlacement
deriving DecidableEq, Repr

/-- An open context menu. -/
structure ContextMenu where
  x : Float
  y : Float
  /-- The node it was opened for. -/
  id : Option String

/-- A document being edited. -/
structure Session where
  document : Forest
  selection : Option String := none
  mode : Mode := .normal
  menu : Option ContextMenu := none
  linkListOpen : Bool := false
  attachmentListOpen : Bool := false
  editing : Option TextEdit := none
  clipboard : Option Node := none
  /-- Earlier documents, latest first. -/
  past : List Forest := []
  /-- Documents that were undone, last undone first. -/
  future : List Forest := []
  /-- The node that the view was last centered on. -/
  centered : Option String := none
  spatial : Spatial := .standard
  /-- The number that the search for a fresh id starts from. -/
  nextId : Nat := 1
  version : Nat := 0
  /-- Whether the document has changed since it was last saved. -/
  modified : Bool := false
  /-- All changes announced, latest first. -/
  changes : List Change := []

/-- The most documents that the past keeps. -/
def historyLimit : Nat := 100

/-- How far a first child is placed from its parent. -/
def childOffset : Float := 200.0

/-- How far a node is placed below the sibling before it. -/
def siblingSpacing : Float := 60.0

/-- The text of a new node that is given none and not edited. -/
def newNodeText : String := "New node"

namespace Session

/-- A session on a document. -/
def ofForest (document : Forest) : Session := { document }

instance : Inhabited Session := ⟨ofForest .nil⟩

/-- A session on a document whose ids are distinct. -/
def create (document : Forest) : Except EditError Session := do
  return ofForest (← document.checkDistinct)

/-- Announce a change that has been made. -/
def announce (session : Session) (kind : ChangeKind) : Session :=
  { session with
    version := session.version + 1
    modified := session.modified || kind = .document
    changes := ⟨kind, session.version, session.version + 1⟩ :: session.changes }

/-- Select a node, or none. -/
def setSelection (session : Session) (id : Option String) : Session :=
  if session.selection = id then session
  else { session with selection := id }.announce .selection

/-- Change the mode. Every mode but insert ends an edit without keeping its text. -/
def setMode (session : Session) (mode : Mode) : Session :=
  let ended := if mode = .insert then session else { session with editing := none }
  if session.mode = mode then ended else { ended with mode := mode }.announce .mode

/-- Open or close the list of links. -/
def setLinkList (session : Session) (isOpen : Bool) : Session :=
  if session.linkListOpen = isOpen then session
  else { session with linkListOpen := isOpen }.announce .panels

/-- Open or close the list of attachments. -/
def setAttachmentList (session : Session) (isOpen : Bool) : Session :=
  if session.attachmentListOpen = isOpen then session
  else { session with attachmentListOpen := isOpen }.announce .panels

/-- Judge nearness in another way. -/
def setSpatial (session : Session) (spatial : Spatial) : Session := { session with spatial }

/-- Note that the document has been saved. -/
def markSaved (session : Session) : Session := { session with modified := false }

/-- Whether anything has been announced since a version. -/
def changedSince (session : Session) (version : Nat) : Bool := version < session.version

/-- Whether there is a change to undo. -/
def canUndo (session : Session) : Bool := !session.past.isEmpty

/-- Whether there is a change to redo. -/
def canRedo (session : Session) : Bool := !session.future.isEmpty

/-- A past with one more document; the oldest is dropped beyond the limit. -/
def remember (document : Forest) (past : List Forest) : List Forest :=
  let longer := document :: past
  if longer.length > historyLimit then longer.dropLast else longer

/-- Forget the selection and the edit if their nodes are gone. -/
def forgetMissing (session : Session) : Session :=
  let selected :=
    if session.selection.any fun id => !session.document.contains id then
      session.setSelection none
    else session
  if selected.editing.any fun edit => !selected.document.contains edit.id then
    selected.setMode .normal
  else selected

/-- Go back to another document of the history. -/
def restore (session : Session) (document : Forest) : Session :=
  ({ session with document }.announce .document).forgetMissing

/-- A fresh id. -/
def allocateId (session : Session) : String × Session :=
  let number := session.document.freeNumber session.nextId
  (numberedId number, { session with nextId := number + 1 })

end Session

end MindMap
