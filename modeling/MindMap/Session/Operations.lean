import MindMap.Session.State

/-!
# Operations of a session

What a session does for commands and gestures, as steps that may fail. Each looks before it changes
anything; the one that must change something first, a step on the document, keeps what the step reached.
-/

namespace MindMap

namespace Session

/-- Do something to the document. If it succeeds, the document before it becomes the latest past and the
future is forgotten. -/
def mutate {α : Type} (edit : Edit α) : HostM Session α := fun session =>
  match edit.run session.document with
  | .error error reached => .error (.ofEdit error) { session with document := reached }
  | .ok value reached =>
    .ok value
      ({ session with
        document := reached
        past := remember session.document session.past
        future := [] }.announce .document)

/-- Look a node up, or fail. -/
def findNode (id : String) : HostM Session Node := do
  match (← get).document.find? id with
  | some node => return node
  | none => throw (.nodeNotFound id)

/-- Update a node. An update that changes nothing is no change, whatever the id. -/
def updateNode (id : String) (update : Update) : HostM Session Unit :=
  if update.isEmpty then pure () else mutate (.update id update)

/-- Begin to edit the text of a node. -/
def beginEdit (id : String) (cursor : CursorPlacement) : HostM Session Unit := do
  let _ ← findNode id
  modify fun session =>
    let selected := session.setSelection (some id)
    { selected with editing := some ⟨id, cursor⟩, mode := .insert }.announce .mode

/-- End the edit, if there is one, and write its text to the node if a text is given and differs. -/
def finishEdit (text : Option String) : HostM Session Unit := do
  match (← get).editing with
  | none => return ()
  | some edit =>
    modify fun session => { session with editing := none }
    match text with
    | none => pure ()
    | some text =>
      let unchanged := ((← get).document.find? edit.id).any fun node => node.text = text
      unless unchanged do updateNode edit.id (.setText text)
    modify (·.setMode .normal)

/-- Delete a subtree. A selection inside it goes to the parent. -/
def deleteNode (id : String) : HostM Session Unit := do
  let parent := ((← get).document.parent? id).map (·.id)
  let _ ← mutate (.remove id)
  modify fun session =>
    let selected :=
      if session.selection.any fun selected => !session.document.contains selected then
        session.setSelection parent
      else session
    selected.forgetMissing

/-- Select the last root for a motion up and the first for any other. -/
def navigateToDirection (direction : Direction) : HostM Session Unit := do
  let roots := (← get).document.roots
  let target := match direction with
    | .up => roots.getLast?
    | .left | .right | .down => roots.head?
  match target with
  | some node => modify (·.setSelection (some node.id))
  | none => throw (.failed "Document is empty")

/-- Where a new last child of a node is placed. -/
def childSlot (parent : Node) : Float × Float :=
  match parent.children.roots.getLast? with
  | some last => (last.x, last.y + siblingSpacing)
  | none => (parent.x + childOffset, parent.y)

/-- The text of a new node. -/
def textOfNew (text : Option String) (startEditing : Bool) : String :=
  match text with
  | some text => text
  | none => if startEditing then "" else newNodeText

/-- A new node with a fresh id. -/
def newNode (text : Option String) (startEditing : Bool) (place : Float × Float) :
    HostM Session Node := do
  let (id, session) := (← get).allocateId
  set session
  return Item.leaf { Item.plain id (textOfNew text startEditing) with x := place.1, y := place.2 }

/-- Put a subtree below a node and show the node's children. -/
def insertShown (node : Node) (parent : String) : Edit Unit := do
  Edit.insert node parent .child
  Edit.update parent (.setCollapsed false)

/-- Select a new node and, if asked, begin to edit it. -/
def showNew (id : String) (startEditing : Bool) : HostM Session Unit := do
  modify (·.setSelection (some id))
  if startEditing then beginEdit id .atEnd

/-- Add a node as the last child of another. -/
def addChildNode (parentId : String) (text : Option String) (startEditing : Bool) :
    HostM Session (Option String) := do
  let parent ← findNode parentId
  let node ← newNode text startEditing (childSlot parent)
  mutate (insertShown node parentId)
  showNew node.id startEditing
  return some node.id

/-- Add a node directly after another. -/
def addSiblingNode (anchorId : String) (text : Option String) (startEditing : Bool) :
    HostM Session (Option String) := do
  let anchor ← findNode anchorId
  let node ← newNode text startEditing (anchor.x, anchor.y + siblingSpacing)
  mutate (.insert node anchorId .after)
  showNew node.id startEditing
  return some node.id

/-- Copy a subtree to the clipboard. -/
def copyNode (id : String) : HostM Session Unit := do
  let node ← findNode id
  modify fun session => { session with clipboard := some node }

/-- Paste the clipboard as the last child of a node, with fresh ids, moved as a whole to its place. -/
def pasteNode (parentId : String) : HostM Session Unit := do
  let some copied := (← get).clipboard | throw (.failed "Clipboard is empty")
  let parent ← findNode parentId
  let (x, y) := childSlot parent
  let (renumbered, nextId) := copied.renumber (← get).document (← get).nextId
  modify fun session => { session with nextId }
  let node := renumbered.shift (x - renumbered.x) (y - renumbered.y)
  mutate (insertShown node parentId)
  modify (·.setSelection (some node.id))

/-- Go back to the document before the last change. -/
def undo : HostM Session Unit := do
  match (← get).past with
  | [] => throw (.failed "Nothing to undo")
  | document :: past =>
    modify fun session =>
      { session with past, future := session.document :: session.future }.restore document

/-- Go forward to the document that was undone last. -/
def redo : HostM Session Unit := do
  match (← get).future with
  | [] => throw (.failed "Nothing to redo")
  | document :: future =>
    modify fun session =>
      { session with future, past := session.document :: session.past }.restore document

/-- Select a node, or none. -/
def selectNode (id : Option String) : HostM Session Unit := do
  match id with
  | none => pure ()
  | some id => let _ ← findNode id
  modify (·.setSelection id)

/-- Close the lists of attachments and links. -/
def closeLists : HostM Session Unit :=
  modify fun session =>
    if session.linkListOpen || session.attachmentListOpen then
      { session with linkListOpen := false, attachmentListOpen := false }.announce .panels
    else session

/-- Collapse or expand a node. A selection that is hidden by it goes to the node. -/
def toggleCollapse (id : String) : HostM Session Unit := do
  let node ← findNode id
  let collapsing := !node.collapsed
  let hidesSelection := collapsing &&
    (← get).selection.any fun selected => selected ≠ id && node.contains selected
  mutate (.update id (.setCollapsed collapsing))
  if hidesSelection then modify (·.setSelection (some id))

/-- Move a subtree beside or below a node. -/
def moveNode (id target : String) (placement : Placement) : HostM Session Unit :=
  mutate (.move id target placement)

/-- Bring a node to the middle of the view. -/
def centerOnNode (id : String) : HostM Session Unit := do
  let _ ← findNode id
  modify fun session => { session with centered := some id }.announce .view

/-- Open the context menu. A node it is opened for is selected. -/
def openContextMenu (x y : Float) (id : Option String) : HostM Session Unit := do
  if id.isSome then selectNode id
  modify fun session => { session with menu := some ⟨x, y, id⟩ }.announce .panels

/-- Close the context menu, if it is open. -/
def closeContextMenu : HostM Session Unit :=
  modify fun session =>
    if session.menu.isSome then { session with menu := none }.announce .panels else session

instance : Host Session where
  document := document
  selection := selection
  mode := mode
  spatial := spatial
  linkListOpen := linkListOpen
  updateNode := updateNode
  deleteNode := deleteNode
  navigateToDirection := navigateToDirection
  addChildNode := addChildNode
  addSiblingNode := addSiblingNode
  copyNode := copyNode
  pasteNode := pasteNode
  undo := undo
  redo := redo
  startEditAtStart id := beginEdit id .atStart
  startEditAtEnd id := beginEdit id .atEnd
  selectNode := selectNode
  closeLists := closeLists
  toggleCollapse := toggleCollapse
  moveNode := moveNode
  centerOnNode := centerOnNode
  openContextMenu := openContextMenu
  closeContextMenu := closeContextMenu

end Session

end MindMap
