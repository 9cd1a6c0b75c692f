import MindMap.Host.Calls
import MindMap.Table

/-!
# A host that answers from a script

`ScriptedHost` never changes its document. It provides the operations that a script lists, fails those that
the script says fail, and keeps a record of every request for an operation it provides. What commands and
gestures ask of a host can so be observed apart from any session.
-/

namespace MindMap

/-- A host that answers from a script and records what it is asked. -/
structure ScriptedHost where
  document : Forest
  selection : Option String
  mode : Mode := .normal
  spatial : Spatial := .standard
  linkListOpen : Bool := false
  /-- The operations it provides. -/
  provided : List String
  /-- Whether it provides all operations. -/
  providesAll : Bool := false
  /-- The operations that fail, with what they say. -/
  failing : Table String := .empty
  /-- The id that it says it has added. -/
  created : Option String := none
  /-- What it was asked, latest first. -/
  requests : List Request := []

namespace ScriptedHost

/-- Whether the host provides an operation. -/
def provides (host : ScriptedHost) (operation : String) : Bool :=
  host.providesAll || host.provided.contains operation

/-- Answer a request for an operation that is provided. -/
def answer (request : Request) : HostM ScriptedHost Unit := do
  modify fun host => { host with requests := request :: host.requests }
  match (← get).failing.get? request.operation with
  | some text => throw (.failed text)
  | none => return ()

/-- Answer a request, or fail because the operation is not provided. -/
def ask (request : Request) : HostM ScriptedHost Unit := do
  if (← get).provides request.operation then answer request
  else .unavailable request.operation

/-- Answer a request to add a node. -/
def askAdding (request : Request) : HostM ScriptedHost (Option String) := do
  ask request
  return (← get).created

instance : Host ScriptedHost where
  document := document
  selection := selection
  mode := mode
  spatial := spatial
  linkListOpen := linkListOpen
  updateNode id update := ask (.updateNode id update)
  deleteNode id := ask (.deleteNode id)
  navigateToDirection direction := ask (.navigateToDirection direction)
  addChildNode id text startEditing := askAdding (.addChildNode id text startEditing)
  addSiblingNode id text startEditing := askAdding (.addSiblingNode id text startEditing)
  copyNode id := ask (.copyNode id)
  pasteNode id := ask (.pasteNode id)
  undo := ask .undo
  redo := ask .redo
  startEditAtStart id := ask (.startEditAtStart id)
  startEditAtEnd id := ask (.startEditAtEnd id)
  selectNode id := do
    ask (.selectNode id)
    modify fun host => { host with selection := id }
  closeLists := ask .closeLists
  toggleCollapse id := ask (.toggleCollapse id)
  moveNode id target placement := ask (.moveNode id target placement)
  centerOnNode id := ask (.centerOnNode id)
  openContextMenu x y id := ask (.openContextMenu x y id)
  closeContextMenu := do
    if (← get).provides Request.closeContextMenu.operation then answer .closeContextMenu

end ScriptedHost

end MindMap
