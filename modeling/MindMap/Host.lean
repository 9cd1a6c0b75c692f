import MindMap.Navigation
import MindMap.Outline.Edit

/-!
# Hosts

Commands and gestures do not own the document. They ask a *host* for what they need to know and for what
they want done. `Host` is the interface: an operation on a host's state that may fail, and whose failure
leaves the state as the operation left it. A host provides the operations it can; the others fail as
unavailable, apart from closing the context menu, which then has nothing to close. Nodes are looked up in
the document unless the host has a way of its own.

Nothing is assumed of a host's answers. In particular a host may change its state and then report a
failure.
-/

namespace MindMap

/-- How input is taken. -/
inductive Mode where
  /-- Keys move and edit nodes. -/
  | normal
  /-- Keys are text. -/
  | insert
  /-- A range is being selected. -/
  | visual
  /-- A menu has the keyboard. -/
  | menu
deriving DecidableEq, Repr, Inhabited

/-- The name of a mode. -/
def Mode.name : Mode → String
  | .normal => "normal"
  | .insert => "insert"
  | .visual => "visual"
  | .menu => "menu"

/-- The mode of a name. -/
def Mode.ofName? : String → Option Mode
  | "normal" => some .normal
  | "insert" => some .insert
  | "visual" => some .visual
  | "menu" => some .menu
  | _ => none

/-- What the user is told when no mode has a name. -/
def Mode.unknownMessage (name : String) : String := s!"unknown mode '{name}'"

/-- Where the text cursor starts when a node is edited. -/
inductive CursorPlacement where
  | atStart
  | atEnd
deriving DecidableEq, Repr, Inhabited

/-- Why a command or an operation of a host fails. -/
inductive Failure where
  /-- The host does not provide the operation. -/
  | unsupported (operation : String)
  | noSelection
  | nodeNotFound (id : String)
  /-- An argument has the right type and makes no sense. -/
  | invalidArgument (name reason : String)
  | failed (text : String)
deriving DecidableEq, Repr

namespace Failure

/-- What the failure tells the user. -/
def message : Failure → String
  | unsupported operation => s!"Handler '{operation}' is not available"
  | noSelection => "No node selected"
  | nodeNotFound id => s!"Node '{id}' not found"
  | invalidArgument name reason => s!"Invalid argument '{name}': {reason}"
  | failed text => text

/-- A failed edit as a failed operation. -/
def ofEdit : EditError → Failure
  | .notFound id => nodeNotFound id
  | error => failed error.message

end Failure

/-- What a command or a gesture came to. -/
inductive Reply where
  /-- It was done, perhaps with something to say. -/
  | done (message : Option String)
  /-- It was not done, for the reason given. -/
  | refused (error : String)
deriving DecidableEq, Repr, Inhabited

namespace Reply

/-- Done, with nothing to say. -/
def silent : Reply := done none

/-- Done, with a message. -/
def say (message : String) : Reply := done (some message)

/-- Refused because of a failure. -/
def ofFailure (failure : Failure) : Reply := refused failure.message

/-- Whether it was done. -/
def isDone : Reply → Bool
  | done _ => true
  | refused _ => false

end Reply

/-- A step of a host with states `σ` that returns a value or fails. -/
abbrev HostM (σ α : Type) := EStateM Failure σ α

/-- The failure of an operation that a host does not provide. -/
def HostM.unavailable {σ α : Type} (operation : String) : HostM σ α :=
  throw (.unsupported operation)

/-- What commands and gestures need of the program around them. -/
class Host (σ : Type) where
  /-- The document. -/
  document : σ → Forest
  /-- The id of the selected node. -/
  selection : σ → Option String
  /-- The node of an id, if there is one. -/
  findNode : σ → String → Option Node := fun state id => (document state).find? id
  mode : σ → Mode := fun _ => .normal
  spatial : σ → Spatial := fun _ => .standard
  /-- Whether the list of links is open. -/
  linkListOpen : σ → Bool := fun _ => false
  updateNode (id : String) (update : Update) : HostM σ Unit := .unavailable "updateNode"
  /-- Delete a node with all below it. -/
  deleteNode (id : String) : HostM σ Unit := .unavailable "deleteNode"
  /-- Move somewhere when nothing is selected. -/
  navigateToDirection (direction : Direction) : HostM σ Unit := .unavailable "navigateToDirection"
  /-- Add a node below another, and return its id if one was added. -/
  addChildNode (id : String) (text : Option String) (startEditing : Bool) :
    HostM σ (Option String) := .unavailable "addChildNode"
  /-- Add a node after another, and return its id if one was added. -/
  addSiblingNode (id : String) (text : Option String) (startEditing : Bool) :
    HostM σ (Option String) := .unavailable "addSiblingNode"
  /-- Copy a subtree to the clipboard. -/
  copyNode (id : String) : HostM σ Unit := .unavailable "copyNode"
  /-- Paste the clipboard below a node. -/
  pasteNode (id : String) : HostM σ Unit := .unavailable "pasteNode"
  undo : HostM σ Unit := .unavailable "undo"
  redo : HostM σ Unit := .unavailable "redo"
  startEditAtStart (id : String) : HostM σ Unit := .unavailable "startEditWithCursorAtStart"
  startEditAtEnd (id : String) : HostM σ Unit := .unavailable "startEditWithCursorAtEnd"
  /-- Select a node, or none. -/
  selectNode (id : Option String) : HostM σ Unit := .unavailable "selectNode"
  closeLists : HostM σ Unit := .unavailable "closeAttachmentAndLinkLists"
  toggleCollapse (id : String) : HostM σ Unit := .unavailable "toggleCollapse"
  moveNode (id target : String) (placement : Placement) : HostM σ Unit := .unavailable "moveNode"
  /-- Bring a node to the middle of the view. -/
  centerOnNode (id : String) : HostM σ Unit := .unavailable "centerOnNode"
  /-- Open the context menu at a place, perhaps for a node. -/
  openContextMenu (x y : Float) (id : Option String) : HostM σ Unit := .unavailable "openContextMenu"
  closeContextMenu : HostM σ Unit := pure ()

namespace Host

variable {σ : Type} [Host σ]

/-- Look a node up, or fail. -/
def node (id : String) : HostM σ Node := do
  match findNode (← get) id with
  | some node => return node
  | none => throw (.nodeNotFound id)

end Host

end MindMap
