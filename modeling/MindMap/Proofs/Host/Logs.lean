import MindMap.Canvas.Dispatch
import MindMap.Host.Calls

/-!
# Watched hosts

`Logged σ` is the host `σ` with a log: every call of an operation is passed on and written down, in
order, with what became of it. What `Host.LeadsBy` leaves open can so be told of a host with any answers
at all: which calls are made, in which order, and what is still done after one has failed.

Questions that a host answers without changing its state are passed on and leave no trace.
-/

namespace MindMap

/-- A call that was made of a host: what was asked for, and why it failed if it did. -/
structure Call where
  request : Request
  failure : Option Failure

/-- The failure of the first call that failed. -/
def firstFailure? (calls : List Call) : Option Failure := calls.findSome? (·.failure)

/-- A host with a log of its calls, earliest first. -/
structure Logged (σ : Type) where
  state : σ
  calls : List Call

namespace Logged

variable {σ α : Type}

/-- A host with an empty log. -/
def start (state : σ) : Logged σ := ⟨state, []⟩

/-- Carry out a call for a request, and log it. -/
def record (request : Request) (call : HostM σ α) : HostM (Logged σ) α := fun logged =>
  match call.run logged.state with
  | .ok value reached => .ok value ⟨reached, logged.calls ++ [⟨request, none⟩]⟩
  | .error failure reached => .error failure ⟨reached, logged.calls ++ [⟨request, some failure⟩]⟩

theorem run_record (request : Request) (call : HostM σ α) (logged : Logged σ) :
    (record request call).run logged =
      match call.run logged.state with
      | .ok value reached => .ok value ⟨reached, logged.calls ++ [⟨request, none⟩]⟩
      | .error failure reached =>
        .error failure ⟨reached, logged.calls ++ [⟨request, some failure⟩]⟩ := rfl

instance [Host σ] : Host (Logged σ) where
  document logged := Host.document logged.state
  selection logged := Host.selection logged.state
  mode logged := Host.mode logged.state
  spatial logged := Host.spatial logged.state
  linkListOpen logged := Host.linkListOpen logged.state
  findNode logged id := Host.findNode logged.state id
  updateNode id update := record (.updateNode id update) (Host.updateNode id update)
  deleteNode id := record (.deleteNode id) (Host.deleteNode id)
  navigateToDirection direction :=
    record (.navigateToDirection direction) (Host.navigateToDirection direction)
  addChildNode id text startEditing :=
    record (.addChildNode id text startEditing) (Host.addChildNode id text startEditing)
  addSiblingNode id text startEditing :=
    record (.addSiblingNode id text startEditing) (Host.addSiblingNode id text startEditing)
  copyNode id := record (.copyNode id) (Host.copyNode id)
  pasteNode id := record (.pasteNode id) (Host.pasteNode id)
  undo := record .undo Host.undo
  redo := record .redo Host.redo
  startEditAtStart id := record (.startEditAtStart id) (Host.startEditAtStart id)
  startEditAtEnd id := record (.startEditAtEnd id) (Host.startEditAtEnd id)
  selectNode id := record (.selectNode id) (Host.selectNode id)
  closeLists := record .closeLists Host.closeLists
  toggleCollapse id := record (.toggleCollapse id) (Host.toggleCollapse id)
  moveNode id target placement :=
    record (.moveNode id target placement) (Host.moveNode id target placement)
  centerOnNode id := record (.centerOnNode id) (Host.centerOnNode id)
  openContextMenu x y id := record (.openContextMenu x y id) (Host.openContextMenu x y id)
  closeContextMenu := record .closeContextMenu Host.closeContextMenu

end Logged

end MindMap
