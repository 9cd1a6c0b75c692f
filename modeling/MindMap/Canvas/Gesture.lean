import MindMap.Outline.Edit

/-!
# Gestures

What a pointer does on the canvas. Every gesture has a place; some are about a node, and the end of a drag
is about two.
-/

namespace MindMap

/-- What a pointer did. -/
inductive GestureKind where
  /-- A click beside all nodes. -/
  | backgroundClick
  /-- A request for the context menu beside all nodes. -/
  | backgroundMenu
  | nodeClick (id : String)
  | nodeDoubleClick (id : String)
  /-- A request for the context menu of a node. -/
  | nodeMenu (id : String)
  /-- A node was dragged and dropped at a place relative to another. -/
  | dragEnd (dragged target : String) (placement : Placement)
  | press
  | release
  | wheel (deltaX deltaY : Float)

/-- What a pointer did, and where. -/
structure Gesture where
  x : Float
  y : Float
  kind : GestureKind

/-- The name of a kind of gesture. -/
def GestureKind.name : GestureKind → String
  | .backgroundClick => "bgClick"
  | .backgroundMenu => "contextMenu"
  | .nodeClick _ => "nodeClick"
  | .nodeDoubleClick _ => "nodeDoubleClick"
  | .nodeMenu _ => "nodeContextMenu"
  | .dragEnd .. => "nodeDragEnd"
  | .press => "mouseDown"
  | .release => "mouseUp"
  | .wheel .. => "wheel"

end MindMap
