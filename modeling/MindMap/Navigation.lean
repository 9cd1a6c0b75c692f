import MindMap.Outline.Forest

/-!
# Navigation

Where a motion from a node leads. The tree comes first: left goes to the parent, right to the child
that is vertically closest, up and down along the siblings and, past their ends, to the neighbouring
root. A count repeats a motion as far as it goes. Only where the tree offers nothing does the plane
decide: the nearest visible node that lies in the direction.

A motion to the right may pass through collapsed nodes; its outcome lists them, so that the caller can
expand them and so make the target visible. A motion that leads nowhere is no failure.
-/

namespace MindMap

/-- The direction of a motion. -/
inductive Direction where
  | left
  | right
  | up
  | down
deriving DecidableEq, Repr, Inhabited

/-- The name of a direction, which is also the name of the command that moves there. -/
def Direction.name : Direction → String
  | .left => "left"
  | .right => "right"
  | .up => "up"
  | .down => "down"

/-- Where something lies that is in a direction, as a phrase. -/
def Direction.relation : Direction → String
  | .left => "to the left of"
  | .right => "to the right of"
  | .up => "above"
  | .down => "below"

/-- How nearness on the plane is judged. -/
structure Spatial where
  /-- A candidate must be further away than this along the direction. -/
  minimum : Float
  /-- What distance across the direction counts, relative to distance along it. -/
  crossWeight : Float

/-- The usual judgement. -/
def Spatial.standard : Spatial := ⟨20.0, 0.5⟩

instance : Inhabited Spatial := ⟨.standard⟩

/-- Where a motion leads. -/
structure Motion where
  target : String
  /-- The collapsed nodes above the target, to be expanded in this order. -/
  expand : List String
deriving DecidableEq, Repr

/-- A motion that needs nothing expanded. -/
def Motion.to (node : Node) : Motion := ⟨node.id, []⟩

/-- The better of the best candidate so far and another: the other only if it is not at least as far.
A distance that cannot be compared counts as nearer. -/
def nearer (best : Option (Node × Float)) (candidate : Node × Float) : Option (Node × Float) :=
  match best with
  | some (_, distance) => if candidate.2 ≥ distance then best else some candidate
  | none => some candidate

/-- The first of the nearest candidates. -/
def nearest (candidates : List (Node × Float)) : Option Node :=
  (candidates.foldl nearer none).map (·.1)

namespace Node

/-- The child whose height differs least from the node's; of several, the first. -/
def closestChild? (node : Node) : Option Node :=
  nearest (node.children.roots.map fun child => (child, (child.y - node.y).abs))

/-- Go down `count` times to the closest child, as far as there is one. Returns the node reached and the
collapsed nodes left on the way. -/
def descend (node : Node) : Nat → Node × List String
  | 0 => (node, [])
  | count + 1 =>
    match node.closestChild? with
    | none => (node, [])
    | some child =>
      let (reached, expand) := child.descend count
      (reached, if node.collapsed then node.id :: expand else expand)

end Node

namespace Forest

/-- Go up `count` times to the parent, as far as there is one. -/
def climb (forest : Forest) (node : Node) : Nat → Node
  | 0 => node
  | count + 1 =>
    match forest.parent? node.id with
    | none => node
    | some parent => forest.climb parent count

/-- Motion to an ancestor. -/
def parentMotion? (forest : Forest) (node : Node) (count : Nat) : Option Motion :=
  (forest.parent? node.id).map fun parent => .to (forest.climb parent (count - 1))

/-- Motion to a descendant. -/
def childMotion? (node : Node) (count : Nat) : Option Motion :=
  match node.closestChild? with
  | none => none
  | some _ =>
    let (reached, expand) := node.descend count
    some ⟨reached.id, expand⟩

/-- The index `count` places down or up from `index` in a list of `length`, as far as the list goes. -/
def clampedIndex (downward : Bool) (length index count : Nat) : Nat :=
  if downward then index + min count (length - 1 - index) else index - min count index

/-- Motion along the siblings or, at their end, to the neighbouring root. -/
def siblingMotion? (forest : Forest) (node : Node) (downward : Bool) (count : Nat) :
    Option Motion := do
  let (siblings, index) ← forest.siblings? node.id
  let target := clampedIndex downward siblings.roots.length index count
  if target ≠ index then (siblings.root? target).map .to
  else
    let root ← forest.rootIndex? node.id
    if downward then (forest.root? (root + 1)).map .to
    else if root = 0 then none
    else (forest.root? (root - 1)).map .to

/-- How far a candidate is from a node in a direction, or nothing if it does not lie there. -/
def spatialScore? (fromNode candidate : Node) (direction : Direction) (spatial : Spatial) :
    Option Float :=
  let dx := candidate.x - fromNode.x
  let dy := candidate.y - fromNode.y
  let (along, across) := match direction with
    | .right => (dx, dy)
    | .left => (-dx, dy)
    | .down => (dy, dx)
    | .up => (-dy, dx)
  if along > spatial.minimum then some (along + spatial.crossWeight * across.abs) else none

/-- The nearest visible node in a direction. -/
def spatialTarget? (forest : Forest) (node : Node) (direction : Direction) (spatial : Spatial) :
    Option Node :=
  nearest <| forest.visible.filterMap fun candidate =>
    if candidate.id = node.id then none
    else (spatialScore? node candidate direction spatial).map (candidate, ·)

/-- Motion that the tree offers. -/
def treeMotion? (forest : Forest) (node : Node) (direction : Direction) (count : Nat) :
    Option Motion :=
  match direction with
  | .left => forest.parentMotion? node count
  | .right => childMotion? node count
  | .up => forest.siblingMotion? node false count
  | .down => forest.siblingMotion? node true count

/-- Where a motion from the node with an id leads. A count of zero counts as one. -/
def navigate? (forest : Forest) (id : String) (direction : Direction) (count : Nat)
    (spatial : Spatial) : Option Motion := do
  let node ← forest.find? id
  match forest.treeMotion? node direction (max count 1) with
  | some motion => some motion
  | none => (forest.spatialTarget? node direction spatial).map .to

end Forest

end MindMap
