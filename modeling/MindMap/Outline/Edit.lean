import MindMap.Outline.Update
import MindMap.Text.Blank

/-!
# Editing an outline

Insertion, removal, moving and updating of subtrees. A place in an outline is given by a target node and
a `Placement` beside or below it. Ids stay distinct: a subtree is refused when one of its ids is taken or
occurs in it twice.

The functions on `Forest` that look for a place return nothing when it does not exist. An `Edit` is a step
on a forest that may fail; the forest it has reached by then is kept either way, so that a step says
itself whether it fails clean.
-/

namespace MindMap

/-- Where a node goes, relative to its target. -/
inductive Placement where
  | before
  | after
  /-- As the last child of the target. -/
  | child
deriving DecidableEq, Repr, Inhabited

/-- The name of a placement. -/
def Placement.name : Placement → String
  | .before => "before"
  | .after => "after"
  | .child => "child"

/-- Why an outline cannot be edited as asked. -/
inductive EditError where
  | notFound (id : String)
  | duplicateId (id : String)
  /-- A node cannot be moved relative to a target inside its own subtree. -/
  | intoSubtree (node target : String)
  | unknownPlacement (name : String)
deriving DecidableEq, Repr

/-- What the error tells the user. -/
def EditError.message : EditError → String
  | .notFound id => s!"node '{id}' not found"
  | .duplicateId id => s!"node id '{id}' already exists"
  | .intoSubtree node target =>
    s!"cannot move node '{node}' relative to '{target}' inside its own subtree"
  | .unknownPlacement name =>
    s!"invalid drop position '{name}' (expected before, after or child)"

/-- Read a placement. Blanks around the name and the case of ASCII letters do not matter. -/
def Placement.ofName (text : String) : Except EditError Placement :=
  match (Text.trim text).map Char.toLower with
  | "before" => .ok .before
  | "after" => .ok .after
  | "child" => .ok .child
  | name => .error (.unknownPlacement name)

/-- The first of some ids that is taken already or occurs among them before. -/
def firstClash? (taken : List String) : List String → Option String
  | [] => none
  | id :: rest => if taken.contains id then some id else firstClash? (id :: taken) rest

namespace Forest

/-- Take the root with an id out of a forest. -/
def takeRoot? (id : String) : Forest → Option (Node × Forest)
  | nil => none
  | cons item children rest =>
    if item.id = id then some (⟨item, children⟩, rest)
    else (rest.takeRoot? id).map fun (node, others) => (node, cons item children others)

/-- Take the node with an id out of what lies below the roots. -/
def takeBelow? (id : String) : Forest → Option (Node × Forest)
  | nil => none
  | cons item children rest =>
    match (children.takeRoot? id).or (children.takeBelow? id) with
    | some (node, others) => some (node, cons item others rest)
    | none => (rest.takeBelow? id).map fun (node, others) => (node, cons item children others)

/-- Take the subtree of an id out of a forest. The roots are looked at before what lies below them. -/
def take? (forest : Forest) (id : String) : Option (Node × Forest) :=
  (forest.takeRoot? id).or (forest.takeBelow? id)

/-- Put a subtree beside or below the root with an id. -/
def placeAtRoot? (node : Node) (target : String) (placement : Placement) : Forest → Option Forest
  | nil => none
  | cons item children rest =>
    if item.id = target then
      match placement with
      | .before => some (push node (cons item children rest))
      | .after => some (cons item children (push node rest))
      | .child => some (cons item (children.snoc node) rest)
    else (rest.placeAtRoot? node target placement).map (cons item children)

/-- Put a subtree beside or below a node that lies below the roots. -/
def placeBelow? (node : Node) (target : String) (placement : Placement) : Forest → Option Forest
  | nil => none
  | cons item children rest =>
    match (children.placeAtRoot? node target placement).or
        (children.placeBelow? node target placement) with
    | some others => some (cons item others rest)
    | none => (rest.placeBelow? node target placement).map (cons item children)

/-- Put a subtree beside or below the node with an id. The roots are looked at before what lies below
them. -/
def place? (forest : Forest) (node : Node) (target : String) (placement : Placement) :
    Option Forest :=
  (forest.placeAtRoot? node target placement).or (forest.placeBelow? node target placement)

/-- Update the node with an id. -/
def update? (id : String) (update : Update) : Forest → Option Forest
  | nil => none
  | cons item children rest =>
    if item.id = id then some (cons (update.apply item) children rest)
    else match children.update? id update with
      | some others => some (cons item others rest)
      | none => (rest.update? id update).map (cons item children)

/-- The first node in pre-order whose id occurred before. -/
def repeatedId? (forest : Forest) : Option String := firstClash? [] forest.ids

/-- The forest, unless an id occurs in it twice. -/
def checkDistinct (forest : Forest) : Except EditError Forest :=
  match forest.repeatedId? with
  | none => .ok forest
  | some id => .error (.duplicateId id)

end Forest

/-- A step on a forest that returns a value or fails. -/
abbrev Edit (α : Type) := EStateM EditError Forest α

namespace Edit

/-- Refuse a subtree with an id that is taken or repeated. -/
def checkFresh (node : Node) : Edit Unit := do
  match firstClash? (← get).ids node.ids with
  | none => return ()
  | some id => throw (.duplicateId id)

/-- Put a subtree after the roots. -/
def pushRoot (node : Node) : Edit Unit := do
  checkFresh node
  modify (·.snoc node)

/-- Put a subtree beside or below a target. -/
def insert (node : Node) (target : String) (placement : Placement) : Edit Unit := do
  unless (← get).contains target do throw (.notFound target)
  checkFresh node
  match (← get).place? node target placement with
  | some forest => set forest
  | none => throw (.notFound target)

/-- Take a subtree out. -/
def remove (id : String) : Edit Node := do
  match (← get).take? id with
  | some (node, forest) => set forest; return node
  | none => throw (.notFound id)

/-- Move a subtree beside or below a target outside it. A subtree that is out already when no place is
found is kept as a last root. -/
def move (id target : String) (placement : Placement) : Edit Unit := do
  let some node := (← get).find? id | throw (.notFound id)
  unless (← get).contains target do throw (.notFound target)
  if node.contains target then throw (.intoSubtree id target)
  let taken ← remove id
  match (← get).place? taken target placement with
  | some forest => set forest
  | none =>
    modify (·.snoc taken)
    throw (.notFound target)

/-- Update a node. -/
def update (id : String) (update : Update) : Edit Unit := do
  match (← get).update? id update with
  | some forest => set forest
  | none => throw (.notFound id)

end Edit

end MindMap
